import RpcEndpoint.Display
import RpcEndpoint.Script.Run

/-!
# Running a script on a host

A script drives a host and the connection that it gives out. What hooks, sinks and callbacks hear is
collected under their tags until the script asks for it.
-/

namespace RpcEndpoint.Script

/-- The wire of a host that is driven by a script. -/
abbrev HostWire := ProcessWire (Watcher String)

/-- One step of a script on a host. -/
inductive HostStep where
  | start
  | getOrStart
  | state
  | stop
  | drop
  | onTermination (tag : String)
  | onErrors (tag : String)
  /-- Takes what has been collected, once there is so much of it. -/
  | await (tag : String) (count : Nat)
  | describe
  | config
  /-- Does something with the connection. -/
  | act (action : Action)
  | wait (tag : String)
  | stats

/-- What is collected under a tag. -/
inductive Heard where
  | line (text : String)
  | ended (exit : Option ExitStatus)
  | noted (note : Note)

/-- What a step on a host shows. -/
inductive HostAnswer where
  | done
  /-- There is no connection. -/
  | absent
  /-- The host was given up. -/
  | dropped
  | started (outcome : Except ProcessFailure Unit)
  | state (status : Status) (isConnected : Bool)
  | collected (heard : List Heard)
  | description (text : String)
  | config (config : Config)
  | answer (answer : Answer)
  | stats (stats : Stats)

/-- A script on a host on its way. -/
structure HostStage where
  host : Host app String
  /-- Whether the script has been given the connection. -/
  connected : Bool
  /-- Whether the host was given up. -/
  dropped : Bool
  /-- What has been heard and not been asked for, each with its tag. -/
  heard : List (String × Heard)

namespace HostStage

/-- A script before its first step. -/
def new (config : Config) : HostStage :=
  ⟨.new config .empty, false, false, []⟩

/-! ## What is collected -/

/-- What an entry of the log tells, and to whom. -/
def heardInLog? : Occurrence app → Option (String × Heard)
  | .noted (.notification tag notification) =>
    some (tag, .noted (.notification tag notification))
  | .noted (.event tag event) => some (tag, .noted (.event tag event))
  | _ => none

/-- What a notice tells, and to whom. -/
def heardNotice? : Notice (Watcher String) → Option (String × Heard)
  | .line (.outsider tag) text => some (tag, .line text)
  | .ended (.outsider tag) exit => some (tag, .ended exit)
  | .line .connection _ | .ended .connection _ | .output _ => none

/-- Collects what has happened since the last time. What came over the connection was put out
before the process ended. -/
def gather (stage : HostStage) : HostStage :=
  let connection := stage.host.link.connection
  let framer := connection.framer
  let notices := framer.wire.notices
  let emptied := { connection with
    log := []
    framer := { framer with wire := { framer.wire with
      notices := notices.filter fun notice => (heardNotice? notice).isNone } } }
  { stage with
    heard := stage.heard ++ connection.log.filterMap heardInLog? ++ notices.filterMap heardNotice?
    host := { stage.host with link := { stage.host.link with connection := emptied } } }

/-- How much is collected under a tag. -/
def amount (tag : String) (stage : HostStage) : Nat :=
  (stage.heard.filter fun entry => entry.1 = tag).length

/-! ## Time -/

/-- How long a step takes by itself. -/
def stepTime : Duration := ⟨30000⟩

/-- How long something is waited for that is to be collected. -/
def patience : Duration := .ofParts 10 0

/-- Lets time pass until something holds or until a limit, over so many changes at the most. -/
def waitUntil (holds : HostStage → Bool) (limit : Option Instant) : Nat → HostStage → HostStage
  | 0, stage => stage
  | fuel + 1, stage =>
    let gathered := stage.gather
    if holds gathered then gathered
    else
      match gathered.host.proceed limit with
      | (true, host) => waitUntil holds limit fuel { gathered with host }
      | (false, host) => { gathered with host }.gather

/-- Lets some time pass. -/
def pass (duration : Duration) (stage : HostStage) : HostStage :=
  stage.waitUntil (fun _ => false) (some (stage.host.now.plus duration)) turns

/-- Waits until so much is collected under a tag. -/
def awaitHeard (tag : String) (count : Nat) (stage : HostStage) : HostStage :=
  stage.waitUntil (fun stage => decide (count ≤ stage.amount tag))
    (some (stage.host.now.plus patience)) turns

/-- Takes what is collected under a tag. -/
def takeHeard (tag : String) (stage : HostStage) : List Heard × HostStage :=
  let (taken, left) := stage.heard.partition fun entry => entry.1 = tag
  (taken.map Prod.snd, { stage with heard := left })

/-! ## Steps -/

/-- The answer where a connection is needed and there never was one. -/
def withoutConnection (stage : HostStage) : HostAnswer :=
  if stage.dropped then .dropped else .absent

/-- The connection as a script on a connection sees it. -/
def asStage (stage : HostStage) : Stage HostWire :=
  ⟨stage.host.link, false, 0⟩

def withConnection (stage : HostStage) (connection : Connection app HostWire) : HostStage :=
  { stage with host := { stage.host with link := { stage.host.link with connection } } }

/-- Sends a notification and waits for its fate. -/
def notify (method : String) (params : Params) (stage : HostStage) : Answer × HostStage :=
  match stage.host.link.connection.notifyWithReceipt method params with
  | (.error failure, connection) => (.failed failure, stage.withConnection connection)
  | (.ok receipt, connection) =>
    let fate? (stage : HostStage) : Option (Except Failure Unit) :=
      stage.host.link.connection.receipts.lookup receipt
    let waited := (stage.withConnection connection).waitUntil (fun stage => (fate? stage).isSome)
      none turns
    match fate? waited with
    | some (.ok ()) => (.sent, waited)
    | some (.error failure) => (.failed failure, waited)
    | none => (.failed .closed, waited)

/-- Waits for the outcome of a request, and gives up its handle. -/
def waitForOutcome (tag : String) (stage : HostStage) : Answer × HostStage :=
  match stage.asStage.memory.handles.lookup tag with
  | none => (.absent, stage)
  | some id =>
    let isThere (stage : HostStage) : Bool :=
      (stage.host.link.connection.takeOutcome id).1.isSome
    let waited := stage.waitUntil isThere none turns
    let (outcome, connection) := waited.host.link.connection.takeOutcome id
    let given := waited.withConnection connection
    (.outcome outcome, given.withConnection (given.asStage.dropHandle tag id).connection)

/-- Does something with the connection, if there is one. -/
def onConnection (stage : HostStage) (use : HostStage → Answer × HostStage) :
    HostAnswer × HostStage :=
  if stage.connected then
    let (answer, used) := use stage
    (.answer answer, used)
  else (stage.withoutConnection, stage)

/-- Does an action on the connection. -/
def act (action : Action) (stage : HostStage) : Answer × HostStage :=
  match action with
  | .notify method params => stage.notify method params
  | action =>
    let (answer, acted) := stage.asStage.act action
    (answer, stage.withConnection acted.connection)

/-- Takes over the outcome of a start. -/
def started (stage : HostStage) (outcome : Except ProcessFailure Nat × Host app String) :
    HostAnswer × HostStage :=
  match outcome with
  | (.ok _, host) => (.started (.ok ()), { stage with host, connected := true })
  | (.error failure, host) => (.started (.error failure), { stage with host })

/-- Whether a step needs the host itself. -/
def needsHost : HostStep → Bool
  | .await _ _ | .act _ | .wait _ | .stats => false
  | _ => true

/-- Carries out a step. -/
def carryOut (step : HostStep) (stage : HostStage) : HostAnswer × HostStage :=
  let host := stage.host
  match step with
  | .start => stage.started host.start
  | .getOrStart => stage.started host.getOrStart
  | .state => (.state host.status host.connection?.isSome, stage)
  | .stop => (.done, { stage with host := host.stop turns })
  | .drop => (.done, { stage with host := host.stop turns, dropped := true })
  | .onTermination tag =>
    (.done, { stage with host := host.withWire (·.onTermination (.outsider tag)) })
  | .onErrors tag => (.done, { stage with host := host.withWire (·.onErrors (.outsider tag)) })
  | .await tag count =>
    let (heard, left) := (stage.awaitHeard tag count).takeHeard tag
    (.collected heard, left)
  | .describe => (.description host.describe, stage)
  | .config => (.config host.config, stage)
  | .act action => stage.onConnection (·.act action)
  | .wait tag =>
    if stage.connected then stage.onConnection (·.waitForOutcome tag) else (.absent, stage)
  | .stats =>
    (if stage.connected then .stats host.link.connection.stats else stage.withoutConnection, stage)

/-- Takes a step, while the process and the worker go on with what they do. -/
def take (step : HostStep) (stage : HostStage) : HostAnswer × HostStage :=
  if stage.dropped && needsHost step then (.dropped, stage)
  else
    let (answer, carried) := { stage with host := stage.host.meet }.carryOut step
    (answer, carried.pass stepTime)

end HostStage

/-- The answers to the steps of a script on a host. -/
def runHost (stage : HostStage) : List HostStep → List HostAnswer
  | [] => []
  | step :: rest =>
    let (answer, next) := stage.take step
    answer :: runHost next rest

end RpcEndpoint.Script
