import RpcEndpoint.Connection.Clock
import RpcEndpoint.Script.Action

/-!
# Running a script

A script drives one connection over a wire. Between two steps the worker carries out everything that
is in its inbox, unless the script holds it up.
-/

namespace RpcEndpoint.Script

open Json

/-- One step of a script over a wire of type `ω`. -/
inductive Step (ω : Type) where
  | act (action : Action)
  | feed (chunk : Bytes)
  | drop
  | tryOutcome (tag : String)
  | wait (tag : String)
  | waitTimeout (tag : String) (timeout : Duration)
  | cancelHandle (tag : String)
  | dropHandle (tag : String)
  | describeHandle (tag : String)
  | awaitCallback (tag : String)
  /-- Changes the wire. -/
  | adjust (change : ω → ω)
  | hold
  | release
  | describeTicket (shelf : String)

/-- What a step shows. -/
structure Report where
  answer : Answer
  /-- What happened on the worker since the last report, if this one tells. -/
  log : Option (List (Occurrence app))
  stats : Option Stats

/-- A script on its way. -/
structure Stage (ω : Type) where
  timed : Timed app ω
  /-- Whether the worker is held up. -/
  held : Bool
  /-- How much of the log has been reported. -/
  reported : Nat

/-- More turns than a script without endless loops takes. -/
def turns : Nat := 100000

namespace Stage

variable {ω : Type} [Wire ω]

/-- A script before its first step. -/
def new (wire : ω) (defaultTimeout : Option Duration) : Stage ω :=
  ⟨.start (.new wire .empty defaultTimeout) ⟨0⟩, false, 0⟩

def connection (stage : Stage ω) : Connection app ω :=
  stage.timed.connection

def memory (stage : Stage ω) : Memory :=
  stage.connection.memory

def withConnection (stage : Stage ω) (connection : Connection app ω) : Stage ω :=
  { stage with timed := { stage.timed with connection } }

def withMemory (stage : Stage ω) (memory : Memory) : Stage ω :=
  stage.withConnection { stage.connection with memory }

/-- Changes the wire. -/
def withWire (stage : Stage ω) (change : ω → ω) : Stage ω :=
  let framer := stage.connection.framer
  let changed := { framer with wire := change framer.wire }
  stage.withConnection { stage.connection with framer := changed }

/-- Lets the worker carry out what is in its inbox. -/
def settle (stage : Stage ω) : Stage ω :=
  { stage with timed := stage.timed.settle turns }

/-! ## Actions -/

/-- Runs a reaction of the script itself. -/
def react (stage : Stage ω) (reaction : Reaction app) : Stage ω :=
  stage.withConnection (reaction.run stage.connection)

/-- Sends a notification and waits for its fate. -/
def notify (method : String) (params : Params) (stage : Stage ω) : Answer × Stage ω :=
  match stage.connection.notifyWithReceipt method params with
  | (.error failure, connection) => (.failed failure, stage.withConnection connection)
  | (.ok receipt, connection) =>
    let settled := (stage.withConnection connection).settle
    match settled.connection.receipts.lookup receipt with
    | some (.ok ()) => (.sent, settled)
    | some (.error failure) => (.failed failure, settled)
    | none => (.failed .closed, settled)

/-- Does an action at the top of the script, while there is a connection. -/
def actConnected (action : Action) (stage : Stage ω) : Answer × Stage ω :=
  match action with
  | .notify method params => stage.notify method params
  | .typedNotify method params =>
    match method.params.decode params with
    | .error fault => (.badParams fault, stage)
    | .ok fitting => stage.notify method.name (Protocol.encodeParams fitting)
  | other =>
    let done := stage.react <| other.perform none fun answer =>
      .recall fun memory => .remember { memory with answer } .done
    (done.memory.answer, done)

/-- Does an action at the top of the script. -/
def act (action : Action) (stage : Stage ω) : Answer × Stage ω :=
  if stage.memory.dropped && !action.outlives then (.dropped, stage) else stage.actConnected action

/-! ## Handles -/

/-- Does something with the request of a handle. -/
def withHandle (tag : String) (stage : Stage ω) (use : MessageId → Answer × Stage ω) :
    Answer × Stage ω :=
  match stage.memory.handles.lookup tag with
  | some id => use id
  | none => (.absent, stage)

/-- Gives up a handle and the mailbox of its request. -/
def dropHandle (tag : String) (id : MessageId) (stage : Stage ω) : Stage ω :=
  (stage.withConnection (stage.connection.dropMailbox id)).withMemory (stage.memory.release tag)

/-- Waits for the outcome of a request, at the most until an instant. While the worker is held up,
only the time passes. -/
def awaitOutcome (id : MessageId) (limit : Option Instant) (stage : Stage ω) :
    Option (Except Failure Value) × Stage ω :=
  if stage.held then
    match stage.connection.takeOutcome id with
    | (some outcome, connection) => (some outcome, stage.withConnection connection)
    | (none, connection) =>
      let now := limit.elim stage.timed.now stage.timed.now.latest
      (none, { stage with timed := { stage.timed with connection, now } })
  else
    let (outcome, timed) := stage.timed.await (·.takeOutcome id) limit turns turns
    (outcome, { stage with timed })

/-- Whether the callback of a request has run, after so much of the log. -/
def hasCalledBack (tag : String) (reported : Nat) (connection : Connection app ω) : Bool :=
  (connection.log.drop reported).any fun
    | .noted (.callback other _) => other = tag
    | .noted (.rawCallback other _) => other = tag
    | _ => false

/-! ## Steps -/

/-- Holds up the worker by something that it cannot finish. A worker that has stopped or sends
nothing any more is not held up by that. -/
def hold (stage : Stage ω) : Stage ω :=
  if stage.held then stage
  else
    let settled := stage.settle
    let connection := settled.connection
    { settled with held := connection.running && connection.closed.isNone }

/-- Lets the worker go on. It looks at its deadlines first. -/
def letGo (stage : Stage ω) : Stage ω :=
  if stage.held then
    { stage.withConnection (stage.connection.expire stage.timed.now) with held := false }
  else stage

/-- Carries out a step, up to the work that it leaves to the worker. -/
def carryOut (step : Step ω) (stage : Stage ω) : Answer × Stage ω :=
  match step with
  | .act action => stage.act action
  | .feed chunk => (.done, stage.withConnection (stage.connection.enqueue (.received chunk)))
  | .drop =>
    let free := stage.letGo
    let told := free.withConnection (free.connection.enqueue (.order .shutdown))
    (.done, (told.withMemory { told.memory with dropped := true }).settle)
  | .tryOutcome tag => stage.withHandle tag fun id =>
    let (outcome, connection) := stage.connection.takeOutcome id
    (.outcome outcome, stage.withConnection connection)
  | .wait tag => stage.withHandle tag fun id =>
    let (outcome, waited) := stage.awaitOutcome id none
    (.outcome outcome, waited.dropHandle tag id)
  | .waitTimeout tag timeout => stage.withHandle tag fun id =>
    match stage.awaitOutcome id (some (stage.timed.now.plus timeout)) with
    | (some outcome, waited) => (.outcome (some outcome), waited.dropHandle tag id)
    | (none, waited) =>
      let cancelled := waited.withConnection (waited.connection.enqueue (.order (.cancel id)))
      (.outcome (some (.error (.timedOut timeout))), cancelled.dropHandle tag id)
  | .cancelHandle tag => stage.withHandle tag fun id =>
    (.done, stage.withConnection (stage.connection.enqueue (.order (.cancel id))))
  | .dropHandle tag => stage.withHandle tag fun id => (.done, stage.dropHandle tag id)
  | .describeHandle tag => stage.withHandle tag fun id => (.handle id, stage)
  | .awaitCallback tag =>
    let look (connection : Connection app ω) : Option Unit × Connection app ω :=
      (if hasCalledBack tag stage.reported connection then some () else none, connection)
    (.done, { stage with timed := (stage.timed.await look none turns turns).2 })
  | .adjust change => (.done, stage.withWire change)
  | .hold => (.done, stage.hold)
  | .release => (.done, stage.letGo)
  | .describeTicket shelf =>
    match (stage.memory.shelf.lookup shelf).bind fun number => stage.connection.ticket? number with
    | some ticket => (.ticket ticket, stage)
    | none => (.absent, stage)

/-! ## Reports -/

/-- The request that an event is about. -/
def requestOf? : Event → Option MessageId
  | .requestCancelled id _ | .requestTimedOut id _ | .unmatchedResponse id => some id
  | _ => none

/-- The tag of a callback that was noted. -/
def callbackTag : Occurrence app → String
  | .noted (.callback tag _) | .noted (.rawCallback tag _) => tag
  | _ => ""

/-- Whether one entry comes before another when the order is left open: events by their request,
the rest behind them by the tag of its callback. -/
def comesBefore : Occurrence app → Occurrence app → Bool
  | .noted (.event _ left), .noted (.event _ right) =>
    match requestOf? left, requestOf? right with
    | some left, some right => left.before right
    | none, some _ => true
    | _, none => false
  | .noted (.event _ _), _ => true
  | _, .noted (.event _ _) => false
  | left, right => callbackTag left < callbackTag right

/-- The entries in that order. -/
def sortEntries (entries : List (Occurrence app)) : List (Occurrence app) :=
  entries.mergeSort fun left right => !comesBefore right left

/-- Whether the order of what a step sets off is left open. -/
def isUnordered : Step ω → Bool
  | .act (.cancelToken _) => true
  | _ => false

/-- What the log shows: writes and notes. -/
def isShown : Occurrence app → Bool
  | .wrote _ | .refused _ | .noted _ => true
  | _ => false

/-- Takes a step. A step that does not wait, and every step while the worker is held up, reports
its own answer only. -/
def take (step : Step ω) (waits : Bool) (stage : Stage ω) : Report × Stage ω :=
  let (answer, carried) := stage.carryOut step
  if !waits || carried.held then (⟨answer, none, none⟩, carried)
  else
    let settled := carried.settle
    let entries := (settled.connection.log.drop settled.reported).filter isShown
    let log := if isUnordered step then sortEntries entries else entries
    (⟨answer, some log, if settled.memory.dropped then none else some settled.connection.stats⟩,
      { settled with reported := settled.connection.log.length })

end Stage

/-- What the steps of a script report. -/
def run {ω : Type} [Wire ω] (stage : Stage ω) : List (Step ω × Bool) → List Report
  | [] => []
  | (step, waits) :: rest =>
    let (report, next) := stage.take step waits
    report :: run next rest

end RpcEndpoint.Script
