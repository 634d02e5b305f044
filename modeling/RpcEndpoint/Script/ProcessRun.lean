import RpcEndpoint.Display

/-!
# Running a script on a process

A script drives one process by itself. What hooks and sinks hear is collected under their tags until
the script asks for it.
-/

namespace RpcEndpoint.Script

/-- One step of a script on a process. -/
inductive ProcessStep where
  | start (config : Config)
  | listen
  /-- Takes so many bytes of the output, once they are there. -/
  | read (count : Nat)
  | write (bytes : Bytes)
  /-- Writes without waiting for more than a while. -/
  | writeAside (bytes : Bytes)
  /-- Waits for the write that was begun aside. -/
  | join
  | status
  | stop
  | drop
  | onTermination (tag : String)
  | onErrors (tag : String)
  /-- Takes what has been collected, once there is so much of it. -/
  | await (tag : String) (count : Nat)
  | describe

/-- What a step on a process shows. -/
inductive ProcessAnswer where
  | done
  /-- Nothing of the kind was begun. -/
  | absent
  /-- The process was given up. -/
  | dropped
  | started (outcome : Except ProcessFailure Unit)
  | read (bytes : Bytes)
  /-- There was not so much output. -/
  | silent
  | written (outcome : Except WireFailure Unit)
  | finished (yes : Bool)
  | status (status : Status)
  | collected (notices : List (Notice String))
  | description (text : String)

/-- A write that was begun aside. -/
inductive Aside where
  | none
  | begun
  | settled (outcome : Except WireFailure Unit)

/-- A script on a process on its way. -/
structure ProcessStage where
  wire : ProcessWire String
  aside : Aside
  /-- Whether the process was given up. -/
  dropped : Bool
  /-- The output that has been collected. -/
  output : Bytes
  /-- Output behind that, the last piece first. -/
  pieces : List Bytes
  /-- How much output there is. -/
  size : Nat
  /-- What hooks and sinks have heard and nobody has asked for. -/
  heard : List (Notice String)

namespace ProcessStage

/-- A script before its first step. -/
def new : ProcessStage := ⟨.new, .none, false, [], [], 0, []⟩

/-! ## What is collected -/

/-- Collects one notice. -/
def collect (stage : ProcessStage) : Notice String → ProcessStage
  | .output bytes =>
    { stage with pieces := bytes :: stage.pieces, size := stage.size + bytes.length }
  | notice => { stage with heard := stage.heard ++ [notice] }

/-- Collects what has happened since the last time. -/
def gather (stage : ProcessStage) : ProcessStage :=
  stage.wire.notices.foldl collect { stage with wire := { stage.wire with notices := [] } }

/-- Takes bytes from the output that has been collected. -/
def takeOutput (count : Nat) (stage : ProcessStage) : Bytes × ProcessStage :=
  let (taken, left) := (stage.output ++ stage.pieces.reverse.flatten).splitAt count
  (taken, { stage with output := left, pieces := [], size := stage.size - count })

/-- Whether a notice is collected under a tag. -/
def isFor (tag : String) : Notice String → Bool
  | .line sink _ => sink = tag
  | .ended hook _ => hook = tag
  | .output _ => false

/-- How much is collected under a tag. -/
def amount (tag : String) (stage : ProcessStage) : Nat :=
  (stage.heard.filter (isFor tag)).length

/-- Takes what has been collected under a tag. -/
def takeHeard (tag : String) (stage : ProcessStage) : List (Notice String) × ProcessStage :=
  let (taken, left) := stage.heard.partition (isFor tag)
  (taken, { stage with heard := left })

/-! ## Time -/

/-- How long a step takes by itself. -/
def stepTime : Duration := ⟨30000⟩

/-- How long something is waited for that is to be collected. -/
def patience : Duration := .ofParts 10 0

/-- How long a write aside is waited for. -/
def glance : Duration := .ofMilliseconds 150

/-- Lets time pass until something holds or until a limit, over so many changes at the most. -/
def waitUntil (holds : ProcessStage → Bool) (limit : Option Instant) :
    Nat → ProcessStage → ProcessStage
  | 0, stage => stage
  | fuel + 1, stage =>
    let gathered := stage.gather
    if holds gathered then gathered
    else
      match gathered.wire.proceed limit with
      | (some _, wire) => waitUntil holds limit fuel { gathered with wire }
      | (none, wire) => { gathered with wire }.gather

/-- Waits with patience until something holds. -/
def waitFor (holds : ProcessStage → Bool) (stage : ProcessStage) : ProcessStage :=
  stage.waitUntil holds (some (stage.wire.now.plus patience)) ProcessWire.changes

/-- Lets some time pass. -/
def pass (duration : Duration) (stage : ProcessStage) : ProcessStage :=
  stage.waitUntil (fun _ => false) (some (stage.wire.now.plus duration)) ProcessWire.changes

/-- Makes bytes ready that are to be written, which takes its time. -/
def prepare (bytes : Bytes) (stage : ProcessStage) : ProcessStage :=
  stage.pass ⟨5 * bytes.length⟩

/-! ## Steps -/

/-- Begins a write aside. -/
def writeAside (bytes : Bytes) (stage : ProcessStage) : ProcessAnswer × ProcessStage :=
  match stage.wire.status with
  | .running =>
    let later := { stage with wire := stage.wire.beginWrite bytes }.pass glance
    if later.wire.waiting.isNone then
      let (outcome, written) := later.wire.finishWrite
      (.finished true, { later with wire := written, aside := .settled outcome })
    else (.finished false, { later with aside := .begun })
  | .notStarted | .terminated _ =>
    let (outcome, written) := stage.wire.write bytes
    (.finished true, { stage with wire := written, aside := .settled outcome })

/-- Waits for the write that was begun aside. -/
def join (stage : ProcessStage) : ProcessAnswer × ProcessStage :=
  match stage.aside with
  | .none => (.absent, stage)
  | .settled outcome => (.written outcome, { stage with aside := .none })
  | .begun =>
    let (outcome, written) := stage.wire.finishWrite
    (.written outcome, { stage with wire := written, aside := .none })

/-- Whether a step needs the process itself. -/
def needsProcess : ProcessStep → Bool
  | .read _ | .join | .await _ _ => false
  | _ => true

/-- Carries out a step. -/
def carryOut (step : ProcessStep) (stage : ProcessStage) : ProcessAnswer × ProcessStage :=
  let changed (change : ProcessWire String → ProcessWire String) : ProcessAnswer × ProcessStage :=
    (.done, { stage with wire := change stage.wire })
  match step with
  | .start config =>
    let (outcome, wire) := stage.wire.start config
    (.started outcome, { stage with wire })
  | .listen => changed (·.listen)
  | .read count =>
    let waited := stage.waitFor fun stage => decide (count ≤ stage.size)
    if count ≤ waited.size then
      let (bytes, taken) := waited.takeOutput count
      (.read bytes, taken)
    else (.silent, waited)
  | .write bytes =>
    let ready := stage.prepare bytes
    let (outcome, wire) := ready.wire.write bytes
    (.written outcome, { ready with wire })
  | .writeAside bytes => (stage.prepare bytes).writeAside bytes
  | .join => stage.join
  | .status => (.status stage.wire.status, stage)
  | .stop => changed (·.stop)
  | .drop => (.done, { stage with wire := stage.wire.stop, dropped := true })
  | .onTermination tag => changed (·.onTermination tag)
  | .onErrors tag => changed (·.onErrors tag)
  | .await tag count =>
    let waited := stage.waitFor fun stage => decide (count ≤ stage.amount tag)
    let (taken, left) := waited.takeHeard tag
    (.collected taken, left)
  | .describe => (.description stage.wire.describe, stage)

/-- Takes a step, while the process goes on with what it does. -/
def take (step : ProcessStep) (stage : ProcessStage) : ProcessAnswer × ProcessStage :=
  if stage.dropped && needsProcess step then (.dropped, stage)
  else
    let (answer, carried) := stage.carryOut step
    (answer, carried.pass stepTime)

end ProcessStage

/-- The answers to the steps of a script on a process. -/
def runProcess (stage : ProcessStage) : List ProcessStep → List ProcessAnswer
  | [] => []
  | step :: rest =>
    let (answer, next) := stage.take step
    answer :: runProcess next rest

end RpcEndpoint.Script
