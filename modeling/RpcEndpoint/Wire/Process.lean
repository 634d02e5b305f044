import RpcEndpoint.Process.Launch
import RpcEndpoint.Text.Utf8
import RpcEndpoint.Wire.Basic

/-!
# A child process as a wire

What is written goes to the input of a child, and what the child puts out arrives. When the output
ends, when a write fails or when it is asked to stop, the child is told by the end of its input to
leave; after a grace it is killed.
-/

namespace RpcEndpoint

/-- What those who listen to a process hear. -/
inductive Notice (η : Type) where
  | output (bytes : Bytes)
  /-- A line of the errors, for the one who asked for them. -/
  | line (sink : η) (text : String)
  /-- The end, for one hook. -/
  | ended (hook : η) (exit : Option ExitStatus)

/-- The watch over a child that is to leave. -/
structure Vigil where
  /-- When it is next looked whether the child has ended. -/
  looksAt : Instant
  /-- When the child is killed if it is still there. -/
  killsAt : Option Instant

/-- A wire with a child process behind it; hooks and sinks are known by marks of type `η`. -/
structure ProcessWire (η : Type) where
  lifecycle : Lifecycle η
  /-- The child, once it has been started. -/
  child : Option Child
  grace : Duration
  /-- There as long as the child is to leave and has not been seen off. -/
  vigil : Option Vigil
  now : Instant
  /-- Whether anybody reads the output; otherwise it is lost. -/
  listens : Bool
  sink : Option η
  /-- The last line of the errors, as far as it has come. -/
  line : Bytes
  /-- What waits to be written. -/
  waiting : Option Bytes
  /-- What became of the last write. -/
  fate : Except WireFailure Unit
  notices : List (Notice η)

namespace ProcessWire

variable {η : Type}

/-- A wire without a child. -/
def new : ProcessWire η :=
  ⟨.new, none, ⟨0⟩, none, ⟨0⟩, false, none, [], none, .ok (), []⟩

def status (wire : ProcessWire η) : Status :=
  wire.lifecycle.status

def note (notice : Notice η) (wire : ProcessWire η) : ProcessWire η :=
  { wire with notices := wire.notices ++ [notice] }

/-! ## What comes out of the child -/

/-- The text of a line: what is no UTF-8 is replaced, and the line ends are cut off. -/
def lineText (line : Bytes) : String :=
  let text := Utf8.decodeLossy line
  String.ofList (text.reverse.dropWhile fun last => ['\r', '\n'].contains last).reverse

/-- What has been heard of a child, the last first. -/
structure Heard (η : Type) where
  /-- The line of the errors that has been begun. -/
  line : Bytes
  notices : List (Notice η)

/-- Hears a line of the errors, which comes with its last byte first. -/
def hearLine (sink : Option η) (line : Bytes) (heard : Heard η) : Heard η :=
  match sink with
  | some sink => ⟨[], .line sink (lineText line.reverse) :: heard.notices⟩
  | none => ⟨[], heard.notices⟩

/-- Hears one byte of the errors. -/
def hearError (sink : Option η) (heard : Heard η) (byte : UInt8) : Heard η :=
  let line := byte :: heard.line
  if byte = Bytes.newline then hearLine sink line heard else { heard with line }

/-- How many bytes of the output are read at once. -/
def pieceSize : Nat := 8192

/-- Hears output piece by piece, so many pieces at the most. -/
def hearOutput : Nat → Bytes → Heard η → Heard η
  | 0, _, heard | _ + 1, [], heard => heard
  | fuel + 1, bytes, heard =>
    let (piece, rest) := bytes.splitAt pieceSize
    hearOutput fuel rest { heard with notices := .output piece :: heard.notices }

/-- Hears what comes out of the child. Output is lost if nobody reads it. -/
def hear (listens : Bool) (sink : Option η) (heard : Heard η) : Outlet × Bytes → Heard η
  | (.output, bytes) =>
    if listens then hearOutput (bytes.length / pieceSize + 1) bytes heard else heard
  | (.errors, bytes) => bytes.foldl (hearError sink) heard

/-- Takes what has come out of the child. A last line of the errors that has no end is given out
when there will be no more. -/
def take (wire : ProcessWire η) : ProcessWire η :=
  match wire.child with
  | none => wire
  | some child =>
    let (emitted, emptied) := child.takeEmitted
    let heard := emitted.foldl (hear wire.listens wire.sink) ⟨wire.line.reverse, []⟩
    let ended :=
      if emptied.errorsClosed && !heard.line.isEmpty then hearLine wire.sink heard.line heard
      else heard
    { wire with
      child := some emptied
      line := ended.line.reverse
      notices := wire.notices ++ ended.notices.reverse }

/-- Whether something has come about at a child that concerns the wire. -/
def isNews (wire : ProcessWire η) (child : Child) : Bool :=
  !child.emitted.isEmpty
    || child.outputClosed && decide (wire.status = .running)
    || child.errorsClosed && !wire.line.isEmpty
    || wire.waiting.isSome && (child.hasRoom || child.inputClosed)

/-- More calls than anybody waits for. -/
def stretch : Nat := 1000000000

/-- Lets the child work until there is news or until a limit; says whether there is news. -/
def work (limit : Option Instant) (wire : ProcessWire η) : Bool × ProcessWire η :=
  match wire.child with
  | none => (false, { wire with now := limit.elim wire.now wire.now.latest })
  | some child =>
    let (isNew, worked) := child.work wire.isNews limit stretch
    (isNew, { wire with child := some worked, now := wire.now.latest worked.clock })

/-! ## The end of the child -/

/-- Changes the child, if there is one. -/
def withChild (change : Child → Child) (wire : ProcessWire η) : ProcessWire η :=
  { wire with child := wire.child.map change }

/-- Leaves the running state and tells the child to leave. A write that waits keeps its input
open. -/
def dismiss (wire : ProcessWire η) : ProcessWire η :=
  match wire.lifecycle.leave with
  | (true, lifecycle) =>
    let left := { wire with
      lifecycle
      vigil := some ⟨wire.now, wire.now.after? wire.grace⟩ }
    if wire.waiting.isNone then left.withChild Child.endInput else left
  | (false, _) => wire

/-- Sees off a child that has ended, and calls the hooks. -/
def conclude (exit : ExitStatus) (wire : ProcessWire η) : ProcessWire η :=
  let (hooks, lifecycle) := (wire.lifecycle.reap (some exit)).release (some exit)
  let told := hooks.map fun hook => Notice.ended hook (some exit)
  { wire with lifecycle, vigil := none, notices := wire.notices ++ told }
    |>.withChild Child.endInput

/-- How long it takes from one look at a child that is to leave to the next. -/
def interval : Duration := .ofMilliseconds 10

/-- Looks whether a child that is to leave has ended. One whose time is up is killed. -/
def look (vigil : Vigil) (wire : ProcessWire η) : ProcessWire η :=
  let current := { wire with now := wire.now.latest vigil.looksAt }
  let next := Instant.earliest? (some (current.now.plus interval)) vigil.killsAt
  let isDue := vigil.killsAt.any fun instant => instant.hasCome current.now
  match current.child.bind Child.exit with
  | some exit => current.conclude exit
  | none =>
    if isDue then
      let killed := current.withChild Child.kill
      match killed.child.bind Child.exit with
      | some exit => killed.take.conclude exit
      | none => { killed with vigil := none }
    else { current with vigil := some { vigil with looksAt := next.getD current.now } }

/-- Notices that the output of a running child has ended. -/
def heed (wire : ProcessWire η) : ProcessWire η :=
  if wire.child.any Child.outputClosed then wire.dismiss else wire

/-! ## Writes -/

/-- How the system names a write whose reader has gone. -/
def brokenPipe : WireFailure := .io "Broken pipe (os error 32)"

/-- A write that nobody will read: while the process runs it fails and ends the process. -/
def breakOff (wire : ProcessWire η) : ProcessWire η :=
  let given := { wire with waiting := none }
  match wire.status with
  | .running => { given.dismiss with fate := .error brokenPipe }
  | .notStarted | .terminated _ => given

/-- Hands to the child what there is room for. -/
def handOver (hand : Child → Bytes × Child) (wire : ProcessWire η) : ProcessWire η :=
  match wire.child with
  | none => { wire with waiting := none }
  | some child =>
    if child.inputClosed then wire.breakOff
    else
      let (left, offered) := hand child
      { wire with
        child := some offered
        waiting := if left.isEmpty then none else some left }

/-- Goes on with a write that waits. -/
def writeMore (wire : ProcessWire η) : ProcessWire η :=
  match wire.waiting with
  | some bytes => wire.handOver (Child.offerMore bytes)
  | none => wire

/-! ## Time -/

/-- Lets the time go on until something happens or until a limit; says when it happened. -/
def proceed (limit : Option Instant) (wire : ProcessWire η) : Option Instant × ProcessWire η :=
  match wire.work (Instant.earliest? limit (wire.vigil.map Vigil.looksAt)) with
  | (true, worked) => (some worked.now, worked.take.heed.writeMore)
  | (false, worked) =>
    match wire.vigil with
    | some vigil =>
      if limit.all vigil.looksAt.hasCome then
        let looked := worked.look vigil
        (some looked.now, looked)
      else (none, worked)
    | none => (none, worked)

/-- More changes than anybody waits for. -/
def changes : Nat := 1000000

/-- Lets time pass until something holds or until a limit, over so many changes at the most. -/
def waitUntil (holds : ProcessWire η → Bool) (limit : Option Instant) :
    Nat → ProcessWire η → ProcessWire η
  | 0, wire => wire
  | fuel + 1, wire =>
    if holds wire then wire
    else
      match wire.proceed limit with
      | (some _, later) => waitUntil holds limit fuel later
      | (none, later) => later

/-- Lets the time come to an instant. -/
def advance (instant : Instant) (wire : ProcessWire η) : ProcessWire η :=
  waitUntil (fun _ => false) (some instant) changes wire

/-- Whether the child has been seen off, or there is none to be. -/
def isConcluded (wire : ProcessWire η) : Bool :=
  match wire.status with
  | .terminated none => false
  | _ => true

/-! ## Operations -/

/-- Starts the child of a configuration. -/
def start (config : Config) (wire : ProcessWire η) : Except ProcessFailure Unit × ProcessWire η :=
  match wire.lifecycle.refusal? with
  | some failure => (.error failure, wire)
  | none =>
    match Launch.child config wire.now with
    | .error failure => (.error failure, wire)
    | .ok child =>
      (.ok (), { wire with
        lifecycle := wire.lifecycle.begin
        child := some child
        grace := config.grace })

/-- Begins to write bytes behind those that wait already. -/
def beginWrite (bytes : Bytes) (wire : ProcessWire η) : ProcessWire η :=
  let fresh := { wire with fate := .ok () }
  match wire.waiting with
  | some waiting => { fresh with waiting := some (waiting ++ bytes) }
  | none => if bytes.isEmpty then fresh else fresh.handOver (Child.offer bytes)

/-- Waits until a write has come to its end, and to that of the process if it failed. -/
def finishWrite (wire : ProcessWire η) : Except WireFailure Unit × ProcessWire η :=
  let written := waitUntil (·.waiting.isNone) none changes wire
  match written.fate with
  | .ok () => (.ok (), written)
  | .error failure => (.error failure, waitUntil isConcluded none changes written)

/-- Writes bytes to the child. What is written after its end is lost without complaint. -/
def write (bytes : Bytes) (wire : ProcessWire η) : Except WireFailure Unit × ProcessWire η :=
  match wire.status with
  | .notStarted => (.error .notStarted, wire)
  | .terminated _ => (.ok (), wire)
  | .running => (wire.beginWrite bytes).finishWrite

/-- Asks the child to leave; says whether it was this call that ended the process. -/
def beginStop (wire : ProcessWire η) : Bool × ProcessWire η :=
  match wire.status with
  | .running => (true, wire.dismiss)
  | .notStarted | .terminated _ => (false, wire)

/-- Ends the process. -/
def stop (wire : ProcessWire η) : ProcessWire η :=
  match wire.beginStop with
  | (true, stopping) => waitUntil isConcluded none changes stopping
  | (false, unchanged) => unchanged

/-- Adds a hook to be called at the end. One that comes late is called at once. -/
def onTermination (hook : η) (wire : ProcessWire η) : ProcessWire η :=
  match wire.lifecycle.register hook with
  | (some exit, lifecycle) => { wire with lifecycle }.note (.ended hook exit)
  | (none, lifecycle) => { wire with lifecycle }

/-- Gives the lines of the errors to a sink from now on. -/
def onErrors (sink : η) (wire : ProcessWire η) : ProcessWire η :=
  { wire with sink := some sink }

/-- Reads the output from now on. -/
def listen (wire : ProcessWire η) : ProcessWire η :=
  { wire with listens := true }

end ProcessWire

end RpcEndpoint
