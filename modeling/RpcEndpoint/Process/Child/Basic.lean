import RpcEndpoint.Process.FileSystem
import RpcEndpoint.Process.Task
import RpcEndpoint.Text.Bytes

/-!
# Children and their pipes

Processes that were started by others, and the pipes between them.
-/

namespace RpcEndpoint

/-! ## Pipes

A pipe keeps what has been written to it in pages. The last page takes more bytes only if all that
would not fill pages of its own fits behind what it has got; so a pipe may be full with less in it
than its pages could hold. -/

/-- A page of a pipe. -/
structure Page where
  /-- How much has been written to it. -/
  filled : Nat
  /-- What of that has not been read. -/
  rest : Bytes
deriving Repr, DecidableEq

/-- The pages of a pipe, the oldest first. -/
abbrev Pipe := List Page

namespace Pipe

/-- How many bytes a page can hold. -/
def pageSize : Nat := 4096

/-- How many pages a pipe can have. -/
def pageLimit : Nat := 16

/-- What has not been read. -/
def content (pipe : Pipe) : Bytes :=
  pipe.flatMap Page.rest

def hasRoom (pipe : Pipe) : Bool :=
  decide (pipe.length < pageLimit)

/-- Whether the last page takes no more bytes. -/
def isSealed (pipe : Pipe) : Bool :=
  pipe.getLast?.all fun last => pageSize ≤ last.filled

/-! ### Writing -/

/-- Puts bytes into so many new pages at the most; gives what is left over. -/
def fill : Nat → Bytes → Pipe × Bytes
  | 0, bytes => ([], bytes)
  | _ + 1, [] => ([], [])
  | room + 1, bytes =>
    let (part, later) := bytes.splitAt pageSize
    let (pages, left) := fill room later
    (⟨part.length, part⟩ :: pages, left)

/-- Goes on with a write for which there was no room; gives what is left over. -/
def resume (bytes : Bytes) (pipe : Pipe) : Pipe × Bytes :=
  let (pages, left) := fill (pageLimit - pipe.length) bytes
  (pipe ++ pages, left)

/-- How many of the bytes go into the last page. -/
def share (bytes : Bytes) (pipe : Pipe) : Nat :=
  let odd := bytes.length % pageSize
  match pipe.getLast? with
  | some last => if last.filled + odd ≤ pageSize then odd else 0
  | none => 0

/-- The pages with bytes put into the last one. -/
def extend (bytes : Bytes) : Pipe → Pipe
  | [] => []
  | [last] => [⟨last.filled + bytes.length, last.rest ++ bytes⟩]
  | page :: pages => page :: extend bytes pages

/-- Writes bytes; gives what there is no room for. -/
def write (bytes : Bytes) (pipe : Pipe) : Pipe × Bytes :=
  let (first, others) := bytes.splitAt (pipe.share bytes)
  (if first.isEmpty then pipe else pipe.extend first).resume others

/-! ### Reading -/

/-- Reads so many bytes at the most. A page that has been read is given up. -/
def read : Nat → Pipe → Bytes × Pipe
  | _, [] => ([], [])
  | limit, page :: pages =>
    let size := page.rest.length
    if size ≤ limit then
      if limit = size then (page.rest, pages)
      else
        let (more, left) := read (limit - size) pages
        (page.rest ++ more, left)
    else
      let (taken, kept) := page.rest.splitAt limit
      (taken, { page with rest := kept } :: pages)

end Pipe

/-! ## Child processes

A child is a process that may have started others. They share files, which are closed when nobody
has them open any more: the input and the two outlets of the child are open as long as one of the
processes holds them, whatever has become of the first one.

All processes work at the same time. Each call takes a while until it has its effect, and the
effects come one after another in the order of their instants. -/

/-- Where a child writes to. -/
inductive Outlet where
  | output
  | errors
deriving Repr, DecidableEq

/-- What an open file leads to. -/
inductive Opening where
  /-- The end of a pipe to read from. -/
  | drain (pipe : Nat)
  /-- The end of a pipe to write to. -/
  | feed (pipe : Nat)
  /-- A file of the tree, at an offset. -/
  | file (place : Place) (offset : Nat) (access : Access)
  /-- What is left of a content. -/
  | content (rest : Bytes)
  | device (device : Device)
  | directory
deriving Repr, DecidableEq

/-- One process. -/
structure Process where
  number : Nat
  parent : Nat
  task : Task
  /-- The open files by their numbers, each with the number of its opening. -/
  files : List (Nat × Nat)
  /-- When its call may have its effect. -/
  ready : Instant
  /-- Whether it has been stopped until it is told to go on. -/
  halted : Bool
  treatments : List (Signal × Treatment)
  /-- The signals that were caught and not asked for. -/
  caught : List Signal
  /-- The signals that came while it was stopped. -/
  deferred : List Signal

/-- A process that has ended and was not waited for. -/
structure Departure where
  number : Nat
  parent : Nat
  status : ExitStatus

/-- A child and the processes that it has started. -/
structure Child where
  /-- The processes; of two that are ready at one instant, the first one goes on. -/
  processes : List Process
  departed : List Departure
  /-- What the processes have open. -/
  openings : List (Nat × Opening)
  pipes : List (Nat × Pipe)
  /-- The next number of a process, an opening or a pipe. -/
  fresh : Nat
  /-- Whether there will be no more input. -/
  inputEnded : Bool
  system : FileSystem
  /-- The programs by their names. -/
  programs : String → Program
  /-- What has come out, the last first. -/
  emitted : List (Outlet × Bytes)
  /-- When something was last done. -/
  clock : Instant
  /-- How much the processes have done. -/
  effort : Nat
  /-- How the first process ended. -/
  exit : Option ExitStatus

namespace Child

/-- The number of the first process. -/
def first : Nat := 100

/-- The number of the process that everything comes from. -/
def origin : Nat := 1

/-- The pipes that lead out of the child. -/
def inputPipe : Nat := 0

def outputPipe : Nat := 1

def errorPipe : Nat := 2

/-! ### The time that things take -/

/-- Nanoseconds that pass until a call has its effect. -/
def span : Task → Nat
  | .sleep duration _ => duration.nanoseconds
  | .become _ _ _ _ _ => 300000
  | .fork _ _ => 100000
  | .exit _ => 20000
  | .pause _ => 3000
  | .write _ bytes _ => 1000 + 5 * bytes.length
  | _ => 1000

/-- Nanoseconds that pass until a program that has been found can do its first call. -/
def loading : Nat := 500000

/-- Nanoseconds that pass until a new process of a program that runs can do its first call. -/
def forking : Nat := 100000

/-- How much a child does until it becomes slow. This bounds the work for those that would go on
for ever. -/
def endurance : Nat := 1000000

/-- How many times as long as at first everything takes. -/
def slowness (child : Child) : Nat :=
  if child.effort < endurance then 1 else 200

/-- When a task that was come to after some nanoseconds has its first effect. -/
def readyAfter (delay : Nat) (task : Task) (child : Child) : Instant :=
  let pace := match task with
    | .sleep _ _ => 1
    | _ => child.slowness
  child.clock.plus ⟨delay + pace * span task⟩

/-- A child that is started at an instant and has not done anything. -/
def new (programs : String → Program) (task : Task) (now : Instant) : Child where
  processes := [{
    number := first
    parent := origin
    task
    files := [(0, 0), (1, 1), (2, 2)]
    ready := now.plus ⟨loading + span task⟩
    halted := false
    treatments := []
    caught := []
    deferred := [] }]
  departed := []
  openings := [(0, .drain inputPipe), (1, .feed outputPipe), (2, .feed errorPipe)]
  pipes := []
  fresh := first + 1
  inputEnded := false
  system := .standard
  programs
  emitted := []
  clock := now
  effort := 0
  exit := none

/-! ### Openings and pipes -/

/-- What an opening leads to. -/
def opening? (number : Nat) (child : Child) : Option Opening :=
  child.openings.lookup number

/-- Changes what an opening leads to. -/
def setOpening (number : Nat) (opening : Opening) (child : Child) : Child :=
  { child with
    openings := (number, opening) :: child.openings.filter fun held => held.1 ≠ number }

/-- What a process has open under a number, with the number of the opening. -/
def file? (process : Process) (file : Nat) (child : Child) : Option (Nat × Opening) :=
  (process.files.lookup file).bind fun number =>
    (child.opening? number).map fun opening => (number, opening)

/-- Whether any process holds an opening like this. -/
def holds (wanted : Opening) (child : Child) : Bool :=
  child.openings.any fun held => held.2 = wanted

/-- Forgets what nobody has open. -/
def sweep (child : Child) : Child :=
  let kept := child.openings.filter fun held =>
    child.processes.any fun process => process.files.any fun file => file.2 = held.1
  { child with
    openings := kept
    pipes := child.pipes.filter fun pipe =>
      pipe.1 = inputPipe || kept.any fun held => held.2 = .drain pipe.1 || held.2 = .feed pipe.1 }

/-- The pipe of a number. -/
def pipe (number : Nat) (child : Child) : Pipe :=
  (child.pipes.lookup number).getD []

/-- Changes what a pipe holds. -/
def setPipe (number : Nat) (pipe : Pipe) (child : Child) : Child :=
  { child with pipes := (number, pipe) :: child.pipes.filter fun held => held.1 ≠ number }

/-- Whether somebody may still write to a pipe. -/
def hasWriter (pipe : Nat) (child : Child) : Bool :=
  if pipe = inputPipe then !child.inputEnded else child.holds (.feed pipe)

/-- Whether somebody may still read from a pipe. -/
def hasReader (pipe : Nat) (child : Child) : Bool :=
  pipe = outputPipe || pipe = errorPipe || child.holds (.drain pipe)

/-- The outlet that a pipe is. -/
def outlet? (pipe : Nat) : Option Outlet :=
  if pipe = outputPipe then some .output
  else if pipe = errorPipe then some .errors
  else none

/-! ### Processes -/

/-- The process of a number. -/
def process? (number : Nat) (child : Child) : Option Process :=
  child.processes.find? fun process => process.number = number

/-- Changes a process. -/
def setProcess (process : Process) (child : Child) : Child :=
  { child with
    processes := child.processes.map fun held =>
      if held.number = process.number then process else held }

/-- Lets a process go on with a task that it comes to after some nanoseconds. -/
def goOnAfter (delay : Nat) (process : Process) (task : Task) (child : Child) : Child :=
  child.setProcess { process with task, ready := child.readyAfter delay task }

/-- Lets a process go on with a task. -/
def goOn (process : Process) (task : Task) (child : Child) : Child :=
  child.goOnAfter 0 process task

/-- Ends a process. Its files are closed, and nobody waits for its own children any more. -/
def depart (number : Nat) (status : ExitStatus) (child : Child) : Child :=
  match child.process? number with
  | none => child
  | some process =>
    let others := child.processes.filter fun held => held.number ≠ number
    let left := child.departed.filter fun departure => departure.parent ≠ number
    let isAwaited := others.any fun held => held.number = process.parent
    let ended : Child := { child with
      processes := others.map fun held =>
        if held.parent = number then { held with parent := origin } else held
      departed := if isAwaited then left ++ [⟨number, process.parent, status⟩] else left
      exit := if number = first then some status else child.exit }
    ended.sweep

/-- How a process treats a signal. -/
def treatment (process : Process) (signal : Signal) : Treatment :=
  if signal.isSovereign then .standard else (process.treatments.lookup signal).getD .standard

/-- Lets a signal take effect on a process that is not stopped. -/
def strike (number : Nat) (child : Child) (signal : Signal) : Child :=
  match child.process? number with
  | none => child
  | some process =>
    match treatment process signal with
    | .ignored => child
    | .caught => child.setProcess { process with caught := process.caught ++ [signal] }
    | .standard =>
      if signal.isHalting then child.setProcess { process with halted := true }
      else if signal.isHarmless then child
      else child.depart number (.signal signal)

/-- Gives a signal to a process. One that is stopped hears only that it is to go on or to end, and
of everything else later. -/
def deliver (number : Nat) (signal : Signal) (child : Child) : Child :=
  match child.process? number with
  | none => child
  | some process =>
    if signal = Signal.resumption then
      let resumed := child.setProcess { process with halted := false, deferred := [] }
      (process.deferred ++ [signal]).foldl (strike number) resumed
    else if process.halted && signal ≠ Signal.kill then
      child.setProcess { process with deferred := process.deferred ++ [signal] }
    else child.strike number signal

end Child

end RpcEndpoint
