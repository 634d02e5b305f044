import RpcEndpoint.Process.FileSystem
import RpcEndpoint.Process.Lifecycle

/-!
# What processes do

The calls of a process to the system, and the limits that hold for it.
-/

namespace RpcEndpoint

/-! ## Limits

How much a process may use of what the system gives. Whoever is started by a process has the same
limits. A limit that is in force may be raised up to the greatest one. -/

/-- What the use of may be limited. -/
inductive Resource where
  | time
  | fileSize
  | data
  | stack
  | dump
  | memory
  | lockedMemory
  | processes
  | openFiles
  | addresses
  | locks
  | priority
deriving Repr, DecidableEq

/-- How much may be used: now, and at the most after a raise. Where there is no number, there is no
limit. -/
structure Limit where
  current : Option Nat
  greatest : Option Nat
deriving Repr, DecidableEq

/-- Whether the limit in force does not go beyond the greatest one. -/
def Limit.isOrdered (limit : Limit) : Bool :=
  match limit.current, limit.greatest with
  | _, none => true
  | none, some _ => false
  | some current, some greatest => current ≤ greatest

/-- The limits of a process. There is none on anything else. -/
abbrev Limits := List (Resource × Limit)

namespace Limits

/-- The limit on the use of something. -/
def of (resource : Resource) (limits : Limits) : Limit :=
  (limits.lookup resource).getD ⟨none, none⟩

/-- Puts a limit on the use of something. -/
def put (resource : Resource) (limit : Limit) (limits : Limits) : Limits :=
  (resource, limit) :: limits.filter fun held => held.1 ≠ resource

/-- The limits that processes begin with. -/
def standard : Limits :=
  [(.stack, ⟨some 8388608, none⟩), (.dump, ⟨some 0, none⟩),
    (.lockedMemory, ⟨some 8388608, some 8388608⟩), (.openFiles, ⟨some 1048576, some 1048576⟩),
    (.priority, ⟨some 0, some 0⟩)]

theorem of_put (resource : Resource) (limit : Limit) (limits : Limits) :
    (limits.put resource limit).of resource = limit := by
  simp [of, put]

end Limits

/-! ## Tasks

What a process does is a tree of calls to the system, each of which goes on with the answer to it.
Files that are open are known by small numbers: 0 is the input, 1 the output, 2 the errors. -/

/-- A signal, known by its number. -/
abbrev Signal := Nat

/-- How a process treats a signal. -/
inductive Treatment where
  | standard
  | ignored
  /-- The process is told when it asks. -/
  | caught
deriving Repr, DecidableEq

/-- What a file is opened for. -/
inductive Access where
  | read
  /-- From the beginning, what was there is lost. -/
  | write
  /-- At the end. -/
  | append
  /-- Both, what was there stays. -/
  | readWrite
deriving Repr, DecidableEq

/-- A change of the tree of files. -/
inductive Change where
  | remove
  /-- With everything below it. -/
  | removeAll
  | removeDirectory
  | makeDirectory
  /-- Makes an empty file if there is nothing. -/
  | touch
  /-- Makes a link to another path. -/
  | link (target : String)
deriving Repr, DecidableEq

/-- What a program finds when it is started, apart from its arguments and its open files. -/
structure Surroundings where
  environment : List (String × String)
  /-- The directory that its paths are seen from. -/
  directory : Place
  /-- The rights that are taken from new files. -/
  mask : Nat := 0o22
  limits : Limits := .standard
deriving Repr, DecidableEq

/-- The outcome of a call. -/
abbrev Called := Except SystemFault

/-- What a process does from here on. -/
inductive Task where
  | exit (status : ExitStatus)
  /-- Takes breath. -/
  | pause (next : Unit → Task)
  | sleep (duration : Duration) (next : Task)
  /-- Reads so many bytes at the most; none at the end of the file. -/
  | read (file limit : Nat) (next : Called Bytes → Task)
  | write (file : Nat) (bytes : Bytes) (next : Called Unit → Task)
  /-- Opens the file of a path, seen from a place, under a number. -/
  | openFile (file : Nat) (base : Place) (path : String) (access : Access)
      (next : Called Unit → Task)
  /-- Opens a file of its own with a content under a number. -/
  | openContent (file : Nat) (content : Bytes) (next : Task)
  /-- Opens a pipe: the numbers of its two ends, the one to read from first. -/
  | openPipe (next : Nat → Nat → Task)
  /-- Opens what is open under one number under another one too. -/
  | duplicate (source target : Nat) (next : Called Unit → Task)
  /-- Opens what is open under a number under a high number too, which is still free. -/
  | save (file : Nat) (next : Option Nat → Task)
  | close (file : Nat) (next : Task)
  /-- Closes everything under this number and above it. -/
  | closeFrom (first : Nat) (next : Task)
  /-- Starts another process, which has the same files open. -/
  | fork (child : Task) (next : Nat → Task)
  /-- Waits for the end of one of the own children, or of any. A caught signal may break it. -/
  | wait (child : Option Nat) (breaks : Bool) (next : Called (Nat × ExitStatus) → Task)
  /-- Goes on as the program behind the first of some paths that there is one behind. It gets a
  name for itself and arguments. -/
  | become (paths : List String) (name : String) (arguments : List String)
      (surroundings : Surroundings) (otherwise : SystemFault → Task)
  | kill (process : Nat) (signal : Signal) (next : Called Unit → Task)
  | treat (signal : Signal) (treatment : Treatment) (next : Task)
  /-- Asks for the signals that were caught since the last time. -/
  | caught (next : List Signal → Task)
  /-- Asks for the number of the process and that of its parent. -/
  | numbers (next : Nat → Nat → Task)
  /-- Looks what a path leads to, seen from a place. -/
  | look (base : Place) (path : String) (next : Called (Place × Node) → Task)
  /-- Asks whether a path names a link. -/
  | lookForLink (base : Place) (path : String) (next : Bool → Task)
  /-- Asks for the names in the directory of a path; there are none in anything else. -/
  | list (base : Place) (path : String) (next : List String → Task)
  | change (base : Place) (path : String) (change : Change) (next : Called Unit → Task)

/-- A program as a task: it gets a name for itself, arguments and surroundings. -/
abbrev Program := String → List String → Surroundings → Task

namespace Task

/-- Ends with a code. -/
def exitWith (code : Nat) : Task :=
  .exit (.code (code % 256))

end Task

namespace Signal

/-- The signals that have a meaning, by their names. -/
def names : List (String × Signal) :=
  [("HUP", 1), ("INT", 2), ("QUIT", 3), ("ILL", 4), ("TRAP", 5), ("ABRT", 6), ("BUS", 7),
    ("FPE", 8), ("KILL", 9), ("USR1", 10), ("SEGV", 11), ("USR2", 12), ("PIPE", 13), ("ALRM", 14),
    ("TERM", 15), ("CHLD", 17), ("CONT", 18), ("STOP", 19), ("TSTP", 20), ("TTIN", 21),
    ("TTOU", 22), ("URG", 23), ("XCPU", 24), ("XFSZ", 25), ("VTALRM", 26), ("PROF", 27),
    ("WINCH", 28), ("IO", 29), ("PWR", 30), ("SYS", 31)]

/-- More names, which not everybody knows. -/
def furtherNames : List (String × Signal) :=
  [("IOT", 6), ("STKFLT", 16), ("CLD", 17), ("POLL", 29)]

/-- The first and the last of the signals that are free for any use. -/
def firstFree : Signal := 34

def lastFree : Signal := 64

/-- The name of a signal that is free for any use: the lower half is counted up from the first one,
the upper half down from the last one. -/
def freeName? (signal : Signal) : Option String :=
  if signal < firstFree || lastFree < signal then none
  else if signal = firstFree then some "RTMIN"
  else if signal = lastFree then some "RTMAX"
  else if signal < 50 then some ("RTMIN+" ++ toString (signal - firstFree))
  else some ("RTMAX-" ++ toString (lastFree - signal))

/-- The name of a signal, if it has one. -/
def name? (signal : Signal) : Option String :=
  ((names.find? fun held => held.2 = signal).map Prod.fst).or (freeName? signal)

/-- The signal of a name in great letters. -/
def ofName? (name : String) : Option Signal :=
  (names.lookup name).or
    ((List.range (lastFree + 1)).find? fun signal => freeName? signal = some name)

/-- The signal of a name or a number. The letters may be small and may follow `SIG`. -/
def named? (written : String) : Option Signal :=
  let upper := written.map Char.toUpper
  let bare := if upper.startsWith "SIG" then (upper.drop 3).toString else upper
  match written.toNat? with
  | some number => if number ≤ lastFree then some number else none
  | none => (ofName? bare).or (furtherNames.lookup bare)

def kill : Signal := 9

def brokenPipe : Signal := 13

def termination : Signal := 15

def resumption : Signal := 18

/-- Whether a process cannot treat the signal in its own way. -/
def isSovereign (signal : Signal) : Bool :=
  signal = 9 || signal = 19

/-- Whether a signal stops a process that says nothing about it, until it is told to go on. -/
def isHalting (signal : Signal) : Bool :=
  [19, 20, 21, 22].contains signal

/-- Whether a signal means nothing to a process that says nothing about it. -/
def isHarmless (signal : Signal) : Bool :=
  [0, 17, 18, 23, 28].contains signal

end Signal

end RpcEndpoint
