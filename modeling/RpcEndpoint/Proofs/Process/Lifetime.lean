import Mathlib.Data.List.Perm.Basic
import Mathlib.Logic.Relation
import RpcEndpoint.Process.Lifecycle

/-!
# The end of a process among threads

Any thread may end a process, and any thread may ask to be told of the end. A lifetime cuts what
they do into turns, each of which takes one lock at the most. Whatever the order of the turns, the
process is ended by one thread only, and every hook is called once.
-/

namespace RpcEndpoint

/-- How far a thread has come that has left the running state. -/
inductive Farewell (η : Type) where
  | left
  /-- How the process ended has been written down. -/
  | reaped (exit : Option ExitStatus)
  /-- These hooks are still to be called. -/
  | calling (hooks : List η) (exit : Option ExitStatus)

/-- A call of a hook, with what was seen of the process at that moment. -/
structure HookCall (η : Type) where
  hook : η
  exit : Option ExitStatus
  seen : Status
deriving Repr, DecidableEq

/-- A process among threads. Those who end it have names of type `κ`. -/
structure Lifetime (κ η : Type) where
  lifecycle : Lifecycle η
  /-- Who is ending the process. -/
  underway : List (κ × Farewell η)
  /-- Who has ended the process. -/
  completed : List κ
  /-- The hooks that have come late and have not been called yet by those who have brought them. -/
  late : List (η × Option ExitStatus)
  calls : List (HookCall η)

/-- Who is next, and with what. -/
inductive Turn (κ η : Type) where
  /-- The process is to be started; what the system says to that. -/
  | start (spawned : Except ProcessFailure Unit)
  /-- Somebody wants to end the process. -/
  | leave (who : κ)
  /-- Somebody who ends the process goes on; how the process ended matters when it is seen off. -/
  | goOn (index : Nat) (exit : Option ExitStatus)
  | register (hook : η)
  /-- Somebody calls the hook that has come late. -/
  | callLate (index : Nat)

namespace Turn

variable {κ η : Type}

def hook? : Turn κ η → Option η
  | .register hook => some hook
  | _ => none

def isSuccess : Turn κ η → Bool
  | .start (.ok ()) => true
  | _ => false

end Turn

/-- The hooks that are registered along a schedule. -/
def hooksIn {κ η : Type} (schedule : List (Turn κ η)) : List η :=
  schedule.filterMap Turn.hook?

theorem hooksIn_cons {κ η : Type} (turn : Turn κ η) (rest : List (Turn κ η)) :
    hooksIn (turn :: rest) = turn.hook?.toList ++ hooksIn rest := by
  cases turn <;> rfl

/-- How what is seen of a process changes. -/
inductive Status.Moves : Status → Status → Prop where
  | begins : Moves .notStarted .running
  | leaves : Moves .running (.terminated none)
  | ends (exit : ExitStatus) : Moves (.terminated none) (.terminated (some exit))

/-- What has been left is not taken up again. -/
theorem Status.isTerminated_of_moves {earlier later : Status}
    (moves : Relation.ReflTransGen Moves earlier later) (isOver : earlier.isTerminated = true) :
    later.isTerminated = true := by
  induction moves with
  | refl => exact isOver
  | tail moves move stillOver =>
      cases move with
      | begins => cases stillOver
      | leaves | ends => rfl

namespace Lifetime

variable {κ η : Type}

/-- A process that has not been started. -/
def new : Lifetime κ η :=
  ⟨.new, [], [], [], []⟩

def status (lifetime : Lifetime κ η) : Status :=
  lifetime.lifecycle.status

/-- All who have left the running state, whether they have come to the end or not. -/
def enders (lifetime : Lifetime κ η) : List κ :=
  lifetime.completed ++ lifetime.underway.map Prod.fst

/-- The hooks that were called. -/
def called (lifetime : Lifetime κ η) : List η :=
  lifetime.calls.map HookCall.hook

/-- Starts the process, if the system does. -/
def start {α : Type} (spawned : Except ProcessFailure α) (lifetime : Lifetime κ η) :
    Except ProcessFailure α × Lifetime κ η :=
  match lifetime.lifecycle.refusal?, spawned with
  | some failure, _ => (.error failure, lifetime)
  | none, .error failure => (.error failure, lifetime)
  | none, .ok child => (.ok child, { lifetime with lifecycle := lifetime.lifecycle.begin })

/-- Leaves the running state; says whether it was left just now. -/
def leave (who : κ) (lifetime : Lifetime κ η) : Bool × Lifetime κ η :=
  match lifetime.lifecycle.leave with
  | (true, lifecycle) =>
    (true, { lifetime with lifecycle, underway := lifetime.underway ++ [(who, .left)] })
  | (false, lifecycle) => (false, { lifetime with lifecycle })

/-- Calls a hook. -/
def call (hook : η) (exit : Option ExitStatus) (lifetime : Lifetime κ η) : Lifetime κ η :=
  { lifetime with calls := lifetime.calls ++ [⟨hook, exit, lifetime.status⟩] }

/-- The next step of somebody who ends the process. -/
def goOn (index : Nat) (exit : Option ExitStatus) (lifetime : Lifetime κ η) : Lifetime κ η :=
  match lifetime.underway[index]? with
  | none => lifetime
  | some (who, .left) =>
    { lifetime with
      lifecycle := lifetime.lifecycle.reap exit
      underway := lifetime.underway.set index (who, .reaped exit) }
  | some (who, .reaped exit) =>
    let (hooks, lifecycle) := lifetime.lifecycle.release exit
    { lifetime with
      lifecycle
      underway := lifetime.underway.set index (who, .calling hooks exit) }
  | some (who, .calling (hook :: rest) exit) =>
    { lifetime with underway := lifetime.underway.set index (who, .calling rest exit) }.call
      hook exit
  | some (who, .calling [] _) =>
    { lifetime with
      underway := lifetime.underway.eraseIdx index
      completed := lifetime.completed ++ [who] }

def register (hook : η) (lifetime : Lifetime κ η) : Lifetime κ η :=
  match lifetime.lifecycle.register hook with
  | (some exit, lifecycle) =>
    { lifetime with lifecycle, late := lifetime.late ++ [(hook, exit)] }
  | (none, lifecycle) => { lifetime with lifecycle }

def callLate (index : Nat) (lifetime : Lifetime κ η) : Lifetime κ η :=
  match lifetime.late[index]? with
  | none => lifetime
  | some (hook, exit) =>
    { lifetime with late := lifetime.late.eraseIdx index }.call hook exit

/-- The lifetime after a turn. -/
def next (lifetime : Lifetime κ η) : Turn κ η → Lifetime κ η
  | .start spawned => (lifetime.start spawned).2
  | .leave who => (lifetime.leave who).2
  | .goOn index exit => lifetime.goOn index exit
  | .register hook => lifetime.register hook
  | .callLate index => lifetime.callLate index

/-- The lifetime at the end of a schedule. -/
def run (lifetime : Lifetime κ η) (schedule : List (Turn κ η)) : Lifetime κ η :=
  schedule.foldl next lifetime

/-! ## What may be the case -/

/-- The states that a lifetime comes to, when these hooks were registered. -/
inductive Consistent : List η → Lifetime κ η → Prop where
  /-- Nobody has left the running state. -/
  | before (status : Status) (isOpen : status.isTerminated = false) (hooks : List η) :
    Consistent hooks ⟨⟨status, hooks, none⟩, [], [], [], []⟩
  | left (who : κ) (hooks : List η) :
    Consistent hooks ⟨⟨.terminated none, hooks, none⟩, [(who, .left)], [], [], []⟩
  | reaped (who : κ) (exit : Option ExitStatus) (hooks : List η) :
    Consistent hooks ⟨⟨.terminated exit, hooks, none⟩, [(who, .reaped exit)], [], [], []⟩
  | calling (who : κ) (exit : Option ExitStatus) (waiting : List η)
      {registered called late : List η} (all : (called ++ waiting ++ late).Perm registered) :
    Consistent registered
      ⟨⟨.terminated exit, [], some exit⟩, [(who, .calling waiting exit)], [],
        late.map (·, exit), called.map fun hook => ⟨hook, exit, .terminated exit⟩⟩
  | completed (who : κ) (exit : Option ExitStatus)
      {registered called late : List η} (all : (called ++ late).Perm registered) :
    Consistent registered
      ⟨⟨.terminated exit, [], some exit⟩, [], [who],
        late.map (·, exit), called.map fun hook => ⟨hook, exit, .terminated exit⟩⟩

namespace Consistent

variable {registered : List η} {lifetime : Lifetime κ η}

theorem start {α : Type} (consistent : Consistent registered lifetime)
    (spawned : Except ProcessFailure α) :
    Consistent registered (lifetime.start spawned).2 := by
  cases consistent with
  | before status isOpen =>
      cases status with
      | notStarted =>
          cases spawned with
          | error failure => exact .before .notStarted rfl _
          | ok started => exact .before .running rfl _
      | running => exact .before .running rfl _
      | terminated exit => cases isOpen
  | left who => exact .left who _
  | reaped who exit => exact .reaped who exit _
  | calling who exit waiting all => exact .calling who exit waiting all
  | completed who exit all => exact .completed who exit all

theorem leave (consistent : Consistent registered lifetime) (who : κ) :
    Consistent registered (lifetime.leave who).2 := by
  cases consistent with
  | before status isOpen =>
      cases status with
      | notStarted => exact .before .notStarted rfl _
      | running => exact .left who _
      | terminated exit => cases isOpen
  | left other => exact .left other _
  | reaped other exit => exact .reaped other exit _
  | calling other exit waiting all => exact .calling other exit waiting all
  | completed other exit all => exact .completed other exit all

/-- At most one thread ends a process, so that the others have nothing to go on with. -/
theorem goOn (consistent : Consistent registered lifetime) (index : Nat)
    (exit : Option ExitStatus) : Consistent registered (lifetime.goOn index exit) := by
  cases consistent with
  | before status isOpen => exact .before status isOpen _
  | left who =>
      cases index with
      | zero => exact .reaped who exit _
      | succ index => exact .left who _
  | reaped who written =>
      cases index with
      | zero =>
          exact @Consistent.calling _ _ who written _ _ [] [] (by simp)
      | succ index => exact .reaped who written _
  | @calling who written waiting _ called late all =>
      cases index with
      | zero =>
          cases waiting with
          | nil => exact .completed who written (by simpa using all)
          | cons hook rest =>
              have further : (called ++ [hook] ++ rest ++ late).Perm registered := by simpa using all
              simpa [Lifetime.goOn, call, status] using Consistent.calling who written rest further
      | succ index => exact .calling who written waiting all
  | completed who written all => exact .completed who written all

theorem register (consistent : Consistent registered lifetime) (hook : η) :
    Consistent (registered ++ [hook]) (lifetime.register hook) := by
  cases consistent with
  | before status isOpen => exact .before status isOpen _
  | left who => exact .left who _
  | reaped who exit => exact .reaped who exit _
  | @calling who exit waiting _ called late all =>
      have more : (called ++ waiting ++ (late ++ [hook])).Perm (registered ++ [hook]) := by
        rw [← List.append_assoc]
        exact all.append_right [hook]
      simpa [Lifetime.register, Lifecycle.register] using Consistent.calling who exit waiting more
  | @completed who exit _ called late all =>
      have more : (called ++ (late ++ [hook])).Perm (registered ++ [hook]) := by
        rw [← List.append_assoc]
        exact all.append_right [hook]
      simpa [Lifetime.register, Lifecycle.register] using Consistent.completed who exit more

/-- A hook that is taken from those that have come late and called is still one of all hooks. -/
private theorem perm_called
    (called waiting : List η) {late : List η} {index : Nat} {hook : η}
    (here : late[index]? = some hook) :
    (called ++ [hook] ++ waiting ++ late.eraseIdx index).Perm (called ++ waiting ++ late) := by
  obtain ⟨inside, isHook⟩ := List.getElem?_eq_some_iff.mp here
  have taken : (hook :: late.eraseIdx index).Perm late := by
    rw [← isHook]
    exact List.getElem_cons_eraseIdx_perm inside
  have moved : (hook :: (waiting ++ late.eraseIdx index)).Perm (waiting ++ late) :=
    List.perm_middle.symm.trans (taken.append_left waiting)
  simpa using moved.append_left called

theorem callLate (consistent : Consistent registered lifetime) (index : Nat) :
    Consistent registered (lifetime.callLate index) := by
  cases consistent with
  | before status isOpen => exact .before status isOpen _
  | left who => exact .left who _
  | reaped who exit => exact .reaped who exit _
  | @calling who exit waiting _ called late all =>
      cases here : late[index]? with
      | none => simpa [Lifetime.callLate, here] using Consistent.calling who exit waiting all
      | some hook =>
          have one := (perm_called called waiting here).trans all
          simpa [Lifetime.callLate, here, call, status, List.eraseIdx_map] using
            Consistent.calling who exit waiting one
  | @completed who exit _ called late all =>
      cases here : late[index]? with
      | none => simpa [Lifetime.callLate, here] using Consistent.completed who exit all
      | some hook =>
          have one := perm_called called [] here
          rw [List.append_nil, List.append_nil] at one
          simpa [Lifetime.callLate, here, call, status, List.eraseIdx_map] using
            Consistent.completed who exit (one.trans all)

theorem next (consistent : Consistent registered lifetime) (turn : Turn κ η) :
    Consistent (registered ++ turn.hook?.toList) (lifetime.next turn) := by
  cases turn with
  | start spawned => simpa [Turn.hook?, Lifetime.next] using consistent.start spawned
  | leave who => simpa [Turn.hook?, Lifetime.next] using consistent.leave who
  | goOn index exit => simpa [Turn.hook?, Lifetime.next] using consistent.goOn index exit
  | register hook => exact consistent.register hook
  | callLate index => simpa [Turn.hook?, Lifetime.next] using consistent.callLate index

theorem run (consistent : Consistent registered lifetime) (schedule : List (Turn κ η)) :
    Consistent (registered ++ hooksIn schedule) (lifetime.run schedule) := by
  induction schedule generalizing registered lifetime with
  | nil => simpa [hooksIn, Lifetime.run] using consistent
  | cons turn rest inductionHypothesis =>
      rw [hooksIn_cons, ← List.append_assoc]
      exact inductionHypothesis (consistent.next turn)

end Consistent

end Lifetime

end RpcEndpoint
