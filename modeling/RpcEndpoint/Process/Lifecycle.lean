import RpcEndpoint.Failure

/-!
# The life of a process

A process is started once and ends once. Whoever ends it leaves the running state first, then writes
down how the process ended, and then calls the hooks. Each of these is one step, so that others may
come in between.
-/

namespace RpcEndpoint

/-- How a process ended. -/
inductive ExitStatus where
  | code (code : Nat)
  | signal (number : Nat)
deriving Repr, DecidableEq

/-- The word that the system hands to the parent: the code stands in the second byte. -/
def ExitStatus.word : ExitStatus → Nat
  | .code number => number % 256 * 256
  | .signal number => number

/-- What is seen of a process. -/
inductive Status where
  | notStarted
  | running
  /-- It has ended or is about to; how it ended is known once it has been seen off. -/
  | terminated (exit : Option ExitStatus)
deriving Repr, DecidableEq

def Status.isTerminated : Status → Bool
  | .terminated _ => true
  | _ => false

/-- The state of a process and the hooks that wait for its end, which are of type `η`. -/
structure Lifecycle (η : Type) where
  status : Status
  hooks : List η
  /-- What the hooks were told, once they have been called. -/
  told : Option (Option ExitStatus)

namespace Lifecycle

variable {η : Type}

/-- A process that has not been started. -/
def new : Lifecycle η := ⟨.notStarted, [], none⟩

/-- Why a process cannot be started any more. -/
def refusal? (lifecycle : Lifecycle η) : Option ProcessFailure :=
  match lifecycle.status with
  | .notStarted => none
  | .running => some .alreadyStarted
  | .terminated _ => some .terminated

/-- The process runs. -/
def begin (lifecycle : Lifecycle η) : Lifecycle η :=
  { lifecycle with status := .running }

/-- Leaves the running state; says whether it was left just now. Only one who is told so goes on to
end the process. -/
def leave (lifecycle : Lifecycle η) : Bool × Lifecycle η :=
  match lifecycle.status with
  | .running => (true, { lifecycle with status := .terminated none })
  | .notStarted | .terminated _ => (false, lifecycle)

/-- Writes down how the process ended. -/
def reap (exit : Option ExitStatus) (lifecycle : Lifecycle η) : Lifecycle η :=
  match lifecycle.status with
  | .terminated _ => { lifecycle with status := .terminated exit }
  | .notStarted | .running => lifecycle

/-- Takes the hooks that are to be called. They are called once. -/
def release (exit : Option ExitStatus) (lifecycle : Lifecycle η) : List η × Lifecycle η :=
  match lifecycle.told with
  | some _ => ([], lifecycle)
  | none => (lifecycle.hooks, { lifecycle with hooks := [], told := some exit })

/-- Adds a hook. One that comes late is not kept but called at once, with what the others were
told. -/
def register (hook : η) (lifecycle : Lifecycle η) : Option (Option ExitStatus) × Lifecycle η :=
  match lifecycle.told with
  | some exit => (some exit, lifecycle)
  | none => (none, { lifecycle with hooks := lifecycle.hooks ++ [hook] })

end Lifecycle

end RpcEndpoint
