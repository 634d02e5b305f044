import RpcEndpoint.Host
import RpcEndpoint.Proofs.Process.Termination
import RpcEndpoint.Proofs.Requests.Endings

/-!
# A host among threads

Threads ask a host for its connection, stop it, register hooks and use the connection, while the
process comes to its end. What they do is cut into choices, each of which takes one lock at the
most. A call that starts the process keeps the lock of the host until it is done.
-/

namespace RpcEndpoint

/-- The two ways to ask a host for its connection. -/
inductive Entrance where
  | start
  | getOrStart
deriving Repr, DecidableEq

/-- What a host in this phase says at once, without starting anything. -/
def Phase.verdict? (phase : Phase) (isTerminated : Bool) :
    Entrance → Option (Except ProcessFailure Nat) := fun entrance =>
  match phase, entrance with
  | .idle, _ => none
  | .running _, .start => some (.error .alreadyStarted)
  | .running connection, .getOrStart =>
    some (if isTerminated then .error .terminated else .ok connection)
  | .stopped, _ => some (.error .terminated)

/-- The connection of a host in this phase. -/
def Phase.connection? : Phase → Option Nat
  | .running connection => some connection
  | .idle | .stopped => none

def Watcher.isConnection {ρ : Type} : Watcher ρ → Bool
  | .connection => true
  | .outsider _ => false

/-- Who may end the process of a host. -/
inductive Ender where
  /-- The thread that reads the output, when the output ends. -/
  | reader
  /-- A thread that writes, when a write fails. -/
  | writer
  /-- A call to stop the host. The calls have numbers. -/
  | stop (index : Nat)
deriving Repr, DecidableEq

/-- A call that has started the process and is not done. -/
structure Launching where
  entrance : Entrance
  /-- The name of the new connection. -/
  name : Nat
  /-- Whether the hook of the connection has been registered. -/
  watched : Bool

/-- A call to stop the host. -/
structure Stopping where
  /-- The connection that it has found. -/
  connection : Option Nat
  /-- Whether it has ended the process itself, once it has tried to. -/
  ends : Option Bool
  /-- Whether it is done, and has shut down the connection if there was one. -/
  done : Bool

/-- A host, its process and its connection. -/
structure Hosting (app : Application) (ω ρ : Type) where
  memory : app.Memory
  timeout : Option Duration
  phase : Phase
  /-- How often the process was to be started: the name of the next connection. -/
  attempts : Nat
  life : Lifetime Ender (Watcher ρ)
  /-- The call that has the lock of the host. -/
  errand : Option Launching
  link : Option (Machine app ω)
  stops : List Stopping
  /-- Whether the child has exited. -/
  exited : Bool
  /-- The names of the connections for which the process was started. -/
  spawned : List Nat
  /-- What the calls have come back with, the first one first. -/
  answers : List (Entrance × Except ProcessFailure Nat)
  /-- Whether somebody else than the host has ordered an end to what is pending. -/
  disturbed : Bool

namespace Hosting

/-- Who is next, and with what. -/
inductive Choice (app : Application) (ω ρ : Type) where
  /-- Somebody asks for the connection; the wire to the child, if the system starts one. -/
  | call (entrance : Entrance) (spawned : Except ProcessFailure ω)
  /-- The call that has started the process registers the hook of the connection. -/
  | watch
  /-- The call that has started the process comes back. -/
  | settle
  | exit
  | outputEnds
  | writeFails
  /-- Somebody who ends the process goes on. -/
  | goOn (index : Nat) (exit : Option ExitStatus)
  | register (mark : ρ)
  | callLate (index : Nat)
  /-- Somebody stops the host: it leaves its phase. -/
  | stop
  /-- The call to stop with this number ends the process, unless it has been ended. -/
  | leave (index : Nat)
  /-- The call to stop with this number shuts down the connection that it has found. -/
  | shut (index : Nat)
  /-- Something happens at the connection. -/
  | work (choice : RpcEndpoint.Choice app ω)

variable {app : Application} {ω ρ : Type}

/-- A host that has not started anything. -/
def new (memory : app.Memory) (timeout : Option Duration) : Hosting app ω ρ where
  memory
  timeout
  phase := .idle
  attempts := 0
  life := .new
  errand := none
  link := none
  stops := []
  exited := false
  spawned := []
  answers := []
  disturbed := false

def status (host : Hosting app ω ρ) : Status :=
  host.life.status

def connection? (host : Hosting app ω ρ) : Option Nat :=
  host.phase.connection?

/-- A call comes back. -/
def answer (entrance : Entrance) (outcome : Except ProcessFailure Nat)
    (host : Hosting app ω ρ) : Hosting app ω ρ :=
  { host with answers := host.answers ++ [(entrance, outcome)] }

/-- A call starts the process. If it fails it comes back; otherwise it keeps the lock. -/
def spawn (entrance : Entrance) (spawned : Except ProcessFailure ω) (host : Hosting app ω ρ) :
    Hosting app ω ρ :=
  let name := host.attempts
  let counted := { host with attempts := name + 1 }
  match host.life.start spawned with
  | (.error failure, _) => counted.answer entrance (.error failure)
  | (.ok wire, life) =>
    { counted with
      life
      errand := some ⟨entrance, name, false⟩
      link := some (.start wire host.memory host.timeout)
      spawned := host.spawned ++ [name] }

/-- Somebody asks for the connection. Until the lock is free the call waits. -/
def call (entrance : Entrance) (spawned : Except ProcessFailure ω) (host : Hosting app ω ρ) :
    Hosting app ω ρ :=
  match host.errand with
  | some _ => host
  | none =>
    match host.phase.verdict? host.status.isTerminated entrance with
    | some verdict => host.answer entrance verdict
    | none => host.spawn entrance spawned

variable [Wire ω]

/-- Something happens at the connection. -/
def touch (choice : RpcEndpoint.Choice app ω) (host : Hosting app ω ρ) : Hosting app ω ρ :=
  { host with link := host.link.map (·.next choice) }

/-- A turn at the process. The hook of the connection orders it to close. -/
def live (turn : Turn Ender (Watcher ρ)) (host : Hosting app ω ρ) : Hosting app ω ρ :=
  let life := host.life.next turn
  let called := life.called.drop host.life.called.length
  let lived := { host with life }
  if called.any Watcher.isConnection then lived.touch (.act (.arrive .lost)) else lived

/-- Registers the hook of the connection. -/
def watch (host : Hosting app ω ρ) : Hosting app ω ρ :=
  match host.errand with
  | some ⟨entrance, name, false⟩ =>
    { host.live (.register .connection) with errand := some ⟨entrance, name, true⟩ }
  | _ => host

/-- The call that has started the process comes back, once it has run the hook itself if that was
late. -/
def settle (host : Hosting app ω ρ) : Hosting app ω ρ :=
  match host.errand with
  | some ⟨entrance, name, true⟩ =>
    if host.life.late.any (·.1.isConnection) then host
    else { host with phase := .running name, errand := none }.answer entrance (.ok name)
  | _ => host

/-- Somebody stops the host. Until the lock is free the call waits. -/
def stop (host : Hosting app ω ρ) : Hosting app ω ρ :=
  match host.errand with
  | some _ => host
  | none =>
    { host with
      phase := .stopped
      stops := host.stops ++ [⟨host.connection?, none, false⟩] }

/-- A call to stop ends the process, unless it has been ended. -/
def leave (index : Nat) (host : Hosting app ω ρ) : Hosting app ω ρ :=
  match host.stops[index]? with
  | some ⟨connection, none, done⟩ =>
    let (ends, life) := host.life.leave (.stop index)
    { host with life, stops := host.stops.set index ⟨connection, some ends, done⟩ }
  | _ => host

/-- A call to stop that ends the process itself waits until it has; then the connection is shut
down. -/
def shut (index : Nat) (host : Hosting app ω ρ) : Hosting app ω ρ :=
  match host.stops[index]? with
  | some ⟨connection, some ends, false⟩ =>
    if ends && !host.life.completed.contains (.stop index) then host
    else
      let stopped := { host with stops := host.stops.set index ⟨connection, some ends, true⟩ }
      if connection.isSome then stopped.touch (.act (.order .shutdown)) else stopped
  | _ => host

/-- Something happens at the connection that is not the doing of the host. -/
def work (choice : RpcEndpoint.Choice app ω) (host : Hosting app ω ρ) : Hosting app ω ρ :=
  let commands (link : Option (Machine app ω)) := link.elim [] Machine.entered
  let worked := host.touch choice
  let orders := (endingsIn (commands worked.link)).length
  { worked with
    disturbed := host.disturbed || decide (orders ≠ (endingsIn (commands host.link)).length) }

/-- The host after a choice. -/
def next (host : Hosting app ω ρ) : Choice app ω ρ → Hosting app ω ρ
  | .call entrance spawned => host.call entrance spawned
  | .watch => host.watch
  | .settle => host.settle
  | .exit => { host with exited := host.exited || host.link.isSome }
  | .outputEnds => host.live (.leave .reader)
  | .writeFails => host.live (.leave .writer)
  | .goOn index exit => host.live (.goOn index exit)
  | .register mark => host.live (.register (.outsider mark))
  | .callLate index => host.live (.callLate index)
  | .stop => host.stop
  | .leave index => host.leave index
  | .shut index => host.shut index
  | .work choice => host.work choice

/-- The host at the end of a schedule. -/
def run (host : Hosting app ω ρ) (schedule : List (Choice app ω ρ)) : Hosting app ω ρ :=
  schedule.foldl next host

end Hosting

end RpcEndpoint
