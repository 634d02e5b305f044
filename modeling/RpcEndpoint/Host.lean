import RpcEndpoint.Connection.Clock
import RpcEndpoint.Wire.Process

/-!
# Hosts

A host owns at most one process and the connection to it. When the process ends, for whatever
reason, what is pending on the connection fails because the peer is gone.
-/

namespace RpcEndpoint

/-- Who waits for the end of a host's process: its connection, or somebody with a mark of
type `ρ`. -/
inductive Watcher (ρ : Type) where
  | connection
  | outsider (mark : ρ)

namespace ProcessWire

variable {ρ : Type}

/-- What a notice means for the connection. -/
def arrival? : Notice (Watcher ρ) → Option Arrival
  | .output bytes => some (.chunk bytes)
  | .ended .connection _ => some .lost
  | .ended (.outsider _) _ | .line _ _ => none

/-- Takes the notices that are for the connection. -/
def collect (wire : ProcessWire (Watcher ρ)) : List Arrival × ProcessWire (Watcher ρ) :=
  (wire.notices.filterMap arrival?, { wire with
    notices := wire.notices.filter fun notice => (arrival? notice).isNone })

instance : Wire (ProcessWire (Watcher ρ)) := ⟨write, collect, proceed, ProcessWire.now⟩

end ProcessWire

/-- Where a host stands. -/
inductive Phase where
  | idle
  /-- The process has been started; the connection to it has this name. -/
  | running (connection : Nat)
  /-- It will never start anything any more. -/
  | stopped
deriving Repr, DecidableEq

/-- The owner of a process and of the connection to it. -/
structure Host (app : Application) (ρ : Type) where
  config : Config
  phase : Phase
  /-- How often the process was to be started: the name of the next connection. -/
  attempts : Nat
  /-- The connection, over the wire to the process. Nobody has it before the process is started. -/
  link : Timed app (ProcessWire (Watcher ρ))
  /-- The time of the one who uses the host. -/
  now : Instant

namespace Host

variable {app : Application} {ρ : Type}

/-- A host that has not started anything. -/
def new (config : Config) (memory : app.Memory) : Host app ρ :=
  ⟨config, .idle, 0, .start (.new .new memory config.timeout) ⟨0⟩, ⟨0⟩⟩

def wire (host : Host app ρ) : ProcessWire (Watcher ρ) :=
  host.link.connection.framer.wire

/-- Changes the wire. -/
def withWire (change : ProcessWire (Watcher ρ) → ProcessWire (Watcher ρ)) (host : Host app ρ) :
    Host app ρ :=
  let connection := host.link.connection
  let framer := { connection.framer with wire := change connection.framer.wire }
  { host with link := { host.link with connection := { connection with framer } } }

/-! ## Time -/

/-- Lets the next thing be done or happen, if it is by a limit; says whether it was. -/
def proceed (limit : Option Instant) (host : Host app ρ) : Bool × Host app ρ :=
  match host.link.proceed limit with
  | (some instant, link) => (true, { host with link, now := host.now.latest instant })
  | (none, link) => (false, { host with link, now := limit.elim host.now host.now.latest })

/-- Lets time pass until something holds or until a limit, over so many changes at the most. -/
def waitUntil (holds : Host app ρ → Bool) (limit : Option Instant) :
    Nat → Host app ρ → Host app ρ
  | 0, host => host
  | fuel + 1, host =>
    if holds host then host
    else
      match host.proceed limit with
      | (true, later) => waitUntil holds limit fuel later
      | (false, later) => later

/-- The worker has waited for as long as the user of the host has. -/
def meet (host : Host app ρ) : Host app ρ :=
  { host with link := host.link.rest host.now }

/-! ## The process -/

/-- The state of the process. -/
def status (host : Host app ρ) : Status :=
  host.wire.status

/-- The name of the connection, as long as there is one. -/
def connection? (host : Host app ρ) : Option Nat :=
  match host.phase with
  | .running connection => some connection
  | .idle | .stopped => none

/-- Starts the process with a new connection, which is closed when the process ends. A failed
attempt leaves nothing behind. -/
def spawn (host : Host app ρ) : Except ProcessFailure Nat × Host app ρ :=
  let name := host.attempts
  let counted := { host with attempts := name + 1 }
  match host.wire.listen.start host.config with
  | (.error failure, _) => (.error failure, counted)
  | (.ok (), started) =>
    let watched := started.onTermination .connection
    let fresh := Connection.new watched host.link.connection.memory host.config.timeout
    (.ok name, { counted with
      phase := .running name
      link := { host.link with connection := { fresh with name } } })

/-- Starts the process; gives the name of the connection. -/
def start (host : Host app ρ) : Except ProcessFailure Nat × Host app ρ :=
  match host.phase with
  | .idle => host.spawn
  | .running _ => (.error .alreadyStarted, host)
  | .stopped => (.error .terminated, host)

/-- The connection, for which the process is started if need be. -/
def getOrStart (host : Host app ρ) : Except ProcessFailure Nat × Host app ρ :=
  match host.phase with
  | .idle => host.spawn
  | .running connection =>
    (if host.status.isTerminated then .error .terminated else .ok connection, host)
  | .stopped => (.error .terminated, host)

/-- Ends the process, and then the connection. -/
def stop (changes : Nat) (host : Host app ρ) : Host app ρ :=
  let (ends, wire) := host.wire.beginStop
  let stopping := { host.withWire fun _ => wire with phase := .stopped }
  let ended :=
    if ends then stopping.waitUntil (·.wire.isConcluded) none changes else stopping
  match host.phase with
  | .running _ =>
    let link := (ended.link.rest ended.now).gather
    let told := { link with connection := link.connection.enqueue (.order .shutdown) }
    { ended with link := told }.waitUntil (fun host => !host.link.connection.running) none changes
  | .idle | .stopped => ended

end Host

end RpcEndpoint
