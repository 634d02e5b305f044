import RpcEndpoint.Wire.Basic

/-!
# A wire in memory

The wire records what is written to it. Bytes from the peer are fed to it by hand and go to the
reader that is installed at that time.
-/

namespace RpcEndpoint

/-- A wire that records its writes; readers are known by a mark of type `ρ`. -/
structure MemoryWire (ρ : Type) where
  /-- The accepted writes in their order. -/
  writes : List Bytes
  /-- Why writes are refused, as long as they are. -/
  refusal : Option WireFailure
  reader : Option ρ
  /-- Whether accepted writes come back as chunks from the peer. -/
  echoes : Bool
  /-- The chunks that have come back and not been collected. -/
  arrived : List Bytes

namespace MemoryWire

variable {ρ : Type}

/-- A wire before its first write. -/
def new : MemoryWire ρ := ⟨[], none, none, false, []⟩

/-- Offers bytes to the wire. -/
def write (bytes : Bytes) (wire : MemoryWire ρ) : Except WireFailure Unit × MemoryWire ρ :=
  match wire.refusal with
  | some failure => (.error failure, wire)
  | none =>
    (.ok (), { wire with
      writes := wire.writes ++ [bytes]
      arrived := if wire.echoes then wire.arrived ++ [bytes] else wire.arrived })

/-- Takes the chunks that have come back. -/
def collect (wire : MemoryWire ρ) : List Arrival × MemoryWire ρ :=
  (wire.arrived.map .chunk, { wire with arrived := [] })

instance : Wire (MemoryWire ρ) := ⟨write, collect, fun _ wire => (none, wire), fun _ => ⟨0⟩⟩

/-- Refuses the writes to come, or accepts them again. -/
def setRefusal (refusal : Option WireFailure) (wire : MemoryWire ρ) : MemoryWire ρ :=
  { wire with refusal }

def setReader (reader : ρ) (wire : MemoryWire ρ) : MemoryWire ρ :=
  { wire with reader := some reader }

/-- Who receives a chunk that is fed now, if anyone does. -/
def feed (chunk : Bytes) (wire : MemoryWire ρ) : Option (ρ × Bytes) :=
  wire.reader.map fun reader => (reader, chunk)

/-- All bytes that were written. -/
def written (wire : MemoryWire ρ) : Bytes :=
  wire.writes.flatten

end MemoryWire

/-! ## Waiting for writes

A caller looks at the wire, sleeps until its deadline at the most and looks again as soon as it is
woken. Meanwhile others write and time passes. -/

/-- Where a caller stands that waits for writes. -/
inductive Waiter where
  /-- The clock cannot show the deadline, and the caller has gone down. -/
  | lost
  /-- It is about to look. -/
  | ready (deadline : Instant)
  /-- It has seen too few writes and sleeps, so long at the most. -/
  | asleep (deadline since : Instant) (longest : Duration)
  /-- It has come back with the writes it has seen. -/
  | back (writes : List Bytes)
deriving DecidableEq

/-- When the wait ends, as long as it goes on. -/
def Waiter.deadline? : Waiter → Option Instant
  | .ready deadline => some deadline
  | .asleep deadline _ _ => some deadline
  | _ => none

/-- What happens while someone waits. -/
inductive Happening where
  | write (bytes : Bytes)
  | refuse (refusal : Option WireFailure)
  | pass (duration : Duration)
  /-- The caller is woken: by a write, at the end of its sleep or for no reason. -/
  | wake

/-- A wire, the time and a caller that waits for so many writes. -/
structure Watch (ρ : Type) where
  wire : MemoryWire ρ
  now : Instant
  count : Nat
  waiter : Waiter

namespace Watch

variable {ρ : Type}

/-- The caller begins to wait. Its deadline is fixed before it looks for the first time. -/
def begin (wire : MemoryWire ρ) (now : Instant) (count : Nat) (timeout : Duration) : Watch ρ :=
  ⟨wire, now, count,
    match now.after? timeout with
    | some deadline => .ready deadline
    | none => .lost⟩

/-- The caller looks at the wire. -/
def look (deadline : Instant) (watch : Watch ρ) : Waiter :=
  if watch.count ≤ watch.wire.writes.length then .back watch.wire.writes
  else
    let remaining : Duration := ⟨deadline.nanoseconds - watch.now.nanoseconds⟩
    if remaining.nanoseconds = 0 then .back watch.wire.writes
    else .asleep deadline watch.now remaining

def step (watch : Watch ρ) : Happening → Watch ρ
  | .write bytes => { watch with wire := (watch.wire.write bytes).2 }
  | .refuse refusal => { watch with wire := watch.wire.setRefusal refusal }
  | .pass duration => { watch with now := watch.now.plus duration }
  | .wake =>
    { watch with
      waiter := (watch.waiter.deadline?.map fun deadline => watch.look deadline).getD watch.waiter }

def run (watch : Watch ρ) (happenings : List Happening) : Watch ρ :=
  happenings.foldl step watch

end Watch

end RpcEndpoint
