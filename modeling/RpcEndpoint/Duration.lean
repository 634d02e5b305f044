/-!
# Durations

Lengths of time in nanoseconds, up to as many seconds as fit a machine word.
-/

namespace RpcEndpoint

/-- A length of time. -/
structure Duration where
  nanoseconds : Nat
deriving Repr, DecidableEq

namespace Duration

def nanosecondsPerSecond : Nat := 1000000000

def nanosecondsPerMillisecond : Nat := 1000000

/-- The greatest machine word. -/
def greatestWord : Nat := 0xFFFFFFFFFFFFFFFF

/-- Whole seconds and nanoseconds. -/
def ofParts (seconds nanoseconds : Nat) : Duration :=
  ⟨seconds * nanosecondsPerSecond + nanoseconds⟩

def ofMilliseconds (milliseconds : Nat) : Duration :=
  ⟨milliseconds * nanosecondsPerMillisecond⟩

/-- The whole seconds. -/
def seconds (duration : Duration) : Nat :=
  duration.nanoseconds / nanosecondsPerSecond

/-- The nanoseconds beyond the whole seconds. -/
def subsecond (duration : Duration) : Nat :=
  duration.nanoseconds % nanosecondsPerSecond

/-- The whole milliseconds. -/
def milliseconds (duration : Duration) : Nat :=
  duration.nanoseconds / nanosecondsPerMillisecond

/-- The longest duration. -/
def greatest : Duration := ofParts greatestWord (nanosecondsPerSecond - 1)

/-- The whole milliseconds as a machine word; what is longer becomes the greatest word. -/
def saturatedMilliseconds (duration : Duration) : Nat :=
  min duration.milliseconds greatestWord

end Duration

/-! ## Instants -/

/-- A reading of the clock, in nanoseconds since it was started. -/
structure Instant where
  nanoseconds : Nat
deriving Repr, DecidableEq

namespace Instant

/-- The first reading that the clock cannot show. -/
def bound : Nat := 0x8000000000000000 * Duration.nanosecondsPerSecond

/-- The instant after a duration, if the clock can show it. -/
def after? (instant : Instant) (duration : Duration) : Option Instant :=
  let reading := instant.nanoseconds + duration.nanoseconds
  if reading < bound then some ⟨reading⟩ else none

/-- The instant after a duration. -/
def plus (instant : Instant) (duration : Duration) : Instant :=
  ⟨instant.nanoseconds + duration.nanoseconds⟩

/-- Whether an instant has come at a time. -/
def hasCome (instant time : Instant) : Bool :=
  decide (instant.nanoseconds ≤ time.nanoseconds)

/-- The later of two instants. -/
def latest (left right : Instant) : Instant :=
  ⟨max left.nanoseconds right.nanoseconds⟩

/-- The earlier of two instants, where there are any. -/
def earliest? : Option Instant → Option Instant → Option Instant
  | some left, some right => some ⟨min left.nanoseconds right.nanoseconds⟩
  | some left, none => some left
  | none, right => right

end Instant

end RpcEndpoint
