import RpcEndpoint.Framing.Header
import RpcEndpoint.Wire.Basic

/-!
# Payloads from a stream

A decoder takes the chunks of a stream as they arrive and gives each payload as soon as its last
byte is there. Behind a header block that names no usable length it waits until it is reset. The
cursor only saves work: no separator begins in the buffer before it. The bytes that wait stand in
an array, so that a chunk costs what it brings and not what waits already.
-/

namespace RpcEndpoint.Framing

/-- The bytes that have arrived and not been given out. -/
structure Decoder where
  buffer : Array UInt8
  /-- No separator begins in the buffer before this offset. -/
  scanned : Nat
  /-- Whether the header block at the front of the buffer has been reported as malformed. -/
  stalled : Bool
deriving Repr, DecidableEq

/-- What one chunk completes: payloads in the order of the stream, then possibly a header block
that is malformed. -/
structure Batch where
  payloads : List Bytes
  fault : Option HeaderFault
deriving Repr, DecidableEq

/-! ## The separator -/

/-- Whether these bytes stand in a buffer at an offset. -/
def standsAt (buffer : Array UInt8) : Nat → Bytes → Bool
  | _, [] => true
  | offset, byte :: rest =>
    if inside : offset < buffer.size then
      buffer[offset] == byte && standsAt buffer (offset + 1) rest
    else false

/-- The offset at which the first separator begins that does not begin before a given one. -/
def findSeparator (buffer : Array UInt8) (offset : Nat) : Option Nat :=
  if offset < buffer.size then
    if standsAt buffer offset separator then some offset else findSeparator buffer (offset + 1)
  else none
termination_by buffer.size - offset

theorem le_of_findSeparator {buffer : Array UInt8} {offset found : Nat}
    (isFound : findSeparator buffer offset = some found) : offset ≤ found := by
  induction offset using findSeparator.induct buffer with
  | case1 offset inside here =>
    rw [findSeparator, if_pos inside, if_pos here] at isFound
    exact Nat.le_of_eq (Option.some.inj isFound)
  | case2 offset inside elsewhere ih =>
    rw [findSeparator, if_pos inside, if_neg elsewhere] at isFound
    exact Nat.le_of_succ_le (ih isFound)
  | case3 offset outside =>
    rw [findSeparator, if_neg outside] at isFound
    contradiction

/-! ## The front of the buffer -/

/-- What the bytes that wait amount to. -/
inductive Extraction where
  /-- A payload, and the offset behind it. -/
  | payload (payload : Bytes) (next : Nat)
  | incomplete
  | malformed (fault : HeaderFault)
deriving Repr, DecidableEq

/-- What the bytes from one offset on amount to, when the first separator among them begins at
another. -/
def extractAt (buffer : Array UInt8) (first offset : Nat) : Extraction :=
  match payloadLength (buffer.extract first offset).toList with
  | .error fault => .malformed fault
  | .ok length =>
    let start := offset + separator.length
    if Text.wordBound ≤ start - first + length then .malformed (.invalidLength (toString length))
    else if start + length ≤ buffer.size then
      .payload (buffer.extract start (start + length)).toList (start + length)
    else .incomplete

theorem bounds_of_extractAt {buffer : Array UInt8} {payload : Bytes} {first offset next : Nat}
    (extracted : extractAt buffer first offset = .payload payload next) :
    offset < next ∧ next ≤ buffer.size := by
  unfold extractAt at extracted
  split at extracted
  · contradiction
  · simp only at extracted
    split at extracted
    · contradiction
    split at extracted
    · rename_i isComplete
      obtain ⟨-, rfl⟩ := Extraction.payload.inj extracted
      have : separator.length = 4 := rfl
      omega
    · contradiction

/-- The bytes from an offset on. -/
def bytesFrom (buffer : Array UInt8) (first : Nat) : Array UInt8 :=
  if first = 0 then buffer else buffer.extract first

namespace Decoder

/-- A decoder before its stream begins. -/
def empty : Decoder := ⟨#[], 0, false⟩

/-- The number of bytes that wait. -/
def buffered (decoder : Decoder) : Nat :=
  decoder.buffer.size

/-- The cursor when no separator is among so many bytes: the last three of them may begin one. -/
def cursorAtEnd (size : Nat) : Nat :=
  size - (separator.length - 1)

/-- Gives out what the bytes from an offset on complete. No separator begins between that offset
and the cursor, which is an offset of the same buffer. -/
def drain (buffer : Array UInt8) (stalled : Bool) (first cursor : Nat) : Batch × Decoder :=
  match found : findSeparator buffer cursor with
  | none =>
    (⟨[], none⟩, ⟨bytesFrom buffer first, cursorAtEnd (buffer.size - first), stalled⟩)
  | some offset =>
    match extracted : extractAt buffer first offset with
    | .incomplete => (⟨[], none⟩, ⟨bytesFrom buffer first, offset - first, stalled⟩)
    | .malformed fault =>
      (⟨[], if stalled then none else some fault⟩,
        ⟨bytesFrom buffer first, offset - first, true⟩)
    | .payload payload next =>
      have : buffer.size - next < buffer.size - cursor := by
        have := le_of_findSeparator found
        have := bounds_of_extractAt extracted
        omega
      let (batch, last) := drain buffer false next next
      (⟨payload :: batch.payloads, batch.fault⟩, last)
termination_by buffer.size - cursor

/-- Takes a chunk. -/
def push (decoder : Decoder) (chunk : Bytes) : Batch × Decoder :=
  if chunk.isEmpty then (⟨[], none⟩, decoder)
  else
    let ⟨buffer, scanned, stalled⟩ := decoder
    drain (buffer ++ chunk) stalled 0 scanned

/-- Forgets everything that has arrived. -/
def reset (_ : Decoder) : Decoder := empty

end Decoder

/-! ## Payloads over a wire

A framer writes payloads as frames and takes frames apart again. -/

/-- A wire with the decoder of what arrives on it. -/
structure Framer (ω : Type) where
  wire : ω
  decoder : Decoder

namespace Framer

variable {ω : Type} [Wire ω]

def new (wire : ω) : Framer ω := ⟨wire, .empty⟩

/-- Writes a payload as one frame. -/
def write (payload : Bytes) (framer : Framer ω) : Except WireFailure Unit × Framer ω :=
  let (outcome, wire) := Wire.write (encodeFrame payload) framer.wire
  (outcome, { framer with wire })

/-- Takes a chunk from the peer. -/
def receive (chunk : Bytes) (framer : Framer ω) : Batch × Framer ω :=
  let ⟨wire, decoder⟩ := framer
  let (batch, decoder) := decoder.push chunk
  (batch, ⟨wire, decoder⟩)

/-- Forgets the bytes that wait. -/
def reset (framer : Framer ω) : Framer ω :=
  { framer with decoder := framer.decoder.reset }

end Framer

end RpcEndpoint.Framing
