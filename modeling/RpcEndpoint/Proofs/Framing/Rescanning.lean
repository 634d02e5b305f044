import RpcEndpoint.Proofs.Framing.Chunks

/-!
# Decoders without a cursor

A `Rescanner` keeps the bytes that wait and nothing of what it has found out about them: for each
payload it looks for the separator from the first of these bytes on. What a decoder is without its
cursor is a rescanner, and one that is settled answers every chunk and every reset as its rescanner
does. The cursor of a decoder that has been driven in any way thus shows in no answer.
-/

namespace RpcEndpoint.Framing

/-! ## Answers -/

/-- How decoders of one kind are driven, and what they show of their state. -/
structure Drive (σ : Type) where
  push : σ → Bytes → Batch × σ
  reset : σ → σ
  buffered : σ → Nat

/-- What an input brings to light: what a chunk has completed, and how many bytes wait then. -/
structure Answer where
  batch : Option Batch
  buffered : Nat
deriving Repr, DecidableEq

namespace Drive

variable {σ : Type}

def respond (drive : Drive σ) (state : σ) : Input → Answer × σ
  | .push chunk =>
    let (batch, pushed) := drive.push state chunk
    (⟨some batch, drive.buffered pushed⟩, pushed)
  | .reset => (⟨none, drive.buffered (drive.reset state)⟩, drive.reset state)

/-- The answers to inputs, each given in the state that the ones before it have left. -/
def answers (drive : Drive σ) : σ → List Input → List Answer
  | _, [] => []
  | state, input :: rest =>
    let (answer, next) := drive.respond state input
    answer :: answers drive next rest

end Drive

def Decoder.drive : Drive Decoder := ⟨Decoder.push, Decoder.reset, Decoder.buffered⟩

theorem Decoder.respond_next (decoder : Decoder) (input : Input) :
    (Decoder.drive.respond decoder input).2 = decoder.take input := by
  cases input <;> rfl

/-! ## Looking anew -/

/-- A decoder that keeps no cursor. -/
structure Rescanner where
  waiting : Bytes
  stalled : Bool
deriving Repr, DecidableEq

namespace Rescanner

def empty : Rescanner := ⟨[], false⟩

def buffered (rescanner : Rescanner) : Nat :=
  rescanner.waiting.length

/-- Gives out what the bytes complete. The search for the separator, which is that of `front`,
begins with the first byte, also where the same bytes have been searched before. -/
def drain (waiting : Bytes) (stalled : Bool) : Batch × Rescanner :=
  match taken : front waiting with
  | .unbroken | .incomplete _ => (⟨[], none⟩, ⟨waiting, stalled⟩)
  | .malformed _ fault => (⟨[], if stalled then none else some fault⟩, ⟨waiting, true⟩)
  | .payload payload rest =>
    have := length_lt_of_front taken
    let (batch, last) := drain rest false
    (⟨payload :: batch.payloads, batch.fault⟩, last)
termination_by waiting.length

def push (rescanner : Rescanner) (chunk : Bytes) : Batch × Rescanner :=
  if chunk.isEmpty then (⟨[], none⟩, rescanner)
  else drain (rescanner.waiting ++ chunk) rescanner.stalled

def reset (_ : Rescanner) : Rescanner := empty

def drive : Drive Rescanner := ⟨push, reset, buffered⟩

end Rescanner

/-! ## Forgetting the cursor -/

namespace Decoder

/-- What a decoder is without its cursor. -/
def forget (decoder : Decoder) : Rescanner :=
  ⟨decoder.buffer.toList, decoder.stalled⟩

theorem buffered_forget (decoder : Decoder) :
    Rescanner.drive.buffered decoder.forget = drive.buffered decoder :=
  Array.length_toList

theorem drain_eq_forget (bytes : Bytes) (stalled : Bool) :
    Rescanner.drain bytes stalled =
      ((unpack bytes stalled).1, (unpack bytes stalled).2.forget) := by
  fun_induction Rescanner.drain bytes stalled with
  | case1 bytes stalled taken =>
      rw [unpack_eq, taken]
      rfl
  | case2 bytes stalled offset taken =>
      rw [unpack_eq, taken]
      rfl
  | case3 bytes stalled offset fault taken =>
      rw [unpack_eq, taken]
      rfl
  | case4 bytes stalled payload rest taken _ batch last drained
      inductionHypothesis =>
      rw [drained] at inductionHypothesis
      rw [unpack_eq bytes, taken]
      obtain ⟨rfl, rfl⟩ := Prod.mk.inj inductionHypothesis
      rfl

/-- A settled decoder takes a chunk in as it does without its cursor. -/
theorem push_forget
    {decoder : Decoder} (settled : Settled decoder) (chunk : Bytes) :
    Rescanner.drive.push decoder.forget chunk =
      ((drive.push decoder chunk).1, (drive.push decoder chunk).2.forget) := by
  change decoder.forget.push chunk =
    ((decoder.push chunk).1, (decoder.push chunk).2.forget)
  cases chunk with
  | nil =>
      rfl
  | cons byte rest =>
      rw [push_eq_unpack settled, ← drain_eq_forget]
      rfl

theorem respond_forget
    {decoder : Decoder} (settled : Settled decoder) (input : Input) :
    Rescanner.drive.respond decoder.forget input =
      ((drive.respond decoder input).1, (drive.respond decoder input).2.forget) := by
  cases input with
  | push chunk =>
      simp only [Drive.respond, push_forget settled, buffered_forget]
  | reset =>
      rfl

/-- One answer after the other is the same without the cursor, since the decoder stays settled. -/
theorem answers_forget
    {decoder : Decoder} (settled : Settled decoder) (inputs : List Input) :
    Rescanner.drive.answers decoder.forget inputs = drive.answers decoder inputs := by
  induction inputs generalizing decoder with
  | nil =>
      rfl
  | cons input rest inductionHypothesis =>
      have next : Settled (drive.respond decoder input).2 := by
        rw [respond_next]
        exact settled_take settled input
      simp only [Drive.answers, respond_forget settled, inductionHypothesis next]

/-! ## The cursor -/

/-- No separator begins in front of the cursor of a settled decoder. -/
theorem Settled.no_separator_before
    {decoder : Decoder} (settled : Settled decoder) {offset : Nat}
    (before : offset < decoder.scanned) :
    ¬ separator <+: decoder.buffer.toList.drop offset := by
  have nothing := settled.clear offset (Nat.zero_le offset) before
  rw [standsAt_eq_isPrefixOf] at nothing
  rwa [← List.isPrefixOf_iff_prefix, Bool.not_eq_true]

/-- Whatever has been pushed and reset, the cursor is within the buffer, and no separator begins in
front of it. Each input is answered, by payloads, a fault and the number of the bytes that wait, as
a decoder answers that keeps no cursor. -/
theorem cursor_shows_in_no_answer (inputs : List Input) :
    let decoder := afterInputs inputs
    decoder.scanned ≤ decoder.buffered ∧
      (∀ offset < decoder.scanned,
        ¬ separator <+: decoder.buffer.toList.drop offset) ∧
      drive.answers empty inputs = Rescanner.drive.answers Rescanner.empty inputs := by
  have settled := settled_afterInputs inputs
  have within : cursorAtEnd (afterInputs inputs).buffered ≤ (afterInputs inputs).buffered :=
    Nat.sub_le _ _
  refine ⟨?_, ?_, ?_⟩
  · exact Nat.le_trans settled.reach within
  · intro offset before
    exact settled.no_separator_before before
  · exact (answers_forget settled_empty inputs).symm

/-- Behind a stall that was reset, the separator of a frame comes in two parts. Of the next frame a
part of the payload is missing; its block has a line end in front of the cursor. -/
theorem parted_separator_is_found :
    let inputs := [.push (encodeText "\r\n\r\n"), .reset,
      .push (encodeText "Content-Length: 2\r\n\r"),
      .push (encodeText "\nokA: b\r\nContent-Length: 4\r\n\r\nte")]
    let decoder := afterInputs inputs
    4 < decoder.scanned ∧
      ¬ separator <+: decoder.buffer.toList.drop 4 ∧
      drive.answers empty inputs = Rescanner.drive.answers Rescanner.empty inputs ∧
      drive.answers empty inputs =
        [⟨some ⟨[], some .missingLength⟩, 4⟩, ⟨none, 0⟩, ⟨some ⟨[], none⟩, 20⟩,
          ⟨some ⟨[encodeText "ok"], none⟩, 29⟩] := by
  intro inputs decoder
  have beyond : 4 < decoder.scanned := by
    decide +kernel
  have answered :
      drive.answers empty inputs =
        [⟨some ⟨[], some .missingLength⟩, 4⟩, ⟨none, 0⟩, ⟨some ⟨[], none⟩, 20⟩,
          ⟨some ⟨[encodeText "ok"], none⟩, 29⟩] := by
    decide +kernel
  obtain ⟨-, nothing, same⟩ := cursor_shows_in_no_answer inputs
  exact ⟨beyond, nothing 4 beyond, same, answered⟩

end Decoder

end RpcEndpoint.Framing
