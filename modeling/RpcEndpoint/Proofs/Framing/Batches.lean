import RpcEndpoint.Proofs.Framing.Chunks

/-!
# What each chunk completes

A stream that stops at a malformed header block has one chunk that completes this block. The
payloads that this chunk completes as well come before the block in the stream; the batch of the
chunk holds both.
-/

namespace RpcEndpoint.Framing.Decoder

theorem pushAll_cons (chunk : Bytes) (rest : List Bytes) (decoder : Decoder) :
    pushAll (chunk :: rest) decoder =
      (⟨(decoder.push chunk).1.payloads ++ (pushAll rest (decoder.push chunk).2).1.payloads,
          (decoder.push chunk).1.fault.toList ++ (pushAll rest (decoder.push chunk).2).1.faults⟩,
        (pushAll rest (decoder.push chunk).2).2) := rfl

/-- What the chunks complete, each by itself. -/
def batches : List Bytes → Decoder → List Batch
  | [], _ => []
  | chunk :: rest, decoder => (decoder.push chunk).1 :: batches rest (decoder.push chunk).2

/-- The payloads that are completed by the same chunk as a malformed header block behind them. -/
def overtaken : List Bytes → Decoder → List Bytes
  | [], _ => []
  | chunk :: rest, decoder =>
    if (decoder.push chunk).1.fault.isSome then (decoder.push chunk).1.payloads
    else overtaken rest (decoder.push chunk).2

/-- A malformed header block has been reported, and nothing comes out any more. -/
structure Stuck (decoder : Decoder) : Prop where
  settled : Settled decoder
  stalled : decoder.stalled = true
  malformed : ∃ offset fault, front decoder.buffer.toList = .malformed offset fault

private theorem stuck_unpack
    {bytes : Bytes} {stalled : Bool} {fault : HeaderFault}
    (reported : (unpack bytes stalled).1.fault = some fault) :
    Stuck (unpack bytes stalled).2 := by
  have settled := settled_unpack bytes stalled
  suffices held : (unpack bytes stalled).2.stalled = true ∧ ∃ offset other,
      front (unpack bytes stalled).2.buffer.toList = .malformed offset other from
    ⟨settled, held.1, held.2⟩
  clear settled
  fun_induction unpack bytes stalled with
  | case1 | case2 =>
      contradiction
  | case3 bytes stalled offset other taken =>
      exact ⟨rfl, offset, other, taken⟩
  | case4 bytes stalled payload rest taken _ batch last unpacked inductionHypothesis =>
      rw [unpacked] at inductionHypothesis
      exact inductionHypothesis reported

private theorem stalled_drain
    {buffer : Array UInt8} {stalled : Bool} {first cursor : Nat} {fault : HeaderFault}
    (reported : (drain buffer stalled first cursor).1.fault = some fault) :
    (drain buffer stalled first cursor).2.stalled = true := by
  fun_induction drain buffer stalled first cursor with
  | case1 | case2 =>
      contradiction
  | case3 =>
      rfl
  | case4 _ _ _ _ _ _ _ _ _ _ _ unpacked inductionHypothesis =>
      rw [unpacked] at inductionHypothesis
      exact inductionHypothesis reported

/-- Whoever reports a malformed header block remembers it. -/
theorem stalled_push
    {decoder : Decoder} {chunk : Bytes} {fault : HeaderFault}
    (reported : (decoder.push chunk).1.fault = some fault) :
    (decoder.push chunk).2.stalled = true := by
  unfold push at reported ⊢
  split at reported
  · contradiction
  · rename_i nonempty
    rw [if_neg nonempty]
    exact stalled_drain reported

/-- Whoever has reported none has none to remember. -/
theorem stalled_unpack
    {bytes : Bytes} {stalled : Bool} (fresh : stalled = false)
    (faultless : (unpack bytes stalled).1.fault = none) :
    (unpack bytes stalled).2.stalled = false := by
  fun_induction unpack bytes stalled with
  | case1 | case2 =>
      exact fresh
  | case3 bytes stalled offset fault taken =>
      rw [fresh] at faultless
      contradiction
  | case4 bytes stalled payload rest taken _ batch last unpacked inductionHypothesis =>
      rw [unpacked] at inductionHypothesis
      exact inductionHypothesis rfl faultless

/-- The chunk that completes a malformed header block is the last that brings anything. -/
theorem stuck_push
    {decoder : Decoder} (settled : Settled decoder) {chunk : Bytes} {fault : HeaderFault}
    (reported : (decoder.push chunk).1.fault = some fault) :
    Stuck (decoder.push chunk).2 := by
  rw [push_eq_unpack settled] at reported ⊢
  exact stuck_unpack reported

theorem Stuck.push
    {decoder : Decoder} (stuck : Stuck decoder) (chunk : Bytes) :
    (decoder.push chunk).1 = ⟨[], none⟩ ∧ Stuck (decoder.push chunk).2 := by
  obtain ⟨offset, fault, malformed⟩ := stuck.malformed
  have stillMalformed := front_append_malformed malformed chunk
  have pushed := push_eq_unpack stuck.settled chunk
  rw [unpack_eq, stillMalformed, stuck.stalled] at pushed
  rw [pushed]
  refine ⟨rfl, ?_, rfl, offset, fault, stillMalformed⟩
  have settled := settled_take stuck.settled (.push chunk)
  rwa [take, pushed] at settled

theorem Stuck.pushAll
    {decoder : Decoder} (stuck : Stuck decoder) (chunks : List Bytes) :
    (pushAll chunks decoder).1 = ⟨[], []⟩ ∧
      ∀ batch ∈ batches chunks decoder, batch = ⟨[], none⟩ := by
  induction chunks generalizing decoder with
  | nil =>
      exact ⟨rfl, by simp [batches]⟩
  | cons chunk rest inductionHypothesis =>
      obtain ⟨nothing, stillStuck⟩ := stuck.push chunk
      obtain ⟨nothingLater, noBatches⟩ := inductionHypothesis stillStuck
      refine ⟨?_, ?_⟩
      · rw [pushAll_cons, nothing, nothingLater]
        rfl
      · intro batch isBatch
        rcases List.mem_cons.mp isBatch with rfl | isLater
        · exact nothing
        · exact noBatches batch isLater

theorem overtaken_of_faultless
    {chunks : List Bytes} {decoder : Decoder}
    (faultless : (pushAll chunks decoder).1.faults = []) : overtaken chunks decoder = [] := by
  induction chunks generalizing decoder with
  | nil => rfl
  | cons chunk rest inductionHypothesis =>
      rw [pushAll_cons] at faultless
      obtain ⟨noFault, restFaultless⟩ := List.append_eq_nil_iff.mp faultless
      rw [overtaken, Option.toList_eq_nil_iff.mp noFault]
      exact inductionHypothesis restFaultless

end RpcEndpoint.Framing.Decoder
