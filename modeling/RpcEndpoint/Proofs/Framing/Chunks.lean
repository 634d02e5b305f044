import RpcEndpoint.Proofs.Framing.Cursor

/-!
# Streams in chunks

A decoder that has been driven by chunks and resets is `Settled`: what waits in it gives nothing
out, and its cursor is where a search may go on. A chunk is then taken in as if the bytes that wait
had come with it, and it does not matter how a stream is cut.
-/

namespace RpcEndpoint.Framing

/-! ## Decoders on their way -/

/-- What is done with a decoder. -/
inductive Input where
  | push (chunk : Bytes)
  | reset

namespace Decoder

/-- A decoder after one input. -/
def take (decoder : Decoder) : Input → Decoder
  | .push chunk => (decoder.push chunk).2
  | .reset => decoder.reset

/-- A fresh decoder after a number of inputs. -/
def afterInputs (inputs : List Input) : Decoder :=
  inputs.foldl take empty

end Decoder

/-- What several chunks complete, in the order of the stream. -/
structure Harvest where
  payloads : List Bytes
  faults : List HeaderFault
deriving Repr, DecidableEq

namespace Decoder

/-- Takes chunks one after another. -/
def pushAll : List Bytes → Decoder → Harvest × Decoder
  | [], decoder => (⟨[], []⟩, decoder)
  | chunk :: rest, decoder =>
    let (batch, pushed) := decoder.push chunk
    let (harvest, last) := pushAll rest pushed
    (⟨batch.payloads ++ harvest.payloads, batch.fault.toList ++ harvest.faults⟩, last)

/-- The decoder gives nothing out without more bytes, and its cursor has passed no separator. -/
structure Settled (decoder : Decoder) : Prop where
  reach : decoder.scanned ≤ cursorAtEnd decoder.buffer.size
  clear : Clear decoder.buffer 0 decoder.scanned
  rests : unpack decoder.buffer.toList decoder.stalled = (⟨[], none⟩, decoder)

end Decoder

/-! ## What is left over is settled -/

private theorem findSeparator_toArray (bytes : Bytes) :
    findSeparator bytes.toArray 0 = firstSeparator bytes := by
  rw [findSeparator_eq_firstSeparator]
  simp

namespace Decoder

theorem settled_empty : Settled empty := by
  refine ⟨Nat.zero_le _, ?_, ?_⟩
  · intro offset after before
    exact absurd before (Nat.not_lt_zero offset)
  · rw [unpack_eq]
    rfl

/-- A block that has been found, whole or malformed, keeps the decoder where it is. -/
private theorem settled_at
    {bytes : Bytes} {offset : Nat} (stalled : Bool)
    (found : firstSeparator bytes = some offset)
    (rests :
      unpack bytes stalled = (⟨[], none⟩, ⟨bytes.toArray, offset, stalled⟩)) :
    Settled ⟨bytes.toArray, offset, stalled⟩ := by
  refine ⟨?_, ?_, rests⟩
  · have within := firstSeparator_within found
    simp only [cursorAtEnd, List.size_toArray]
    omega
  · exact clear_of_found ((findSeparator_toArray bytes).trans found)

/-- Whatever has been taken apart, what is left over is settled. -/
theorem settled_unpack (bytes : Bytes) (stalled : Bool) :
    Settled (unpack bytes stalled).2 := by
  fun_induction unpack bytes stalled with
  | case1 bytes stalled taken =>
      refine ⟨?_, ?_, ?_⟩
      · simp
      · have absent := firstSeparator_of_unbroken taken
        exact clear_of_not_found
          ((findSeparator_toArray bytes).trans absent) _
      · rw [unpack_eq, taken]
  | case2 bytes stalled offset taken =>
      apply settled_at stalled (firstSeparator_of_front (Or.inl taken))
      rw [unpack_eq, taken]
  | case3 bytes stalled offset fault taken =>
      apply settled_at true (firstSeparator_of_front (Or.inr ⟨fault, taken⟩))
      rw [unpack_eq, taken]
      rfl
  | case4 bytes stalled payload rest taken _ batch last unpacked
      inductionHypothesis =>
      rw [unpacked] at inductionHypothesis
      exact inductionHypothesis

/-- A settled decoder takes a chunk in as if the bytes that wait had come with it. -/
theorem push_eq_unpack
    {decoder : Decoder} (settled : Settled decoder) (chunk : Bytes) :
    decoder.push chunk =
      unpack (decoder.buffer.toList ++ chunk) decoder.stalled := by
  unfold push
  cases chunk with
  | nil =>
      rw [List.append_nil, settled.rests]
      rfl
  | cons byte rest =>
      have clear := settled.clear.append settled.reach (byte :: rest)
      rw [if_neg (by simp)]
      change drain (decoder.buffer ++ (byte :: rest)) decoder.stalled 0
        decoder.scanned = _
      rw [drain_eq_unpack _ _ (Nat.zero_le _) (Nat.zero_le _) clear,
        List.drop_zero, Array.toList_appendList]

theorem settled_take
    {decoder : Decoder} (settled : Settled decoder) (input : Input) :
    Settled (decoder.take input) := by
  cases input with
  | push chunk =>
      rw [take, push_eq_unpack settled]
      exact settled_unpack _ _
  | reset =>
      exact settled_empty

theorem settled_afterInputs (inputs : List Input) :
    Settled (afterInputs inputs) := by
  suffices settles :
      ∀ decoder, Settled decoder → Settled (inputs.foldl take decoder) from
    settles empty settled_empty
  induction inputs with
  | nil =>
      intro decoder settled
      exact settled
  | cons input rest inductionHypothesis =>
      intro decoder settled
      exact inductionHypothesis _ (settled_take settled input)

/-! ## Cuts -/

/-- Chunks taken in one after another amount to all their bytes at once. -/
theorem pushAll_eq_unpack
    {decoder : Decoder} (settled : Settled decoder) (chunks : List Bytes) :
    let whole := unpack (decoder.buffer.toList ++ chunks.flatten) decoder.stalled
    pushAll chunks decoder = (⟨whole.1.payloads, whole.1.fault.toList⟩, whole.2) := by
  induction chunks generalizing decoder with
  | nil =>
      simp only [List.flatten_nil, List.append_nil, settled.rests]
      rfl
  | cons chunk rest inductionHypothesis =>
      have next : Settled (decoder.push chunk).2 := settled_take settled (.push chunk)
      have split :=
        unpack_append (decoder.buffer.toList ++ chunk) rest.flatten decoder.stalled
      simp only [← push_eq_unpack settled] at split
      obtain ⟨payloads, faults, last⟩ := split
      rw [List.flatten_cons, ← List.append_assoc]
      simp only [payloads, faults, last, pushAll, inductionHypothesis next]

/-- It does not matter how a stream is cut, whatever has been done with the decoder before. Two
chunks give the payloads, the report and the decoder that they give as one; so all ways to cut the
same bytes give the same payloads, the same report, of which there is one at the most, and the same
decoder, in its waiting bytes, its cursor and its stall. -/
theorem cuts_are_indistinguishable (inputs : List Input) :
    let decoder := afterInputs inputs
    (∀ left right,
      let first := decoder.push left
      let second := first.2.push right
      let whole := decoder.push (left ++ right)
      whole.1.payloads = first.1.payloads ++ second.1.payloads ∧
        whole.1.fault.toList = first.1.fault.toList ++ second.1.fault.toList ∧
        whole.2 = second.2) ∧
      (∀ lefts rights : List Bytes,
        lefts.flatten = rights.flatten →
          pushAll lefts decoder = pushAll rights decoder) ∧
      ∀ chunks, (pushAll chunks decoder).1.faults.length ≤ 1 := by
  have settled := settled_afterInputs inputs
  refine ⟨?_, ?_, ?_⟩
  · intro left right
    have next : Settled ((afterInputs inputs).push left).2 :=
      settled_take settled (.push left)
    have split :=
      unpack_append ((afterInputs inputs).buffer.toList ++ left) right
        (afterInputs inputs).stalled
    rw [List.append_assoc] at split
    simp only [← push_eq_unpack settled, ← push_eq_unpack next] at split
    exact split
  · intro lefts rights sameBytes
    rw [pushAll_eq_unpack settled, pushAll_eq_unpack settled, sameBytes]
  · intro chunks
    rw [pushAll_eq_unpack settled]
    exact Option.length_toList_le

/-- Behind a stall that was reset, a frame may be cut inside its separator or not at all. -/
theorem frame_cut_in_separator :
    let decoder := afterInputs [.push (encodeText "Content-Length: x\r\n\r\n"), .reset]
    [encodeText "Content-Length: 2\r\n", [], encodeText "\r\n[]"].flatten =
        [encodeText "Content-Length: 2\r\n\r\n[]"].flatten ∧
      pushAll [encodeText "Content-Length: 2\r\n", [], encodeText "\r\n[]"] decoder =
        pushAll [encodeText "Content-Length: 2\r\n\r\n[]"] decoder :=
  ⟨by decide, (cuts_are_indistinguishable _).2.1 _ _ (by decide)⟩

end Decoder

end RpcEndpoint.Framing
