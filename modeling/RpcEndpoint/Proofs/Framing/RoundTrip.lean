import RpcEndpoint.Proofs.Framing.Grammar
import RpcEndpoint.Proofs.Framing.Header

/-!
# Frames on a stream

Payloads are written as frames one behind another. A decoder that has received the beginning of
such a stream has given out the payloads whose frames have ended, and nothing of the next one.
-/

namespace RpcEndpoint.Framing

/-! ## The first separator of a frame -/

/-- A block without a carriage return ends at the separator behind it. -/
theorem endsFirst_of_no_return {block : Bytes} (noReturn : 0x0D ∉ block) : EndsFirst block := by
  intro before behind same
  have atReturn : before ++ 0x0D :: ([0x0A, 0x0D, 0x0A] ++ behind) =
      block ++ 0x0D :: [0x0A, 0x0D, 0x0A] := by
    rw [List.append_assoc] at same
    exact same.symm
  rcases List.append_eq_append_iff.mp atReturn with
    ⟨between, isBlock, isRest⟩ | ⟨between, isBefore, isRest⟩
  · cases between with
    | nil => rw [isBlock, List.append_nil]
    | cons byte between =>
        have isReturn : byte = 0x0D := (List.cons.inj isRest).1.symm
        rw [isBlock, isReturn] at noReturn
        simp at noReturn
  · have lengths := congrArg List.length isRest
    simp only [List.length_append, List.length_cons] at lengths
    have nothing : between = [] := List.eq_nil_of_length_eq_zero (by omega)
    rw [isBefore, nothing, List.append_nil]

/-- The first separator of a frame is the one that the frame was given, whatever the payload and
the bytes behind it hold. -/
theorem firstSeparator_encodeFrame (payload rest : Bytes) :
    firstSeparator (encodeFrame payload ++ rest) = some (header payload).length := by
  rw [encodeFrame_eq, List.append_assoc]
  exact firstSeparator_of_endsFirst (endsFirst_of_no_return (return_not_mem_header payload)) _

/-! ## The front of a stream of frames -/

variable {payload : Bytes}

theorem length_encodeFrame (payload : Bytes) :
    (encodeFrame payload).length =
      (header payload).length + separator.length + payload.length := by
  rw [encodeFrame_eq, List.length_append, List.length_append]

theorem take_header (payload rest : Bytes) :
    (encodeFrame payload ++ rest).take (header payload).length = header payload := by
  rw [encodeFrame_eq, List.append_assoc, List.append_assoc, List.take_left]

theorem frame_fits (small : payload.length < 2 ^ 63) :
    ¬ Text.wordBound ≤ (header payload).length + separator.length + payload.length := by
  have block := length_header_le small
  have four : separator.length = 4 := rfl
  have bound : Text.wordBound = 2 ^ 64 := rfl
  omega

/-- What is written in front of a payload makes it a frame. -/
theorem proper_header (small : payload.length < 2 ^ 63) : Frame.Proper ⟨header payload, payload⟩ := by
  refine ⟨endsFirst_of_no_return (return_not_mem_header payload),
    payloadLength_header (Nat.lt_trans small (by decide)), ?_⟩
  have fits := frame_fits small
  simp only [Frame.bytes, List.length_append]
  omega

theorem front_encodeFrame (small : payload.length < 2 ^ 63) (rest : Bytes) :
    front (encodeFrame payload ++ rest) = .payload payload rest := by
  rw [encodeFrame_eq]
  exact (proper_header small).front_eq rest

/-- Nothing comes out of a frame that has not ended, and it is not malformed. -/
theorem front_of_unended
    {bytes missing : Bytes} (small : payload.length < 2 ^ 63)
    (isFrame : bytes ++ missing = encodeFrame payload) (unended : missing ≠ []) :
    front bytes = .unbroken ∨ ∃ offset, front bytes = .incomplete offset := by
  cases searched : firstSeparator bytes with
  | none =>
      left
      rw [front, searched]
  | some offset =>
      right
      have atHeader : offset = (header payload).length := by
        have found := firstSeparator_append searched missing
        rw [isFrame, ← List.append_nil (encodeFrame payload), firstSeparator_encodeFrame] at found
        exact (Option.some.inj found).symm
      have within := firstSeparator_within searched
      have block : bytes.take offset = header payload := by
        have sameBlock : (bytes ++ missing).take offset = bytes.take offset :=
          List.take_append_of_le_length (by omega)
        rw [← sameBlock, isFrame, atHeader, ← List.append_nil (encodeFrame payload), take_header]
      have isLength : payloadLength (header payload) = .ok payload.length :=
        payloadLength_header (Nat.lt_trans small (by decide))
      have tooShort : ¬ offset + separator.length + payload.length ≤ bytes.length := by
        have wholeLength := congrArg List.length isFrame
        rw [List.length_append, length_encodeFrame] at wholeLength
        have positive := List.length_pos_iff.mpr unended
        omega
      have fits : ¬ Text.wordBound ≤ offset + separator.length + payload.length := by
        rw [atHeader]
        exact frame_fits small
      refine ⟨offset, ?_⟩
      rw [front, searched]
      simp only [frontAt, block, isLength, if_neg fits, if_neg tooShort]

/-! ## Streams of frames -/

/-- The payloads as frames, one behind another. -/
def encodeFrames (payloads : List Bytes) : Bytes :=
  payloads.flatMap encodeFrame

theorem encodeFrames_cons (payload : Bytes) (payloads : List Bytes) :
    encodeFrames (payload :: payloads) = encodeFrame payload ++ encodeFrames payloads :=
  List.flatMap_cons

/-- The offset behind the frame of the payload at an index. -/
def frameEnd (payloads : List Bytes) (index : Nat) : Nat :=
  (encodeFrames (payloads.take (index + 1))).length

theorem frameEnd_le (payloads : List Bytes) (index : Nat) :
    frameEnd payloads index ≤ (encodeFrames payloads).length := by
  have whole :
      encodeFrames (payloads.take (index + 1)) ++ encodeFrames (payloads.drop (index + 1)) =
        encodeFrames payloads := by
    rw [encodeFrames, encodeFrames, ← List.flatMap_append, List.take_append_drop, encodeFrames]
  rw [← whole, List.length_append]
  exact Nat.le_add_right _ _

/-- What has come out of the beginning of a stream of frames. -/
structure Emitted (payloads : List Bytes) (bytes : Bytes) (batch : Batch) (decoder : Decoder) :
    Prop where
  /-- The payloads come out in order. -/
  inOrder : batch.payloads <+: payloads
  /-- A payload is out exactly when its frame has ended. -/
  ended : ∀ index < payloads.length,
    index < batch.payloads.length ↔ frameEnd payloads index ≤ bytes.length
  /-- What waits is what came behind the last frame that has ended. -/
  waiting : bytes = encodeFrames batch.payloads ++ decoder.buffer.toList
  faultless : batch.fault = none

/-- Of a whole stream of frames everything has come out. -/
theorem Emitted.whole
    {payloads : List Bytes} {batch : Batch} {decoder : Decoder}
    (emitted : Emitted payloads (encodeFrames payloads) batch decoder) :
    batch.payloads = payloads ∧ decoder.buffer.toList = [] := by
  have all : batch.payloads = payloads := by
    apply emitted.inOrder.eq_of_length_le
    apply Nat.le_of_not_lt
    intro inside
    have isOut := (emitted.ended _ inside).mpr (frameEnd_le payloads batch.payloads.length)
    exact Nat.lt_irrefl _ isOut
  refine ⟨all, ?_⟩
  have waiting := emitted.waiting
  rw [all] at waiting
  exact List.self_eq_append_right.mp waiting

theorem frameEnd_cons_zero (payload : Bytes) (payloads : List Bytes) :
    frameEnd (payload :: payloads) 0 = (encodeFrame payload).length := by
  rw [frameEnd, List.take_succ_cons, encodeFrames_cons]
  exact congrArg List.length (List.append_nil (encodeFrame payload))

theorem frameEnd_cons_succ (payload : Bytes) (payloads : List Bytes) (index : Nat) :
    frameEnd (payload :: payloads) (index + 1) =
      (encodeFrame payload).length + frameEnd payloads index := by
  rw [frameEnd, List.take_succ_cons, encodeFrames_cons, List.length_append, frameEnd]

theorem length_encodeFrame_le_frameEnd (payload : Bytes) (payloads : List Bytes) (index : Nat) :
    (encodeFrame payload).length ≤ frameEnd (payload :: payloads) index := by
  cases index with
  | zero => exact Nat.le_of_eq (frameEnd_cons_zero payload payloads).symm
  | succ index =>
      rw [frameEnd_cons_succ]
      exact Nat.le_add_right _ _

/-- As long as the first frame has not ended, everything waits. -/
theorem emitted_of_nothing
    {payloads : List Bytes} {bytes : Bytes} {stalled : Bool}
    (early : ∀ index < payloads.length, ¬ frameEnd payloads index ≤ bytes.length)
    (quiet : front bytes = .unbroken ∨ ∃ offset, front bytes = .incomplete offset) :
    Emitted payloads bytes (unpack bytes stalled).1 (unpack bytes stalled).2 := by
  have nothing :
      (unpack bytes stalled).1 = ⟨[], none⟩ ∧
        (unpack bytes stalled).2.buffer.toList = bytes := by
    rw [unpack_eq]
    rcases quiet with unbroken | ⟨offset, incomplete⟩
    · simp only [unbroken, and_self]
    · simp only [incomplete, and_self]
  obtain ⟨noPayloads, allWait⟩ := nothing
  refine ⟨?_, ?_, ?_, ?_⟩
  · rw [noPayloads]
    exact List.nil_prefix
  · intro index inside
    rw [noPayloads]
    exact ⟨fun absurdIndex => absurd absurdIndex (Nat.not_lt_zero index),
      fun ended => absurd ended (early index inside)⟩
  · rw [noPayloads, allWait]
    rfl
  · rw [noPayloads]

/-- A frame that has ended puts its payload in front of those of the bytes behind it. -/
theorem Emitted.cons
    {payloads : List Bytes} {rest : Bytes} {stalled : Bool} (small : payload.length < 2 ^ 63)
    (emitted : Emitted payloads rest (unpack rest false).1 (unpack rest false).2) :
    Emitted (payload :: payloads) (encodeFrame payload ++ rest)
      (unpack (encodeFrame payload ++ rest) stalled).1
      (unpack (encodeFrame payload ++ rest) stalled).2 := by
  have whole := unpack_eq (encodeFrame payload ++ rest) stalled
  rw [front_encodeFrame small] at whole
  rw [whole]
  refine ⟨?_, ?_, ?_, ?_⟩
  · exact List.cons_prefix_cons.mpr ⟨rfl, emitted.inOrder⟩
  · intro index inside
    rw [List.length_append, List.length_cons]
    cases index with
    | zero =>
        rw [frameEnd_cons_zero]
        exact ⟨fun _ => Nat.le_add_right _ _, fun _ => Nat.succ_pos _⟩
    | succ index =>
        have later := emitted.ended index (Nat.lt_of_succ_lt_succ inside)
        rw [frameEnd_cons_succ, Nat.add_le_add_iff_left, Nat.add_lt_add_iff_right]
        exact later
  · rw [encodeFrames_cons, List.append_assoc, ← emitted.waiting]
  · exact emitted.faultless

theorem emitted_unpack
    {payloads : List Bytes} (small : ∀ payload ∈ payloads, payload.length < 2 ^ 63)
    {bytes : Bytes} (received : bytes <+: encodeFrames payloads) :
    Emitted payloads bytes (unpack bytes false).1 (unpack bytes false).2 := by
  induction payloads generalizing bytes with
  | nil =>
      have isEmpty : bytes = [] := List.prefix_nil.mp received
      rw [isEmpty]
      exact emitted_of_nothing (fun index inside => absurd inside (Nat.not_lt_zero index))
        (Or.inl rfl)
  | cons payload payloads inductionHypothesis =>
      rw [encodeFrames_cons] at received
      have smallPayload := small payload List.mem_cons_self
      have frameFirst := List.prefix_append (encodeFrame payload) (encodeFrames payloads)
      by_cases frameEnded : (encodeFrame payload).length ≤ bytes.length
      · obtain ⟨rest, rfl⟩ := List.prefix_of_prefix_length_le frameFirst received frameEnded
        have restReceived : rest <+: encodeFrames payloads :=
          (List.prefix_append_right_inj (encodeFrame payload)).mp received
        exact Emitted.cons smallPayload
          (inductionHypothesis (fun other mem => small other (List.mem_cons_of_mem payload mem))
            restReceived)
      · obtain ⟨missing, isFrame⟩ :=
          List.prefix_of_prefix_length_le received frameFirst (by omega)
        have unended : missing ≠ [] := by
          intro nothingMissing
          rw [nothingMissing, List.append_nil] at isFrame
          exact frameEnded (Nat.le_of_eq (congrArg List.length isFrame.symm))
        refine emitted_of_nothing (fun index inside ended => ?_)
          (front_of_unended smallPayload isFrame unended)
        exact frameEnded
          (Nat.le_trans (length_encodeFrame_le_frameEnd payload payloads index) ended)

/-! ## Chunks -/

/-- Frames go through a fresh decoder whole. Of any payloads whose lengths stay below 2^63, let the
beginning of their frames arrive in any chunks: the payloads whose frames have ended have come out,
in order, and no other; no fault is reported; and the bytes behind the last ended frame wait. When
all frames have arrived, all payloads have come out and nothing waits. -/
theorem frames_come_out_as_they_end
    (payloads : List Bytes) (small : ∀ payload ∈ payloads, payload.length < 2 ^ 63)
    (chunks : List Bytes) (received : chunks.flatten <+: encodeFrames payloads) :
    let (harvest, decoder) := Decoder.pushAll chunks .empty
    harvest.payloads <+: payloads ∧
      (∀ index < payloads.length,
        index < harvest.payloads.length ↔ frameEnd payloads index ≤ chunks.flatten.length) ∧
      chunks.flatten = encodeFrames harvest.payloads ++ decoder.buffer.toList ∧
      harvest.faults = [] ∧
      (chunks.flatten = encodeFrames payloads →
        harvest.payloads = payloads ∧ decoder.buffered = 0) := by
  have emitted := emitted_unpack small received
  have pushed := Decoder.pushAll_eq_unpack Decoder.settled_empty chunks
  simp only [Decoder.empty, List.nil_append] at pushed
  simp only [Decoder.empty, pushed]
  refine ⟨emitted.inOrder, emitted.ended, emitted.waiting, ?_, ?_⟩
  · rw [emitted.faultless]
    rfl
  · intro whole
    rw [whole] at emitted ⊢
    obtain ⟨all, nothingWaits⟩ := emitted.whole
    exact ⟨all, congrArg List.length nothingWaits⟩

/-- An empty payload, and one that holds a separator and a header of its own. -/
def nested : List Bytes :=
  [[], encodeText "\r\n\r\nContent-Length: 0\r\n\r\n"]

/-- The frames of the nested payloads, cut in the first separator, behind the first frame and in
the second payload. -/
def nestedChunks : List Bytes :=
  [encodeText "Content-Length: 0\r\n", encodeText "\r\n",
    encodeText "Content-Length: 25\r\n\r\n\r\n\r", encodeText "\nContent-Length: 0\r\n\r\n"]

theorem header_in_payload_comes_out :
    (∀ payload ∈ nested, payload.length < 2 ^ 63) ∧
      nestedChunks.flatten <+: encodeFrames nested ∧
      (Decoder.pushAll nestedChunks .empty).1.payloads = nested := by
  have small : ∀ payload ∈ nested, payload.length < 2 ^ 63 := by
    decide
  have whole : nestedChunks.flatten = encodeFrames nested := by
    decide
  have received : nestedChunks.flatten <+: encodeFrames nested :=
    whole ▸ List.prefix_rfl
  exact ⟨small, received,
    ((frames_come_out_as_they_end nested small nestedChunks received).2.2.2.2 whole).1⟩

end RpcEndpoint.Framing
