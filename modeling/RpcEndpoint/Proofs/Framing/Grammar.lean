import RpcEndpoint.Proofs.Framing.Words
import RpcEndpoint.Proofs.Text.Utf8

/-!
# The grammar of a stream

A stream is a row of frames, and behind them a remainder that begins with no whole frame. Every
stream can be read like that in one way only (`Reading.unique`), and a decoder reads it so, however
the stream is cut.
-/

namespace RpcEndpoint.Framing

/-! ## The end of a header block -/

/-- The separator behind the block is the first one there, even if another one overlaps it. -/
def EndsFirst (block : Bytes) : Prop :=
  ∀ before behind, block ++ separator = before ++ separator ++ behind → before = block

/-- A separator is found where one stands, or before. -/
theorem firstSeparator_le (before behind : Bytes) :
    ∃ offset, firstSeparator (before ++ separator ++ behind) = some offset ∧
      offset ≤ before.length := by
  induction before with
  | nil =>
      have here : separator.isPrefixOf (separator ++ behind) = true :=
        List.isPrefixOf_iff_prefix.mpr (List.prefix_append separator behind)
      refine ⟨0, ?_, Nat.le_refl 0⟩
      rw [List.nil_append]
      change firstSeparator (0x0D :: ([0x0A, 0x0D, 0x0A] ++ behind)) = some 0
      rw [firstSeparator]
      exact if_pos here
  | cons byte before inductionHypothesis =>
      obtain ⟨offset, found, early⟩ := inductionHypothesis
      rw [List.cons_append, List.cons_append, firstSeparator]
      by_cases here : separator.isPrefixOf (byte :: (before ++ separator ++ behind)) = true
      · rw [if_pos here]
        exact ⟨0, rfl, Nat.zero_le _⟩
      · rw [if_neg here, found]
        exact ⟨offset + 1, rfl, Nat.succ_le_succ early⟩

/-- Where a separator is found, one stands. -/
theorem eq_append_of_firstSeparator
    {bytes : Bytes} {offset : Nat} (found : firstSeparator bytes = some offset) :
    ∃ behind, bytes = bytes.take offset ++ separator ++ behind := by
  induction bytes generalizing offset with
  | nil =>
      simp [firstSeparator] at found
  | cons byte rest inductionHypothesis =>
      rw [firstSeparator] at found
      by_cases here : separator.isPrefixOf (byte :: rest) = true
      · rw [if_pos here] at found
        cases found
        obtain ⟨behind, isPrefix⟩ := List.isPrefixOf_iff_prefix.mp here
        exact ⟨behind, isPrefix.symm⟩
      · rw [if_neg here] at found
        obtain ⟨later, foundLater, rfl⟩ := Option.map_eq_some_iff.mp found
        obtain ⟨behind, isRest⟩ := inductionHypothesis foundLater
        refine ⟨behind, ?_⟩
        rw [List.take_succ_cons, List.cons_append, List.cons_append, ← isRest]

/-- No separator is found where none stands. -/
theorem firstSeparator_eq_none_iff {bytes : Bytes} :
    firstSeparator bytes = none ↔ ¬ separator <:+: bytes := by
  constructor
  · rintro notFound ⟨before, behind, rfl⟩
    obtain ⟨offset, found, -⟩ := firstSeparator_le before behind
    rw [notFound] at found
    contradiction
  · intro noSeparator
    cases found : firstSeparator bytes with
    | none => rfl
    | some offset =>
        obtain ⟨behind, isWhole⟩ := eq_append_of_firstSeparator found
        exact absurd ⟨_, behind, isWhole.symm⟩ noSeparator

/-- The block in front of the separator that is found ends there for the first time. -/
theorem endsFirst_of_firstSeparator
    {block behind : Bytes}
    (found : firstSeparator (block ++ separator ++ behind) = some block.length) :
    EndsFirst block := by
  intro before after same
  have whole : block ++ separator ++ behind = before ++ separator ++ (after ++ behind) := by
    rw [same, List.append_assoc]
  obtain ⟨offset, foundEarly, early⟩ := firstSeparator_le before (after ++ behind)
  rw [← whole, found] at foundEarly
  cases foundEarly
  have lengths := congrArg List.length same
  simp only [List.length_append] at lengths
  rw [List.append_assoc] at same
  exact (List.append_inj_left same (by omega)).symm

/-- The separator behind such a block is the one that is found, whatever comes later. -/
theorem firstSeparator_of_endsFirst
    {block : Bytes} (first : EndsFirst block) (behind : Bytes) :
    firstSeparator (block ++ separator ++ behind) = some block.length := by
  obtain ⟨offset, found, early⟩ := firstSeparator_le block behind
  obtain ⟨after, isWhole⟩ := eq_append_of_firstSeparator found
  have within := firstSeparator_within found
  generalize isBefore : (block ++ separator ++ behind).take offset = before at isWhole
  have beforeLength : before.length = offset := by
    rw [← isBefore, List.length_take]
    omega
  have earlier : before ++ separator <+: block ++ separator := by
    refine List.prefix_of_prefix_length_le ⟨after, isWhole.symm⟩ (List.prefix_append _ behind) ?_
    simp only [List.length_append]
    omega
  obtain ⟨between, same⟩ := earlier
  have isBlock : before = block := first before between same.symm
  rw [found, ← isBlock, beforeLength]

/-! ## Frames -/

/-- A header block and the payload behind it. -/
structure Frame where
  block : Bytes
  payload : Bytes

namespace Frame

def bytes (frame : Frame) : Bytes :=
  frame.block ++ separator ++ frame.payload

/-- The block ends at the first separator, and it names the length of the payload. -/
structure Proper (frame : Frame) : Prop where
  first : EndsFirst frame.block
  named : payloadLength frame.block = .ok frame.payload.length
  fits : frame.bytes.length < Text.wordBound

end Frame

/-- What may be left of a stream, with what is wrong with it: no whole frame stands in front. -/
inductive Remainder : Bytes → Option HeaderFault → Prop
  /-- There is no separator; perhaps there is nothing at all. -/
  | unbroken {rest : Bytes} (noSeparator : ¬ separator <:+: rest) : Remainder rest none
  /-- The block is whole and its payload is not. -/
  | incomplete {block body : Bytes} {length : Nat} (first : EndsFirst block)
      (named : payloadLength block = .ok length)
      (fits : block.length + separator.length + length < Text.wordBound)
      (short : body.length < length) : Remainder (block ++ separator ++ body) none
  /-- The block is no text. -/
  | noText {block behind : Bytes} (first : EndsFirst block)
      (noText : ∀ text : List Char, block ≠ text.flatMap String.utf8EncodeChar) :
      Remainder (block ++ separator ++ behind) (some .invalidEncoding)
  /-- The block is a text that names no length, or none that is a number. -/
  | noLength {block behind : Bytes} {fault : HeaderFault} (first : EndsFirst block)
      (refused : payloadLength block = .error fault) (isText : fault ≠ .invalidEncoding) :
      Remainder (block ++ separator ++ behind) (some fault)
  /-- The block and the length that it names are too long together. -/
  | tooLong {block behind : Bytes} {length : Nat} (first : EndsFirst block)
      (named : payloadLength block = .ok length)
      (exceeds : Text.wordBound ≤ block.length + separator.length + length) :
      Remainder (block ++ separator ++ behind) (some (.invalidLength (toString length)))

/-! ## The front of a stream -/

/-- Bytes have no separator, or a block that ends at the first one. -/
theorem unbroken_or_endsFirst (bytes : Bytes) :
    ¬ separator <:+: bytes ∨
      ∃ block behind, EndsFirst block ∧ bytes = block ++ separator ++ behind := by
  cases found : firstSeparator bytes with
  | none =>
      exact Or.inl (firstSeparator_eq_none_iff.mp found)
  | some offset =>
      obtain ⟨behind, isWhole⟩ := eq_append_of_firstSeparator found
      have within := firstSeparator_within found
      have isLength : (bytes.take offset).length = offset := by
        rw [List.length_take]
        omega
      have foundHere : firstSeparator (bytes.take offset ++ separator ++ behind) =
          some (bytes.take offset).length := by
        rw [← isWhole, isLength, found]
      have first : EndsFirst (bytes.take offset) := endsFirst_of_firstSeparator foundHere
      exact Or.inr ⟨_, behind, first, isWhole⟩

/-- What bytes begin with is decided by their first block and by how many bytes are behind it. -/
theorem front_of_endsFirst {block : Bytes} (first : EndsFirst block) (behind : Bytes) :
    front (block ++ separator ++ behind) =
      match payloadLength block with
      | .error fault => .malformed block.length fault
      | .ok length =>
        if Text.wordBound ≤ block.length + separator.length + length then
          .malformed block.length (.invalidLength (toString length))
        else if length ≤ behind.length then
          .payload (behind.take length) (behind.drop length)
        else .incomplete block.length := by
  have isBlock : (block ++ separator ++ behind).take block.length = block := by
    rw [List.append_assoc, List.take_left]
  have afterSeparator :
      (block ++ separator ++ behind).drop (block.length + separator.length) = behind := by
    rw [← List.length_append, List.drop_left]
  rw [front, firstSeparator_of_endsFirst first behind]
  simp only [frontAt, isBlock, afterSeparator]
  cases payloadLength block with
  | error fault =>
      rfl
  | ok length =>
      have sameRoom :
          block.length + separator.length + length ≤ (block ++ separator ++ behind).length ↔
            length ≤ behind.length := by
        simp only [List.length_append]
        omega
      simp only [sameRoom]
      rw [← List.drop_drop, afterSeparator]

/-- The payload of the frame in front comes out, whatever is behind it. -/
theorem Frame.Proper.front_eq {frame : Frame} (proper : frame.Proper) (rest : Bytes) :
    front (frame.bytes ++ rest) = .payload frame.payload rest := by
  have fits := proper.fits
  simp only [Frame.bytes, List.length_append] at fits
  have enough : frame.payload.length ≤ (frame.payload ++ rest).length := by
    rw [List.length_append]
    omega
  rw [Frame.bytes, List.append_assoc, front_of_endsFirst proper.first, proper.named]
  dsimp only
  rw [if_neg (by omega), if_pos enough, List.take_left, List.drop_left]

/-- A payload comes out exactly where a frame stands in front. -/
theorem front_eq_payload_iff {bytes payload rest : Bytes} :
    front bytes = .payload payload rest ↔
      ∃ block, Frame.Proper ⟨block, payload⟩ ∧ bytes = Frame.bytes ⟨block, payload⟩ ++ rest := by
  constructor
  · intro complete
    rcases unbroken_or_endsFirst bytes with noSeparator | ⟨block, behind, first, rfl⟩
    · rw [front, firstSeparator_eq_none_iff.mpr noSeparator] at complete
      contradiction
    rw [front_of_endsFirst first] at complete
    cases isLength : payloadLength block with
    | error fault =>
        rw [isLength] at complete
        contradiction
    | ok length =>
        rw [isLength] at complete
        dsimp only at complete
        by_cases tooLong : Text.wordBound ≤ block.length + separator.length + length
        · rw [if_pos tooLong] at complete
          contradiction
        by_cases enough : length ≤ behind.length
        · rw [if_neg tooLong, if_pos enough] at complete
          obtain ⟨rfl, rfl⟩ := Front.payload.inj complete
          have isTaken : (behind.take length).length = length := by
            rw [List.length_take]
            omega
          refine ⟨block, ⟨first, ?_, ?_⟩, ?_⟩
          · rw [isTaken]
            exact isLength
          · simp only [Frame.bytes, List.length_append, isTaken]
            omega
          · simp only [Frame.bytes, List.append_assoc, List.take_append_drop]
        · rw [if_neg tooLong, if_neg enough] at complete
          contradiction
  · rintro ⟨block, proper, rfl⟩
    exact proper.front_eq rest

/-- What is wrong with the front of a stream, if no payload comes out of it. -/
def Front.halt? : Front → Option (Option HeaderFault)
  | .unbroken => some none
  | .incomplete _ => some none
  | .malformed _ fault => some (some fault)
  | .payload _ _ => none

theorem payloadLength_eq_invalidEncoding_iff {block : Bytes} :
    payloadLength block = .error .invalidEncoding ↔
      ∀ text : List Char, block ≠ text.flatMap String.utf8EncodeChar := by
  constructor
  · rintro refused text isText
    rw [payloadLength, Utf8.decode?_eq_some_iff.mpr isText] at refused
    dsimp only at refused
    split at refused
    · cases refused
    · split at refused <;> cases refused
  · intro noText
    cases decoded : Utf8.decode? block with
    | none => rw [payloadLength, decoded]
    | some text => exact absurd (Utf8.decode?_eq_some_iff.mp decoded) (noText text)

/-- Nothing comes out exactly where no frame stands in front, and it is said what is wrong. -/
theorem remainder_iff {bytes : Bytes} {fault : Option HeaderFault} :
    Remainder bytes fault ↔ (front bytes).halt? = some fault := by
  constructor
  · intro remainder
    cases remainder with
    | unbroken noSeparator =>
        rw [front, firstSeparator_eq_none_iff.mpr noSeparator]
        rfl
    | incomplete first named fits short =>
        rw [front_of_endsFirst first, named]
        dsimp only
        rw [if_neg (by omega), if_neg (by omega)]
        rfl
    | noText first noText =>
        rw [front_of_endsFirst first, payloadLength_eq_invalidEncoding_iff.mpr noText]
        rfl
    | noLength first refused isText =>
        rw [front_of_endsFirst first, refused]
        rfl
    | tooLong first named exceeds =>
        rw [front_of_endsFirst first, named]
        dsimp only
        rw [if_pos exceeds]
        rfl
  · intro halted
    rcases unbroken_or_endsFirst bytes with noSeparator | ⟨block, behind, first, rfl⟩
    · rw [front, firstSeparator_eq_none_iff.mpr noSeparator] at halted
      cases halted
      exact .unbroken noSeparator
    rw [front_of_endsFirst first] at halted
    cases isLength : payloadLength block with
    | error other =>
        rw [isLength] at halted
        cases halted
        by_cases isText : other = .invalidEncoding
        · subst isText
          exact .noText first (payloadLength_eq_invalidEncoding_iff.mp isLength)
        · exact .noLength first isLength isText
    | ok length =>
        rw [isLength] at halted
        dsimp only at halted
        by_cases exceeds : Text.wordBound ≤ block.length + separator.length + length
        · rw [if_pos exceeds] at halted
          cases halted
          exact .tooLong first isLength exceeds
        by_cases enough : length ≤ behind.length
        · rw [if_neg exceeds, if_pos enough] at halted
          contradiction
        · rw [if_neg exceeds, if_neg enough] at halted
          cases halted
          exact .incomplete first isLength (by omega) (by omega)

/-! ## Streams -/

/-- A way to read a stream: frames one behind another, and what is left. -/
structure Reading (stream : Bytes) (frames : List Frame) (rest : Bytes)
    (fault : Option HeaderFault) : Prop where
  whole : stream = frames.flatMap Frame.bytes ++ rest
  proper : ∀ frame ∈ frames, frame.Proper
  remainder : Remainder rest fault

/-- A stream whose front halts is all remainder. -/
theorem reading_of_halt
    {bytes : Bytes} {fault : Option HeaderFault} (halted : (front bytes).halt? = some fault) :
    Reading bytes [] bytes fault :=
  ⟨rfl, nofun, remainder_iff.mpr halted⟩

/-- A frame in front of a stream is read in front of the others. -/
theorem Reading.cons
    {frame : Frame} {stream rest : Bytes} {frames : List Frame} {fault : Option HeaderFault}
    (proper : frame.Proper) (reading : Reading stream frames rest fault) :
    Reading (frame.bytes ++ stream) (frame :: frames) rest fault := by
  refine ⟨?_, List.forall_mem_cons.mpr ⟨proper, reading.proper⟩, reading.remainder⟩
  rw [List.flatMap_cons, List.append_assoc, ← reading.whole]

/-- A decoder reads what it takes apart. -/
theorem reading_unpack (bytes : Bytes) :
    ∃ frames, Reading bytes frames (unpack bytes false).2.buffer.toList
        (unpack bytes false).1.fault ∧
      (unpack bytes false).1.payloads = frames.map Frame.payload ∧
      (unpack bytes false).2.stalled = (unpack bytes false).1.fault.isSome := by
  generalize fresh : false = stalled
  fun_induction unpack bytes stalled with
  | case1 bytes stalled taken | case2 bytes stalled _ taken =>
      exact ⟨[], reading_of_halt (by rw [taken]; rfl), rfl, fresh.symm⟩
  | case3 bytes stalled offset fault taken =>
      subst fresh
      exact ⟨[], reading_of_halt (by rw [taken]; rfl), rfl, rfl⟩
  | case4 bytes stalled payload rest taken _ batch last unpacked inductionHypothesis =>
      obtain ⟨frames, reading, payloads, flag⟩ := inductionHypothesis rfl
      rw [unpacked] at reading payloads flag
      obtain ⟨block, proper, rfl⟩ := front_eq_payload_iff.mp taken
      refine ⟨⟨block, payload⟩ :: frames, reading.cons proper, ?_, flag⟩
      exact congrArg (payload :: ·) payloads

/-- A frame in front of a stream is no part of a remainder. -/
theorem Frame.Proper.not_remainder
    {frame : Frame} (proper : frame.Proper) (rest : Bytes) (fault : Option HeaderFault) :
    ¬ Remainder (frame.bytes ++ rest) fault := by
  intro remainder
  have halted := remainder_iff.mp remainder
  rw [proper.front_eq] at halted
  contradiction

/-- There is one way only to read the frame in front of a stream. -/
theorem Frame.Proper.unique
    {frame other : Frame} {rest others : Bytes} (proper : frame.Proper)
    (otherProper : other.Proper) (same : frame.bytes ++ rest = other.bytes ++ others) :
    frame = other ∧ rest = others := by
  have complete := proper.front_eq rest
  rw [same, otherProper.front_eq] at complete
  obtain ⟨samePayload, sameRest⟩ := Front.payload.inj complete.symm
  have sameFrame : frame.bytes = other.bytes := by
    rw [sameRest] at same
    exact List.append_cancel_right same
  have sameBlock : frame.block = other.block := by
    rw [Frame.bytes, Frame.bytes, samePayload] at sameFrame
    exact List.append_cancel_right (List.append_cancel_right sameFrame)
  obtain ⟨block, payload⟩ := frame
  obtain ⟨otherBlock, otherPayload⟩ := other
  exact ⟨Frame.mk.injEq .. ▸ ⟨sameBlock, samePayload⟩, sameRest⟩

/-- There is one way only to read a stream. -/
theorem Reading.unique
    {stream rest rests : Bytes} {frames others : List Frame} {fault faults : Option HeaderFault}
    (reading : Reading stream frames rest fault) (other : Reading stream others rests faults) :
    frames = others ∧ rest = rests ∧ fault = faults := by
  obtain ⟨whole, proper, remainder⟩ := reading
  obtain ⟨otherWhole, otherProper, otherRemainder⟩ := other
  induction frames generalizing stream others with
  | nil =>
      cases others with
      | nil =>
          rw [List.flatMap_nil, List.nil_append] at whole otherWhole
          subst whole otherWhole
          have halted := remainder_iff.mp remainder
          rw [remainder_iff.mp otherRemainder] at halted
          exact ⟨rfl, rfl, (Option.some.inj halted).symm⟩
      | cons frame others =>
          rw [List.flatMap_nil, List.nil_append] at whole
          rw [List.flatMap_cons, List.append_assoc, whole] at otherWhole
          rw [otherWhole] at remainder
          exact absurd remainder ((otherProper frame List.mem_cons_self).not_remainder _ _)
  | cons frame frames inductionHypothesis =>
      rw [List.flatMap_cons, List.append_assoc] at whole
      cases others with
      | nil =>
          rw [List.flatMap_nil, List.nil_append, whole] at otherWhole
          rw [← otherWhole] at otherRemainder
          exact absurd otherRemainder ((proper frame List.mem_cons_self).not_remainder _ _)
      | cons other others =>
          rw [List.flatMap_cons, List.append_assoc, whole] at otherWhole
          obtain ⟨rfl, sameRest⟩ := (proper frame List.mem_cons_self).unique
            (otherProper other List.mem_cons_self) otherWhole
          obtain ⟨rfl, isRest, isFault⟩ := inductionHypothesis rfl
            (fun later isLater => proper later (List.mem_cons_of_mem _ isLater)) sameRest
            (fun later isLater => otherProper later (List.mem_cons_of_mem _ isLater))
          exact ⟨rfl, isRest, isFault⟩

/-! ## Chunks -/

/-- A fresh decoder reads every stream, in any chunks, in the one way in which it can be read. The
payloads of the frames have come out, the remainder waits, and a fault has been reported exactly if
the remainder is malformed. No offset on the way overflows a machine word or leaves the buffer. -/
theorem streams_are_read_in_one_way (chunks : List Bytes) :
    let harvest := (Decoder.pushAll chunks .empty).1
    let decoder := (Decoder.pushAll chunks .empty).2
    (∃ frames fault,
      Reading chunks.flatten frames decoder.buffer.toList fault ∧
        harvest = ⟨frames.map Frame.payload, fault.toList⟩ ∧
        decoder.stalled = fault.isSome ∧
        ∀ others rest other, Reading chunks.flatten others rest other →
          others = frames ∧ rest = decoder.buffer.toList ∧ other = fault) ∧
      ∀ chunk : Bytes, decoder.buffered + chunk.length < Text.wordBound →
        unpack? (decoder.buffer.toList ++ chunk) decoder.scanned decoder.stalled =
          some (decoder.push chunk) := by
  have settled := Decoder.settled_empty
  have pushed := Decoder.pushAll_eq_unpack settled chunks
  simp only [Decoder.empty, List.nil_append] at pushed
  have stillSettled : Decoder.Settled (unpack chunks.flatten false).2 :=
    Decoder.settled_unpack _ _
  obtain ⟨frames, reading, payloads, flag⟩ := reading_unpack chunks.flatten
  simp only [Decoder.empty, pushed]
  constructor
  · refine ⟨frames, _, reading, ?_, flag, ?_⟩
    · rw [payloads]
    · intro others rest other otherReading
      exact otherReading.unique reading
  · intro chunk room
    exact stillSettled.unpack?_eq_push room

/-- Two frames, of which the first has no payload and the second two bytes that might begin a
separator, and a block that names no length. -/
def blockedStream : List Bytes :=
  [encodeText "Content-Length: 0\r\n\r", encodeText "\nA\r\r\ncontent-length:+2\r\n\r\n\r\nX: 1",
    encodeText "\r\n\r", encodeText "\n!"]

theorem blocked_stream_is_read :
    let harvest := (Decoder.pushAll blockedStream .empty).1
    let decoder := (Decoder.pushAll blockedStream .empty).2
    harvest = ⟨[[], encodeText "\r\n"], [.missingLength]⟩ ∧
      (∃ frames, Reading blockedStream.flatten frames (encodeText "X: 1\r\n\r\n!")
        (some .missingLength)) ∧
      decoder.buffered + [0x3F].length < Text.wordBound ∧
      unpack? (decoder.buffer.toList ++ [0x3F]) decoder.scanned decoder.stalled =
        some (decoder.push [0x3F]) := by
  have isHarvest : (Decoder.pushAll blockedStream .empty).1 =
      ⟨[[], encodeText "\r\n"], [.missingLength]⟩ := by
    decide +kernel
  have isLeft : (Decoder.pushAll blockedStream .empty).2.buffer.toList =
      encodeText "X: 1\r\n\r\n!" := by
    decide +kernel
  have room : (Decoder.pushAll blockedStream .empty).2.buffered + [0x3F].length <
      Text.wordBound := by
    decide +kernel
  obtain ⟨⟨frames, fault, reading, harvested, -⟩, inWords⟩ :=
    streams_are_read_in_one_way blockedStream
  refine ⟨isHarvest, ⟨frames, ?_⟩, room, inWords _ room⟩
  rw [isLeft] at reading
  rw [isHarvest] at harvested
  have isFault : fault.toList = [.missingLength] := (congrArg Harvest.faults harvested).symm
  rwa [Option.toList_eq_singleton_iff.mp isFault] at reading

end RpcEndpoint.Framing
