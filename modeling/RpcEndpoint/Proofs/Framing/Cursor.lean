import RpcEndpoint.Proofs.Framing.Stream

/-!
# The cursor of a decoder

Between the front of its buffer and its cursor no separator begins (`Clear`), so a search from the
cursor finds what a search from the front would find. The bytes that wait, taken apart from the
cursor on, are therefore what `unpack` makes of them.
-/

namespace RpcEndpoint.Framing

/-! ## The search in a buffer -/

private theorem drop_eq_cons_of_lt
    {buffer : Array UInt8} {offset : Nat} (inside : offset < buffer.size) :
    buffer.toList.drop offset = buffer[offset] :: buffer.toList.drop (offset + 1) := by
  rw [List.drop_eq_getElem_cons (by simpa using inside)]
  simp

theorem standsAt_eq_isPrefixOf (buffer : Array UInt8) (offset : Nat) (pattern : Bytes) :
    standsAt buffer offset pattern = pattern.isPrefixOf (buffer.toList.drop offset) := by
  induction pattern generalizing offset with
  | nil =>
      simp [standsAt]
  | cons byte rest inductionHypothesis =>
      rw [standsAt]
      by_cases inside : offset < buffer.size
      · rw [dif_pos inside, drop_eq_cons_of_lt inside, List.isPrefixOf,
          inductionHypothesis, BEq.comm]
      · have nothing : buffer.toList.drop offset = [] :=
          List.drop_eq_nil_of_le (by simpa using inside)
        rw [dif_neg inside, nothing]
        rfl

theorem findSeparator_eq_firstSeparator (buffer : Array UInt8) (offset : Nat) :
    findSeparator buffer offset =
      (firstSeparator (buffer.toList.drop offset)).map (· + offset) := by
  induction offset using findSeparator.induct buffer with
  | case1 offset inside here =>
      rw [findSeparator, if_pos inside, if_pos here]
      rw [standsAt_eq_isPrefixOf] at here
      rw [drop_eq_cons_of_lt inside] at here ⊢
      rw [firstSeparator, if_pos here]
      simp
  | case2 offset inside elsewhere inductionHypothesis =>
      rw [findSeparator, if_pos inside, if_neg elsewhere, inductionHypothesis]
      rw [standsAt_eq_isPrefixOf] at elsewhere
      rw [drop_eq_cons_of_lt inside] at elsewhere ⊢
      rw [firstSeparator, if_neg elsewhere, Option.map_map]
      congr 1
      funext later
      simp only [Function.comp]
      omega
  | case3 offset outside =>
      have nothing : buffer.toList.drop offset = [] :=
        List.drop_eq_nil_of_le (by simpa using outside)
      rw [findSeparator, if_neg outside, nothing]
      rfl

/-- No separator begins in a buffer from one offset on and before another. -/
def Clear (buffer : Array UInt8) (first cursor : Nat) : Prop :=
  ∀ offset, first ≤ offset → offset < cursor → standsAt buffer offset separator = false

/-- A search may leave out a part in which nothing begins. -/
theorem findSeparator_of_clear
    {buffer : Array UInt8} {first cursor : Nat}
    (ordered : first ≤ cursor) (clear : Clear buffer first cursor) :
    findSeparator buffer first = findSeparator buffer cursor := by
  induction ordered with
  | refl =>
      rfl
  | @step cursor ordered inductionHypothesis =>
      have shorter : Clear buffer first cursor :=
        fun offset after before => clear offset after (Nat.lt_succ_of_lt before)
      rw [inductionHypothesis shorter, findSeparator]
      have elsewhere := clear cursor ordered (Nat.lt_succ_self cursor)
      by_cases inside : cursor < buffer.size
      · rw [if_pos inside, elsewhere, if_neg Bool.false_ne_true]
      · rw [if_neg inside, findSeparator, if_neg (by omega)]

/-- A search stops at the latest where a separator stands. -/
theorem findSeparator_le_of_standsAt
    {buffer : Array UInt8} {first offset : Nat}
    (ordered : first ≤ offset) (stands : standsAt buffer offset separator) :
    ∃ found, findSeparator buffer first = some found ∧ found ≤ offset := by
  induction first using findSeparator.induct buffer with
  | case1 first inside here =>
      rw [findSeparator, if_pos inside, if_pos here]
      exact ⟨first, rfl, ordered⟩
  | case2 first inside elsewhere inductionHypothesis =>
      rw [findSeparator, if_pos inside, if_neg elsewhere]
      have different : first ≠ offset := by
        rintro rfl
        exact elsewhere stands
      exact inductionHypothesis (by omega)
  | case3 first outside =>
      have beyond : ¬ offset < buffer.size := by omega
      simp [standsAt, separator, beyond] at stands

/-- Nothing begins before the offset that a search finds. -/
theorem clear_of_found
    {buffer : Array UInt8} {first offset : Nat}
    (found : findSeparator buffer first = some offset) :
    Clear buffer first offset := by
  intro earlier after before
  rw [← Bool.not_eq_true]
  intro stands
  obtain ⟨stop, stopped, early⟩ := findSeparator_le_of_standsAt after stands
  rw [found] at stopped
  cases stopped
  omega

/-- Nothing begins at all where a search finds nothing. -/
theorem clear_of_not_found
    {buffer : Array UInt8} {first : Nat}
    (notFound : findSeparator buffer first = none) (cursor : Nat) :
    Clear buffer first cursor := by
  intro earlier after before
  rw [← Bool.not_eq_true]
  intro stands
  obtain ⟨stop, stopped, early⟩ := findSeparator_le_of_standsAt after stands
  rw [notFound] at stopped
  contradiction

/-- Bytes that come later bring no separator to where a whole one had room before. -/
theorem Clear.append
    {buffer : Array UInt8} {cursor : Nat}
    (clear : Clear buffer 0 cursor)
    (reach : cursor ≤ Decoder.cursorAtEnd buffer.size) (chunk : Bytes) :
    Clear (buffer ++ chunk) 0 cursor := by
  intro offset after before
  have room : offset + separator.length ≤ buffer.size := by
    have bound : offset < buffer.size - (separator.length - 1) :=
      Nat.lt_of_lt_of_le before reach
    omega
  have long : separator.length ≤ (buffer.toList.drop offset).length := by
    rw [List.length_drop]
    simp only [Array.length_toList]
    omega
  have stays := clear offset after before
  rw [standsAt_eq_isPrefixOf] at stays ⊢
  rw [Array.toList_appendList,
    List.drop_append_of_le_length (by simp; omega),
    separator_isPrefixOf_append long, stays]

/-! ## The front of a buffer -/

/-- What a buffer gives from one offset on, with a separator at another, is what the list of its
bytes begins with. -/
theorem frontAt_eq_extractAt
    (buffer : Array UInt8) {first offset : Nat} (ordered : first ≤ offset)
    (within : first ≤ buffer.size) :
    frontAt (buffer.toList.drop first) (offset - first) =
      match extractAt buffer first offset with
      | .incomplete => .incomplete (offset - first)
      | .malformed fault => .malformed (offset - first) fault
      | .payload payload next => .payload payload (buffer.toList.drop next) := by
  have sameBlock :
      (buffer.extract first offset).toList =
        (buffer.toList.drop first).take (offset - first) := by
    rw [Array.toList_extract, List.extract_eq_take_drop]
  rw [frontAt, extractAt, sameBlock]
  cases payloadLength ((buffer.toList.drop first).take (offset - first)) with
  | error fault =>
      rfl
  | ok length =>
      have sameStart :
          offset - first + separator.length + length =
            offset + separator.length - first + length := by
        omega
      simp only [sameStart]
      by_cases tooLong :
          Text.wordBound ≤ offset + separator.length - first + length
      · rw [if_pos tooLong, if_pos tooLong]
      · have sameEnough :
            (offset + separator.length - first + length ≤
              (buffer.toList.drop first).length) ↔
              offset + separator.length + length ≤ buffer.size := by
          have sameLength : buffer.toList.length = buffer.size :=
            Array.length_toList
          rw [List.length_drop, sameLength]
          omega
        rw [if_neg tooLong, if_neg tooLong]
        by_cases enough : offset + separator.length + length ≤ buffer.size
        · rw [if_pos enough, if_pos (sameEnough.mpr enough)]
          have samePayload :
              (buffer.extract (offset + separator.length)
                (offset + separator.length + length)).toList =
                ((buffer.toList.drop first).drop
                  (offset - first + separator.length)).take length := by
            rw [Array.toList_extract, List.extract_eq_take_drop, List.drop_drop]
            congr 2 <;> omega
          have sameRest :
              (buffer.toList.drop first).drop
                  (offset + separator.length - first + length) =
                buffer.toList.drop (offset + separator.length + length) := by
            rw [List.drop_drop]
            congr 1
            omega
          rw [samePayload, sameRest]
        · rw [if_neg enough, if_neg (mt sameEnough.mp enough)]

theorem toArray_drop_eq_bytesFrom (buffer : Array UInt8) (first : Nat) :
    (buffer.toList.drop first).toArray = bytesFrom buffer first := by
  unfold bytesFrom
  by_cases start : first = 0
  · rw [if_pos start, start]
    simp
  · rw [if_neg start]
    apply Array.ext'
    rw [Array.toList_extract, List.extract_eq_take_drop,
      List.take_of_length_le (by simp)]

/-! ## A whole buffer -/

/-- Without a separator from the cursor on there is none at all. -/
theorem front_of_not_found
    {buffer : Array UInt8} {first cursor : Nat}
    (ordered : first ≤ cursor) (clear : Clear buffer first cursor)
    (notFound : findSeparator buffer cursor = none) :
    front (buffer.toList.drop first) = .unbroken := by
  rw [← findSeparator_of_clear ordered clear,
    findSeparator_eq_firstSeparator, Option.map_eq_none_iff] at notFound
  rw [front, notFound]

/-- The first separator from the cursor on ends the header block. -/
theorem front_of_found
    {buffer : Array UInt8} {first cursor offset : Nat}
    (ordered : first ≤ cursor) (clear : Clear buffer first cursor)
    (found : findSeparator buffer cursor = some offset) :
    front (buffer.toList.drop first) =
      frontAt (buffer.toList.drop first) (offset - first) := by
  rw [← findSeparator_of_clear ordered clear,
    findSeparator_eq_firstSeparator] at found
  obtain ⟨distance, searched, rfl⟩ := Option.map_eq_some_iff.mp found
  rw [front, searched, Nat.add_sub_cancel]

/-- The cursor saves work and changes nothing: a buffer is taken apart like the list of its
bytes. -/
theorem drain_eq_unpack
    (buffer : Array UInt8) (stalled : Bool) {first cursor : Nat}
    (ordered : first ≤ cursor) (within : first ≤ buffer.size)
    (clear : Clear buffer first cursor) :
    Decoder.drain buffer stalled first cursor =
      unpack (buffer.toList.drop first) stalled := by
  fun_induction Decoder.drain buffer stalled first cursor with
  | case1 stalled first cursor notFound =>
      rw [unpack_eq, front_of_not_found ordered clear notFound,
        toArray_drop_eq_bytesFrom, List.length_drop, Array.length_toList]
  | case2 stalled first cursor offset found extracted =>
      have reached := Nat.le_trans ordered (le_of_findSeparator found)
      have begun := frontAt_eq_extractAt buffer reached within
      rw [unpack_eq, front_of_found ordered clear found, begun, extracted,
        toArray_drop_eq_bytesFrom]
  | case3 stalled first cursor offset found fault extracted =>
      have reached := Nat.le_trans ordered (le_of_findSeparator found)
      have begun := frontAt_eq_extractAt buffer reached within
      rw [unpack_eq, front_of_found ordered clear found, begun, extracted,
        toArray_drop_eq_bytesFrom]
  | case4 stalled first cursor offset found payload next extracted _ batch
      last drained inductionHypothesis =>
      have reached := Nat.le_trans ordered (le_of_findSeparator found)
      have begun := frontAt_eq_extractAt buffer reached within
      have inside := (bounds_of_extractAt extracted).2
      have nothingBetween : Clear buffer next next :=
        fun offset after before => absurd after (Nat.not_le_of_lt before)
      rw [unpack_eq, front_of_found ordered clear found, begun, extracted]
      simp only
      rw [← inductionHypothesis (Nat.le_refl next) inside nothingBetween,
        drained]

end RpcEndpoint.Framing
