import RpcEndpoint.Proofs.Framing.Chunks

/-!
# Offsets in machine words

`unpack?` takes bytes apart with its offsets in machine words and gives up at the first sum that is
no word and at the first offset behind the end of the buffer. It never gives up on what waits in a
decoder, and comes to the same as the decoder itself.
-/

namespace RpcEndpoint.Framing

/-- The number, if it fits a machine word. -/
def word? (number : Nat) : Option Nat :=
  if number < Text.wordBound then some number else none

/-- The bytes between two offsets, if both lie in the buffer and in this order. -/
def slice? (bytes : Bytes) (start stop : Nat) : Option Bytes :=
  if start ≤ stop ∧ stop ≤ bytes.length then some ((bytes.take stop).drop start) else none

/-- What bytes begin with, when the search for the separator starts at a cursor. Only the end of the
payload may be out of reach: no word if the length is too large, and behind the end of the buffer
as long as bytes are missing. -/
def front? (bytes : Bytes) (cursor : Nat) : Option Front := do
  let ahead ← slice? bytes cursor bytes.length
  match firstSeparator ahead with
  | none => pure .unbroken
  | some distance =>
    let offset ← word? (distance + cursor)
    let block ← slice? bytes 0 offset
    match payloadLength block with
    | .error fault => pure (.malformed offset fault)
    | .ok named =>
      let length ← word? named
      let start ← word? (offset + separator.length)
      match word? (start + length) with
      | none => pure (.malformed offset (.invalidLength (toString length)))
      | some stop =>
        if bytes.length < stop then pure (.incomplete offset)
        else
          let payload ← slice? bytes start stop
          let rest ← slice? bytes stop bytes.length
          pure (.payload payload rest)

/-- Takes bytes apart, each time from the front of those that are left. Gives up where that would
not end. -/
def unpack? (bytes : Bytes) (cursor : Nat) (stalled : Bool) : Option (Batch × Decoder) :=
  match front? bytes cursor with
  | none => none
  | some .unbroken =>
    some (⟨[], none⟩, ⟨bytes.toArray, Decoder.cursorAtEnd bytes.length, stalled⟩)
  | some (.incomplete offset) => some (⟨[], none⟩, ⟨bytes.toArray, offset, stalled⟩)
  | some (.malformed offset fault) =>
    some (⟨[], if stalled then none else some fault⟩, ⟨bytes.toArray, offset, true⟩)
  | some (.payload payload rest) =>
    if rest.length < bytes.length then
      (unpack? rest 0 false).map fun taken =>
        (⟨payload :: taken.1.payloads, taken.1.fault⟩, taken.2)
    else none
termination_by bytes.length

/-! ## Checks that pass -/

theorem word?_eq_some {number : Nat} (fits : number < Text.wordBound) :
    word? number = some number :=
  if_pos fits

theorem slice?_eq_some
    {bytes : Bytes} {start stop : Nat} (ordered : start ≤ stop) (within : stop ≤ bytes.length) :
    slice? bytes start stop = some ((bytes.take stop).drop start) :=
  if_pos ⟨ordered, within⟩

theorem slice?_to_end {bytes : Bytes} {start : Nat} (within : start ≤ bytes.length) :
    slice? bytes start bytes.length = some (bytes.drop start) := by
  rw [slice?_eq_some within (Nat.le_refl _), List.take_length]

/-- A length that a block names is a machine word. -/
theorem lt_wordBound_of_payloadLength
    {block : Bytes} {length : Nat} (named : payloadLength block = .ok length) :
    length < Text.wordBound := by
  have isWord {digits : List Char} (isLength : Text.wordOfDigits? digits = some length) :
      length < Text.wordBound := by
    unfold Text.wordOfDigits? at isLength
    split at isLength
    · contradiction
    split at isLength
    · rename_i small
      exact Option.some.inj isLength ▸ small
    · contradiction
  unfold payloadLength at named
  split at named
  · contradiction
  split at named
  · contradiction
  split at named
  · contradiction
  rename_i parsed
  cases named
  unfold parseLength? at parsed
  split at parsed
  · exact isWord parsed
  · exact isWord parsed

/-- With the cursor behind no separator, no check fails. -/
theorem front?_eq
    {bytes : Bytes} {cursor : Nat}
    (searched : firstSeparator bytes = (firstSeparator (bytes.drop cursor)).map (· + cursor))
    (within : cursor ≤ bytes.length) (room : bytes.length < Text.wordBound) :
    front? bytes cursor = some (front bytes) := by
  rw [front?, slice?_to_end within, front, searched]
  dsimp only [Option.bind_eq_bind, Option.bind_some]
  cases found : firstSeparator (bytes.drop cursor) with
  | none =>
      rfl
  | some distance =>
      rw [found, Option.map_some] at searched
      have inside := firstSeparator_within searched
      have four : separator.length = 4 := rfl
      dsimp only [Option.map_some]
      rw [word?_eq_some (by omega), Option.bind_some,
        slice?_eq_some (Nat.zero_le _) (by omega), Option.bind_some, List.drop_zero, frontAt]
      cases named : payloadLength (bytes.take (distance + cursor)) with
      | error fault =>
          rfl
      | ok length =>
          have small := lt_wordBound_of_payloadLength named
          dsimp only
          rw [word?_eq_some small, Option.bind_some, word?_eq_some (by omega),
            Option.bind_some]
          by_cases tooLong :
              Text.wordBound ≤ distance + cursor + separator.length + length
          · rw [word?, if_neg (by omega), if_pos tooLong]
            rfl
          rw [word?_eq_some (by omega), if_neg tooLong]
          dsimp only
          by_cases enough : distance + cursor + separator.length + length ≤ bytes.length
          · rw [if_neg (by omega), if_pos enough, slice?_eq_some (by omega) enough,
              slice?_to_end enough, List.take_drop]
            rfl
          · rw [if_pos (by omega), if_neg enough]
            rfl

/-- A search from the front starts at no cursor. -/
theorem searched_from_front (bytes : Bytes) :
    firstSeparator bytes = (firstSeparator (bytes.drop 0)).map (· + 0) := by
  rw [List.drop_zero]
  cases firstSeparator bytes <;> rfl

/-- Bytes that fit a machine word are taken apart in machine words. -/
theorem unpack?_eq
    {bytes : Bytes} {cursor : Nat} (stalled : Bool)
    (searched : firstSeparator bytes = (firstSeparator (bytes.drop cursor)).map (· + cursor))
    (within : cursor ≤ bytes.length) (room : bytes.length < Text.wordBound) :
    unpack? bytes cursor stalled = some (unpack bytes stalled) := by
  fun_induction unpack bytes stalled generalizing cursor with
  | case1 bytes stalled taken | case2 bytes stalled _ taken | case3 bytes stalled _ _ taken =>
      rw [unpack?, front?_eq searched within room, taken]
  | case4 bytes stalled payload rest taken _ batch last unpacked inductionHypothesis =>
      have shorter := length_lt_of_front taken
      have later := inductionHypothesis (searched_from_front rest) (Nat.zero_le _)
        (Nat.lt_trans shorter room)
      rw [unpack?, front?_eq searched within room, taken]
      dsimp only
      rw [if_pos shorter, later, unpacked]
      rfl

/-- A chunk is taken in machine words as long as the bytes that wait can be counted by one. -/
theorem Decoder.Settled.unpack?_eq_push
    {decoder : Decoder} (settled : decoder.Settled) {chunk : Bytes}
    (room : decoder.buffered + chunk.length < Text.wordBound) :
    unpack? (decoder.buffer.toList ++ chunk) decoder.scanned decoder.stalled =
      some (decoder.push chunk) := by
  have isSize : (decoder.buffer.toList ++ chunk).length = decoder.buffered + chunk.length := by
    rw [List.length_append, Array.length_toList, Decoder.buffered]
  have within : decoder.scanned ≤ (decoder.buffer.toList ++ chunk).length := by
    have reach := settled.reach
    rw [isSize, Decoder.buffered]
    unfold Decoder.cursorAtEnd at reach
    omega
  have searched := findSeparator_of_clear (Nat.zero_le decoder.scanned)
    (settled.clear.append settled.reach chunk)
  rw [findSeparator_eq_firstSeparator, findSeparator_eq_firstSeparator,
    Array.toList_appendList, ← searched_from_front] at searched
  rw [Decoder.push_eq_unpack settled]
  exact unpack?_eq decoder.stalled searched within (by rw [isSize]; exact room)

end RpcEndpoint.Framing
