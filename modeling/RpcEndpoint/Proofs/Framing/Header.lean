import RpcEndpoint.Framing.Header
import RpcEndpoint.Proofs.Text.Digits
import RpcEndpoint.Proofs.Text.Utf8

/-!
# The header of a frame

The header block that is written in front of a payload holds no carriage return, and the length
that is read from it is the length of the payload.
-/

namespace RpcEndpoint

/-! ## Blanks -/

namespace Text

theorem isBlank_of_isDigit
    {character : Char} (isDigit : character.isDigit = true) : isBlank character = false := by
  have bounds := bounds_of_isDigit isDigit
  simp only [isBlank, Bool.or_eq_false_iff, Bool.and_eq_false_iff, decide_eq_false_iff_not]
  omega

theorem dropWhile_isBlank_decimal (number : Nat) :
    (decimal number).dropWhile isBlank = decimal number := by
  cases digits : decimal number with
  | nil => exact absurd digits (decimal_ne_nil number)
  | cons digit rest =>
      have isFirst : digit ∈ decimal number := by
        rw [digits]
        exact List.mem_cons_self
      have isDigit : digit.isDigit = true := isDigit_of_mem_decimal isFirst
      rw [List.dropWhile_cons, isBlank_of_isDigit isDigit]
      rfl

theorem trimEnd_decimal (number : Nat) : trimEnd (decimal number) = decimal number := by
  have reversed : ∀ character ∈ (decimal number).reverse, isBlank character = false := by
    intro character mem
    exact isBlank_of_isDigit (isDigit_of_mem_decimal (List.mem_reverse.mp mem))
  have kept : (decimal number).reverse.dropWhile isBlank = (decimal number).reverse := by
    cases backwards : (decimal number).reverse with
    | nil => rfl
    | cons digit rest =>
        rw [List.dropWhile_cons, reversed digit (by rw [backwards]; exact List.mem_cons_self)]
        rfl
  rw [trimEnd, kept, List.reverse_reverse]

theorem trim_blank_decimal (number : Nat) : trim (' ' :: decimal number) = decimal number := by
  have isBlank : isBlank ' ' = true := by decide
  rw [trim, List.dropWhile_cons, if_pos isBlank, dropWhile_isBlank_decimal, trimEnd_decimal]

end Text

namespace Framing

open Text (decimal)

/-! ## The line -/

/-- The only line of the header block that is written in front of a payload. -/
def lengthLine (length : Nat) : List Char :=
  lengthName.toList ++ ':' :: ' ' :: decimal length

/-- The header block that is written in front of a payload. -/
def header (payload : Bytes) : Bytes :=
  (lengthLine payload.length).flatMap String.utf8EncodeChar

theorem encodeFrame_eq (payload : Bytes) :
    encodeFrame payload = header payload ++ separator ++ payload := by
  have isLine :
      (lengthName ++ ": " ++ toString payload.length).toList = lengthLine payload.length := by
    rw [String.toList_append, String.toList_append, Text.toList_toString, lengthLine,
      List.append_assoc]
    rfl
  rw [encodeFrame, encodeText_eq, isLine, header]

theorem mem_lengthLine
    {length : Nat} {character : Char} (mem : character ∈ lengthLine length) :
    character.toNat < 0x80 ∧ character ≠ '\r' := by
  rw [lengthLine, List.mem_append, List.mem_cons, List.mem_cons] at mem
  rcases mem with inName | rfl | rfl | inDigits
  · have allPlain : lengthName.toList.all
        (fun plain => decide (plain.toNat < 0x80 ∧ plain ≠ '\r')) = true := by
      decide
    exact of_decide_eq_true (List.all_eq_true.mp allPlain character inName)
  · decide
  · decide
  · have isDigit := Text.isDigit_of_mem_decimal inDigits
    exact ⟨Text.toNat_lt_of_isDigit isDigit, Text.ne_of_isDigit isDigit (by decide)⟩

theorem length_lengthLine_le
    {length : Nat} (small : length < 2 ^ 63) : (lengthLine length).length ≤ 35 := by
  have digits : (decimal length).length ≤ 19 :=
    Text.length_decimal_le (by decide) (Nat.lt_of_lt_of_le small (by decide))
  have name : lengthName.toList.length = 14 := by decide
  rw [lengthLine, List.length_append, List.length_cons, List.length_cons, name]
  omega

theorem lines_of_no_return
    {line : List Char} (noReturn : ∀ character ∈ line, character ≠ '\r') :
    lines line = [line] := by
  induction line with
  | nil => rfl
  | cons character rest inductionHypothesis =>
      have restPlain : ∀ other ∈ rest, other ≠ '\r' :=
        fun other mem => noReturn other (List.mem_cons_of_mem character mem)
      have plain : character ≠ '\r' := noReturn character List.mem_cons_self
      have isLine : lines rest = [rest] := inductionHypothesis restPlain
      rw [lines]
      · rw [isLine]
      · intro tail isReturn
        exact absurd isReturn plain

theorem lengthValue?_lengthLine (length : Nat) :
    lengthValue? (lengthLine length) = some (decimal length) := by
  have isSplit :
      splitAtColon? (lengthLine length) =
        some (lengthName.toList, ' ' :: decimal length) := rfl
  have isName : sameIgnoringCase (Text.trim lengthName.toList) lengthName.toList = true := by
    decide
  rw [lengthValue?, isSplit]
  simp only [if_pos isName, Text.trim_blank_decimal]

theorem parseLength?_decimal
    {length : Nat} (small : length < Text.wordBound) :
    parseLength? (decimal length) = some length := by
  unfold parseLength?
  split
  · rename_i digits isDecimal
    have isFirst : '+' ∈ decimal length := by
      rw [isDecimal]
      exact List.mem_cons_self
    exact absurd (Text.isDigit_of_mem_decimal isFirst) (by decide)
  · exact Text.wordOfDigits?_decimal small

/-! ## The block -/

theorem payloadLength_header
    {payload : Bytes} (small : payload.length < Text.wordBound) :
    payloadLength (header payload) = .ok payload.length := by
  have isText : Utf8.decode? (header payload) = some (lengthLine payload.length) := by
    rw [Utf8.decode?, header, Utf8.decodePrefix_flatMap]
  have oneLine : lines (lengthLine payload.length) = [lengthLine payload.length] :=
    lines_of_no_return fun _ mem => (mem_lengthLine mem).2
  simp only [payloadLength, isText, oneLine, List.findSome?_cons, lengthValue?_lengthLine,
    parseLength?_decimal small]

theorem length_header_le
    {payload : Bytes} (small : payload.length < 2 ^ 63) : (header payload).length ≤ 35 := by
  rw [header, length_flatMap_ascii fun _ mem => (mem_lengthLine mem).1]
  exact length_lengthLine_le small

theorem return_not_mem_header (payload : Bytes) : 0x0D ∉ header payload := by
  intro mem
  obtain ⟨character, inLine, inBytes⟩ := List.mem_flatMap.mp mem
  obtain ⟨ascii, notReturn⟩ := mem_lengthLine inLine
  rw [utf8EncodeChar_ascii ascii, List.mem_singleton] at inBytes
  have sameCode : character.toNat = 0x0D := by
    have isCode : (UInt8.ofNat character.toNat).toNat = character.toNat := by
      rw [UInt8.toNat_ofNat']
      exact Nat.mod_eq_of_lt (by omega)
    rw [← isCode, ← inBytes]
    rfl
  exact notReturn (Char.toNat_inj.mp sameCode)

end Framing

end RpcEndpoint
