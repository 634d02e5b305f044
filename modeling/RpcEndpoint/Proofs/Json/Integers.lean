import Mathlib.Data.List.Basic
import RpcEndpoint.Json.Numeral
import RpcEndpoint.Proofs.Json.Reads
import RpcEndpoint.Proofs.Text.Digits
import RpcEndpoint.Proofs.Text.Utf8

/-!
# Integers in JSON text

The digits that an integer is printed by are read as that integer.
-/

namespace RpcEndpoint.Json

open Text (decimal)

/-! ## Digits -/

/-- The decimal digits of a number as bytes. -/
def digits (number : Nat) : Bytes :=
  (decimal number).map fun digit => UInt8.ofNat digit.toNat

theorem encodeText_toString (number : Nat) : encodeText (toString number) = digits number := by
  have ascii : ∀ digit ∈ decimal number,
      String.utf8EncodeChar digit = [UInt8.ofNat digit.toNat] := by
    intro digit mem
    exact utf8EncodeChar_ascii (Text.toNat_lt_of_isDigit (Text.isDigit_of_mem_decimal mem))
  rw [encodeText_eq, Text.toList_toString, List.flatMap_congr ascii, digits, List.map_eq_flatMap]

theorem digits_ne_nil (number : Nat) : digits number ≠ [] :=
  mt List.map_eq_nil_iff.mp (Text.decimal_ne_nil number)

private theorem toNat_ofNat_digit {digit : Char} (isDigit : digit.isDigit = true) :
    (UInt8.ofNat digit.toNat).toNat = digit.toNat := by
  rw [UInt8.toNat_ofNat']
  have small := Text.toNat_lt_of_isDigit isDigit
  exact Nat.mod_eq_of_lt (by omega)

theorem isDigit_of_mem_digits
    {number : Nat} {byte : UInt8} (mem : byte ∈ digits number) : Bytes.isDigit byte = true := by
  obtain ⟨digit, inDecimal, rfl⟩ := List.mem_map.mp mem
  have isDigit := Text.isDigit_of_mem_decimal inDecimal
  have bounds := Text.bounds_of_isDigit isDigit
  rw [Bytes.isDigit, Bool.and_eq_true, decide_eq_true_eq, decide_eq_true_eq,
    UInt8.le_iff_toNat_le, UInt8.le_iff_toNat_le, toNat_ofNat_digit isDigit]
  exact bounds

/-- Digits are absorbed as long as they stay below the bound, and the number only grows. -/
private theorem absorbDigits_map
    {bound total : Nat} {characters : List Char}
    (allDigits : ∀ digit ∈ characters, digit.isDigit = true) :
    let value := characters.foldl (fun total digit => 10 * total + (digit.toNat - '0'.toNat)) total
    total ≤ value ∧
      (value < bound →
        absorbDigits bound total (characters.map fun digit => UInt8.ofNat digit.toNat) =
          (value, [])) := by
  induction characters generalizing total with
  | nil =>
      exact ⟨Nat.le_refl total, fun _ => rfl⟩
  | cons digit rest inductionHypothesis =>
      have isDigit := allDigits digit List.mem_cons_self
      have sameValue : Bytes.digitValue (UInt8.ofNat digit.toNat) = digit.toNat - '0'.toNat := by
        rw [Bytes.digitValue, toNat_ofNat_digit isDigit]
        rfl
      obtain ⟨grows, absorbs⟩ := @inductionHypothesis (10 * total + (digit.toNat - '0'.toNat))
        fun other mem => allDigits other (List.mem_cons_of_mem digit mem)
      refine ⟨Nat.le_trans (by omega) grows, fun small => ?_⟩
      rw [List.map_cons, absorbDigits, sameValue, if_pos (Nat.lt_of_le_of_lt grows small)]
      exact absorbs small

theorem absorbDigits_digits {bound number : Nat} (small : number < bound) :
    absorbDigits bound 0 (digits number) = (number, []) := by
  have allDigits : ∀ digit ∈ decimal number, digit.isDigit = true :=
    fun _ mem => Text.isDigit_of_mem_decimal mem
  have isValue := Text.digitsValue_decimal number
  have absorbs := (@absorbDigits_map bound 0 (decimal number) allDigits).2
  rw [Text.digitsValue] at isValue
  rw [isValue] at absorbs
  exact absorbs small

/-- Only the number zero is written with a zero in front. -/
theorem eq_zero_of_leading_zero
    {number : Nat} {rest : Bytes} (leading : digits number = 0x30 :: rest) :
    number = 0 ∧ rest = [] := by
  have isZero : number = 0 := by
    have isHead : (decimal number).head? = some '0' := by
      cases isDecimal : decimal number with
      | nil =>
          exact absurd isDecimal (Text.decimal_ne_nil number)
      | cons digit others =>
          rw [digits, isDecimal] at leading
          have isDigit : digit.isDigit = true :=
            Text.isDigit_of_mem_decimal (isDecimal ▸ List.mem_cons_self)
          have sameCode := congrArg UInt8.toNat (List.cons.inj leading).1
          rw [toNat_ofNat_digit isDigit] at sameCode
          exact congrArg some (Char.toNat_inj.mp sameCode)
    exact Text.eq_zero_of_head?_decimal isHead
  subst isZero
  exact ⟨rfl, (List.cons.inj leading).2.symm⟩

/-! ## Reading -/

/-- Nothing follows, or something that separates values. -/
def Delimited (rest : Bytes) : Prop :=
  ∀ byte, rest.head? = some byte → byte = 0x2C ∨ byte = 0x5D ∨ byte = 0x7D

theorem delimited_nil : Delimited [] := by
  intro byte isHead
  contradiction

namespace Reader

theorem reads_readNumber
    (negative : Bool) {number : Nat} (small : number < significandBound)
    {rest : Bytes} (delimited : Delimited rest) :
    Reads (readNumber negative) (digits number) rest (wholeNumber negative number) := by
  have stops : ∀ byte, rest.head? = some byte → Bytes.isDigit byte = false := by
    intro byte isHead
    rcases delimited byte isHead with rfl | rfl | rfl <;> rfl
  cases isDigits : digits number with
  | nil =>
      exact absurd isDigits (digits_ne_nil number)
  | cons first tail =>
      have isDigit : Bytes.isDigit first = true :=
        isDigit_of_mem_digits (isDigits ▸ List.mem_cons_self)
      refine (reads_peek _).look ?_
      change Reads (if !Bytes.isDigit first then _ else if first = 0x30 then _ else _) _ _ _
      rw [isDigit, if_neg (by decide)]
      by_cases leading : first = 0x30
      · subst leading
        obtain ⟨rfl, rfl⟩ := eq_zero_of_leading_zero isDigits
        rw [if_pos rfl]
        refine (reads_skipByte 0x30 _).step ?_
        refine (reads_peek _).look ?_
        rw [List.nil_append]
        cases isHead : rest.head? with
        | none =>
            exact reads_pure _ rest
        | some byte =>
            rcases delimited byte isHead with rfl | rfl | rfl
            all_goals exact reads_pure _ rest
      · rw [if_neg leading, ← isDigits]
        refine (reads_takeWhile (fun _ mem => isDigit_of_mem_digits mem) stops).last ?_
        rw [absorbDigits_digits small]
        refine (reads_peek _).look ?_
        rw [List.nil_append]
        cases isHead : rest.head? with
        | none =>
            exact reads_pure _ rest
        | some byte =>
            rcases delimited byte isHead with rfl | rfl | rfl
            all_goals exact reads_pure _ rest

end Reader

/-- The sign and the magnitude of an integer give it back. -/
theorem wholeNumber_natAbs (whole : Integer) :
    Reader.wholeNumber (decide (whole.value < 0)) whole.value.natAbs = .integer whole := by
  have inRange : Integer.ofInt? whole.value = some whole :=
    dif_pos ⟨whole.least_le, whole.lt_bound⟩
  have restored : (if decide (whole.value < 0) = true then -(whole.value.natAbs : Int)
      else whole.value.natAbs) = whole.value := by
    by_cases isNegative : whole.value < 0
    · rw [if_pos (decide_eq_true isNegative)]
      omega
    · rw [if_neg (by simpa using isNegative)]
      omega
  have notMinusZero : (decide (whole.value < 0) && decide (whole.value.natAbs = 0)) = false := by
    by_cases isNegative : whole.value < 0
    · rw [decide_eq_false (by omega : ¬ whole.value.natAbs = 0), Bool.and_false]
    · rw [decide_eq_false isNegative, Bool.false_and]
  unfold Reader.wholeNumber
  dsimp only
  rw [restored, inRange]
  dsimp only
  rw [notMinusZero, if_neg (by decide)]

end RpcEndpoint.Json
