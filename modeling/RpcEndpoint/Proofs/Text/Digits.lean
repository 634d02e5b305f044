import Mathlib.Algebra.Group.Nat.Defs
import RpcEndpoint.Text.Kind

/-!
# Numbers and their digits

The digits that a number is written by are read as that number, as long as it fits a machine word.
-/

namespace RpcEndpoint.Text

/-- The decimal digits of a number. -/
def decimal (number : Nat) : List Char :=
  Nat.toDigits 10 number

theorem toList_toString (number : Nat) : (toString number).toList = decimal number :=
  Nat.toList_repr

theorem decimal_ne_nil (number : Nat) : decimal number ≠ [] :=
  Nat.toDigits_ne_nil

theorem isDigit_of_mem_decimal
    {number : Nat} {character : Char} (mem : character ∈ decimal number) :
    character.isDigit = true :=
  Nat.isDigit_of_mem_toDigits (by decide) (by decide) mem

theorem digitsValue_decimal (number : Nat) : digitsValue (decimal number) = number :=
  Nat.ofDigitChars_ten_toDigits

theorem length_decimal_le
    {number places : Nat} (positive : 0 < places) (small : number < 10 ^ places) :
    (decimal number).length ≤ places :=
  (Nat.length_toDigits_le_iff (by decide) positive).mpr small

theorem wordOfDigits?_decimal
    {number : Nat} (small : number < wordBound) :
    wordOfDigits? (decimal number) = some number := by
  have notEmpty : (decimal number).isEmpty = false :=
    List.isEmpty_eq_false_iff.mpr (decimal_ne_nil number)
  have allDigits : (decimal number).all Char.isDigit = true :=
    List.all_eq_true.mpr fun _ mem => isDigit_of_mem_decimal mem
  rw [wordOfDigits?, notEmpty, allDigits, digitsValue_decimal, if_neg (by decide), if_pos small]

/-- Only zero is written with a zero in front. -/
theorem eq_zero_of_head?_decimal
    {number : Nat} (leading : (decimal number).head? = some '0') : number = 0 := by
  induction number using Nat.strongRecOn with
  | ind number inductionHypothesis =>
      by_cases small : number < 10
      · have all : ∀ number < 10, (decimal number).head? = some '0' → number = 0 := by
          decide
        exact all number small leading
      · have large : 10 ≤ number := Nat.le_of_not_lt small
        rw [decimal, Nat.toDigits_of_base_le (by decide) large, List.head?_append] at leading
        cases front : (Nat.toDigits 10 (number / 10)).head? with
        | none =>
            exact absurd (List.head?_eq_none_iff.mp front) Nat.toDigits_ne_nil
        | some digit =>
            rw [front, Option.some_or] at leading
            have noFront := inductionHypothesis (number / 10) (by omega) (front.trans leading)
            omega

/-! ## Digits among other characters -/

theorem ne_of_isDigit
    {character other : Char} (isDigit : character.isDigit = true)
    (notDigit : other.isDigit = false) : character ≠ other := by
  intro same
  rw [same, notDigit] at isDigit
  contradiction

theorem bounds_of_isDigit
    {character : Char} (isDigit : character.isDigit = true) :
    48 ≤ character.toNat ∧ character.toNat ≤ 57 := by
  have bounds : 48 ≤ character.val ∧ character.val ≤ 57 := by
    simpa [Char.isDigit] using isDigit
  exact ⟨UInt32.le_iff_toNat_le.mp bounds.1, UInt32.le_iff_toNat_le.mp bounds.2⟩

theorem toNat_lt_of_isDigit
    {character : Char} (isDigit : character.isDigit = true) : character.toNat < 0x80 := by
  have bounds := bounds_of_isDigit isDigit
  omega

end RpcEndpoint.Text
