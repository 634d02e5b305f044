import RpcEndpoint.Decimal.Shortest

/-!
# Ratios that are rounded

A ratio is rounded to a number of places, or to the numbers that a binary format holds.
-/

namespace RpcEndpoint.Decimal

/-! ## Decimals with a number of places

A positive rational is written with as many places as are wanted. The last digit is rounded to the
nearest, and of two that are equally near the even one is taken. -/

/-- The rational `numerator / denominator`, which is not negative. -/
structure Ratio where
  numerator : Nat
  denominator : Nat

namespace Ratio

/-- The ratio measured in units of `10 ^ power`. -/
def inUnits (ratio : Ratio) (power : Int) : Ratio :=
  ⟨ratio.numerator * Nat.pow 10 (-power).toNat, ratio.denominator * Nat.pow 10 power.toNat⟩

/-- The nearest whole number. -/
def nearest (ratio : Ratio) : Nat :=
  let below := ratio.numerator / ratio.denominator
  let twice := 2 * (ratio.numerator % ratio.denominator)
  if twice < ratio.denominator || twice = ratio.denominator && below % 2 = 0 then below
  else below + 1

/-- The power of ten of the leading digit; that of nothing is 0. -/
def magnitude (ratio : Ratio) : Int :=
  if ratio.numerator = 0 then 0
  else
    let estimate := (digitCount ratio.numerator : Int) - digitCount ratio.denominator
    let measured := ratio.inUnits estimate
    if measured.denominator ≤ measured.numerator then estimate else estimate - 1

end Ratio

/-- Digits with a point before the last ones. -/
def pointed (places : Nat) (keepsPoint : Bool) (value : Nat) : String :=
  let digits := Nat.toDigits 10 value
  let filled := List.replicate (places + 1 - digits.length) '0' ++ digits
  let whole := filled.length - places
  String.ofList (filled.take whole)
    ++ (if places = 0 && !keepsPoint then "" else "." ++ String.ofList (filled.drop whole))

/-- The ratio with so many places behind the point. -/
def fixedPlaces (places : Nat) (keepsPoint : Bool) (ratio : Ratio) : String :=
  pointed places keepsPoint (ratio.inUnits (-places)).nearest

/-- The digits of a ratio, one and so many places behind it, and the power of ten of the first. -/
def roundedDigits (places : Nat) (ratio : Ratio) : Nat × Int :=
  let leading := ratio.magnitude
  let rounded := (ratio.inUnits (leading - places)).nearest
  if places + 1 < digitCount rounded then (rounded / 10, leading + 1) else (rounded, leading)

/-- An exponent of two digits or more behind its mark and its sign. -/
def exponentText (mark : String) (exponent : Int) : String :=
  let digits := toString exponent.natAbs
  mark ++ (if exponent < 0 then "-" else "+") ++ (if digits.length < 2 then "0" else "") ++ digits

/-- The ratio with one digit before the point and an exponent. -/
def scientificPlaces (mark : String) (places : Nat) (keepsPoint : Bool) (ratio : Ratio) : String :=
  let (rounded, leading) := roundedDigits places ratio
  pointed places keepsPoint rounded ++ exponentText mark leading

/-- A text without the zeros at its end, if it has a point, and without a point at its end. -/
def withoutZeros (text : String) : String :=
  if text.contains '.' then
    let bare := (text.toList.reverse.dropWhile (· = '0'))
    String.ofList (if bare.head? = some '.' then bare.drop 1 else bare).reverse
  else text

/-- The ratio with so many digits, with an exponent only if it is small or great. Without the flag
zeros at the end are left out. -/
def generalDigits (mark : String) (digits : Nat) (keepsZeros : Bool) (ratio : Ratio) : String :=
  let places := max 1 digits - 1
  let (rounded, leading) := roundedDigits places ratio
  let finish (text : String) : String := if keepsZeros then text else withoutZeros text
  if leading < -4 || (places : Int) < leading then
    finish (pointed places keepsZeros rounded) ++ exponentText mark leading
  else finish (fixedPlaces ((places : Int) - leading).toNat keepsZeros ratio)

/-! ## Binary formats

A binary format holds numbers `significand * 2 ^ power` whose significands have so many bits. A
ratio is rounded to the nearest of them, and of two that are equally near the one with an even
significand is taken. Their hexadecimal digits are exact. -/

/-- A binary format. -/
structure Precision where
  /-- How many bits a significand has. -/
  bits : Nat
  /-- The least power there is. -/
  finest : Int
  /-- The power of two that no number reaches. -/
  bound : Int
  /-- How many bits the hexadecimal digit before the point has. -/
  leading : Nat
deriving Repr, DecidableEq

namespace Precision

/-- Numbers of 64 bits. -/
def double : Precision := ⟨53, -1074, 1024, 1⟩

/-- Numbers of 80 bits. -/
def extended : Precision := ⟨64, -16445, 16384, 4⟩

end Precision

namespace Ratio

/-- The ratio measured in units of `2 ^ power`. -/
def inBinaryUnits (ratio : Ratio) (power : Int) : Ratio :=
  ⟨ratio.numerator * Nat.pow 2 (-power).toNat, ratio.denominator * Nat.pow 2 power.toNat⟩

/-- The power of two of the leading bit. -/
def binaryMagnitude (ratio : Ratio) : Int :=
  let estimate := (ratio.numerator.log2 : Int) - ratio.denominator.log2
  let measured := ratio.inBinaryUnits estimate
  if measured.denominator ≤ measured.numerator then estimate else estimate - 1

end Ratio

/-- How a ratio is held in a binary format. -/
structure Rounded where
  significand : Nat
  power : Int
  /-- Whether the ratio is too great for the format. -/
  overflows : Bool
  /-- Whether the ratio is so small that it has lost bits of its own. -/
  underflows : Bool
deriving Repr, DecidableEq

namespace Precision

/-- The nearest number of the format. -/
def round (precision : Precision) (ratio : Ratio) : Rounded :=
  if ratio.numerator = 0 then ⟨0, 0, false, false⟩
  else
    let unit := max precision.finest (ratio.binaryMagnitude - (precision.bits - 1 : Nat))
    let measured := ratio.inBinaryUnits unit
    let nearest := measured.nearest
    let isCarried := nearest = Nat.pow 2 precision.bits
    let significand := if isCarried then nearest / 2 else nearest
    let power := if isCarried then unit + 1 else unit
    { significand
      power
      overflows := precision.bound < power + precision.bits
      underflows := nearest < Nat.pow 2 (precision.bits - 1)
        && measured.numerator % measured.denominator ≠ 0 }

/-- The hexadecimal digits of a number of the format, with as many places as are wanted, or else
as many as it has. -/
def hexadecimal (precision : Precision) (places? : Option Nat) (keepsPoint : Bool)
    (significand : Nat) (power : Int) : String :=
  let width := (precision.bits - precision.leading) / 4
  let places := places?.getD width
  let digits := (Ratio.mk (significand * Nat.pow 16 (places - width))
    (Nat.pow 16 (width - places))).nearest
  let before := digits / Nat.pow 16 places
  let after := Nat.toDigits 16 (digits % Nat.pow 16 places)
  let filled := List.replicate (places - after.length) '0' ++ after
  let shown :=
    if places = 0 then []
    else if places?.isSome then filled
    else (filled.reverse.dropWhile (· = '0')).reverse
  -- A digit that has grown too great gives four bits to the power.
  let (lead, carried) := if before < 16 then (before, 0) else (1, 4)
  let exponent : Int :=
    if significand = 0 then 0 else power + (precision.bits - precision.leading : Nat) + carried
  String.ofList (Nat.toDigits 16 lead) ++ (if shown.isEmpty && !keepsPoint then "" else ".")
    ++ String.ofList shown ++ "p" ++ (if exponent < 0 then "-" else "+")
    ++ toString exponent.natAbs

end Precision

end RpcEndpoint.Decimal
