/-!
# Shortest decimals

A finite binary64 number is `significand * 2 ^ power`. The reals that round to it form an interval
whose ends belong to it exactly when the significand is even. `shortest` searches decimal grids
from one digit upwards and takes, on the first grid that meets the interval, the point nearest to
the number, an even last digit winning a tie.
-/

namespace RpcEndpoint.Decimal

/-- The magnitude of a finite binary64 number. -/
structure Binary where
  significand : Nat
  power : Int
  /-- The interval below the number is half as wide: it is the least of its binary range. -/
  narrowBelow : Bool

/-- The leading bit of a significand, which is not stored. -/
def hiddenBit : Nat := 0x10000000000000

/-- The magnitude of a binary64 number, read off its bits. -/
def Binary.ofFloat (value : Float) : Binary :=
  let bits : Nat := value.toBits.toNat
  let exponentField : Nat := bits / hiddenBit % 0x800
  let fraction : Nat := bits % hiddenBit
  if exponentField = 0 then { significand := fraction, power := -1074, narrowBelow := false }
  else
    { significand := hiddenBit + fraction
      power := (exponentField : Int) - 1075
      narrowBelow := fraction = 0 && exponentField > 1 }

/-- Whether the sign bit is set. -/
def isNegative (value : Float) : Bool :=
  value.toBits.toNat / 0x8000000000000000 = 1

/-- The number `coefficient * 10 ^ power`. -/
structure Scaled where
  coefficient : Nat
  power : Int
deriving Repr, DecidableEq

/-- How many decimal digits the number has. -/
def digitCount (number : Nat) : Nat :=
  (Nat.toDigits 10 number).length

/-- The positive rational `numerator / denominator`, with the ends of the interval that rounds to it
over the same denominator. -/
structure Target where
  lower : Nat
  numerator : Nat
  upper : Nat
  denominator : Nat
  closed : Bool

/-- The number and its interval as rationals, four units to the last place of the significand. -/
def Binary.target (binary : Binary) : Target :=
  let scale := binary.power - 2
  let up := Nat.pow 2 scale.toNat
  let middle := 4 * binary.significand
  { lower := (middle - if binary.narrowBelow then 1 else 2) * up
    numerator := middle * up
    upper := (middle + 2) * up
    denominator := Nat.pow 2 (-scale).toNat
    closed := binary.significand % 2 = 0 }

/-- The target measured in units of `10 ^ power`. -/
def Target.inUnits (target : Target) (power : Int) : Target :=
  let up := Nat.pow 10 (-power).toNat
  { target with
    lower := target.lower * up
    numerator := target.numerator * up
    upper := target.upper * up
    denominator := target.denominator * Nat.pow 10 power.toNat }

/-- Whether the whole number lies in the interval. -/
def Target.contains (target : Target) (point : Nat) : Bool :=
  let scaled := point * target.denominator
  if target.closed then target.lower ≤ scaled && scaled ≤ target.upper
  else target.lower < scaled && scaled < target.upper

/-- The power of ten of the leading digit. -/
def Target.magnitude (target : Target) : Int :=
  let estimate := (digitCount target.numerator : Int) - digitCount target.denominator
  let measured := target.inUnits estimate
  if measured.denominator ≤ measured.numerator then estimate else estimate - 1

/-- The whole number nearest to the target among its two neighbours that lie in the interval. -/
def Target.nearest? (target : Target) : Option Nat :=
  let below := target.numerator / target.denominator
  let above := below + 1
  match target.contains below, target.contains above with
  | false, false => none
  | true, false => some below
  | false, true => some above
  | true, true =>
    let down := target.numerator - below * target.denominator
    let up := above * target.denominator - target.numerator
    if down < up then some below
    else if up < down then some above
    else if below % 2 = 0 then some below else some above

/-- The number without trailing zeros in its coefficient. -/
def Scaled.strip (scaled : Scaled) : Nat → Scaled
  | 0 => scaled
  | fuel + 1 =>
    if scaled.coefficient % 10 = 0 && scaled.coefficient ≠ 0 then
      Scaled.strip ⟨scaled.coefficient / 10, scaled.power + 1⟩ fuel
    else scaled

/-- The first hit on the grids of `digits`, `digits + 1`, … significant digits. -/
def Target.search (target : Target) (magnitude : Int) (digits : Nat) : Nat → Scaled
  | 0 => ⟨0, 0⟩
  | fuel + 1 =>
    let power := magnitude - (digits - 1 : Int)
    match (target.inUnits power).nearest? with
    | some point => Scaled.strip ⟨point, power⟩ 20
    | none => target.search magnitude (digits + 1) fuel

/-- The shortest decimal that reads back as the number, nearest to it among those; seventeen digits
always suffice. -/
def shortest (value : Float) : Scaled :=
  let binary := Binary.ofFloat value
  if binary.significand = 0 then ⟨0, 0⟩
  else
    let target := binary.target
    target.search target.magnitude 1 17

/-- Where a number format changes from positional to scientific notation. -/
structure Layout where
  leastPositional : Int
  greatestPositional : Int

/-- The digits with a decimal point, at least one digit on either side of it. -/
def positional (digits : List Char) (leading : Int) : String :=
  if leading < 0 then
    "0." ++ String.ofList (List.replicate (-leading - 1).toNat '0' ++ digits)
  else
    let whole := leading.toNat + 1
    if digits.length ≤ whole then
      String.ofList (digits ++ List.replicate (whole - digits.length) '0') ++ ".0"
    else
      String.ofList (digits.take whole) ++ "." ++ String.ofList (digits.drop whole)

/-- The digits with one before the point, and a signed exponent. -/
def scientific (digits : List Char) (leading : Int) : String :=
  let mantissa :=
    match digits with
    | first :: second :: more => String.ofList (first :: '.' :: second :: more)
    | short => String.ofList short
  let mark := if leading < 0 then "e-" else "e+"
  mantissa ++ mark ++ toString leading.natAbs

/-- The text of a finite number. -/
def render (style : Layout) (value : Float) : String :=
  let decimal := shortest value
  let digits := Nat.toDigits 10 decimal.coefficient
  let leading := decimal.power + (digits.length - 1 : Int)
  let magnitude :=
    if style.leastPositional ≤ leading && leading ≤ style.greatestPositional then
      positional digits leading
    else scientific digits leading
  if isNegative value then "-" ++ magnitude else magnitude

end RpcEndpoint.Decimal
