import RpcEndpoint.Json.Cursor

/-!
# Numbers in JSON text

Digits accumulate in a 64-bit significand while it fits; what comes later only moves the decimal
point. The value of a float is the significand, rounded once, times or divided by one power of ten.
-/

namespace RpcEndpoint.Json

/-- The first significand that does not fit. -/
def significandBound : Nat := 0x10000000000000000

/-- The first exponent that does not fit. -/
def exponentBound : Nat := 0x80000000

/-- Appends digits to a number while the result stays below the bound; the digits that are left over
begin with the first one that would not fit. -/
def absorbDigits (bound total : Nat) : Bytes → Nat × Bytes
  | [] => (total, [])
  | digit :: rest =>
    let next := 10 * total + Bytes.digitValue digit
    if next < bound then absorbDigits bound next rest else (total, digit :: rest)

/-- A power of ten, rounded to binary64. -/
def powerOfTen (exponent : Nat) : Float :=
  Float.ofScientific 1 false exponent

/-- The greatest power of ten below the greatest binary64 number. -/
def greatestPower : Nat := 308

/-- `value * 10 ^ exponent`, or nothing if that is too large. -/
def scaleFloat? (value : Float) (exponent : Int) : Option Float :=
  if exponent.natAbs ≤ greatestPower then
    if 0 ≤ exponent then
      let product := value * powerOfTen exponent.toNat
      if product.isInf then none else some product
    else some (value / powerOfTen (-exponent).toNat)
  else if value == 0 then some value
  else if 0 ≤ exponent then none
  else scaleFloat? (value / powerOfTen greatestPower) (exponent + greatestPower)
termination_by (-exponent).toNat
decreasing_by
  simp only [greatestPower] at *
  omega

namespace Reader

/-- The number, with a minus sign if it is negative. -/
def signed (negative : Bool) (magnitude : Float) : Float :=
  if negative then -magnitude else magnitude

/-- The float `significand * 10 ^ exponent`. -/
def floatOfParts (negative : Bool) (significand : Nat) (exponent : Int) : Reader Number :=
  match scaleFloat? significand.toUInt64.toFloat exponent with
  | some magnitude => pure (.float (signed negative magnitude))
  | none => failHere .numberOutOfRange

/-- Reads an exponent after its mark. -/
def readExponent (negative : Bool) (significand : Nat) (start : Int) : Reader Number := do
  skipByte
  let down ← do
    match ← peek with
    | some 0x2B => skipByte; pure false
    | some 0x2D => skipByte; pure true
    | _ => pure false
  match (← peek).map Bytes.isDigit with
  | none => failHere .endInValue
  | some false => skipByte; failHere .invalidNumber
  | some true =>
    let cursor ← get
    let digits ← takeWhile Bytes.isDigit
    let (exponent, surplus) := absorbDigits exponentBound 0 digits
    if surplus.isEmpty then
      floatOfParts negative significand (if down then start - exponent else start + exponent)
    else if significand ≠ 0 && !down then
      set (cursor.skip (digits.length - surplus.length + 1))
      failHere .numberOutOfRange
    else pure (.float (signed negative 0.0))

/-- Reads an exponent if one follows. -/
def readScale (negative : Bool) (significand : Nat) (exponent : Int) : Reader Number := do
  match ← peek with
  | some 0x65 | some 0x45 => readExponent negative significand exponent
  | _ => floatOfParts negative significand exponent

/-- Reads a fraction at its point. -/
def readFraction (negative : Bool) (significand : Nat) (exponent : Int) : Reader Number := do
  skipByte
  let digits ← takeWhile Bytes.isDigit
  if digits.isEmpty then
    match ← peek with
    | some _ => failAtNext .invalidNumber
    | none => failAtNext .endInValue
  else
    let (significand, surplus) := absorbDigits significandBound significand digits
    readScale negative significand (exponent - (digits.length - surplus.length : Nat))

/-- The number of a run of digits that fits the significand. -/
def wholeNumber (negative : Bool) (significand : Nat) : Number :=
  let value : Int := if negative then -significand else significand
  match Integer.ofInt? value with
  | some integer =>
    if negative && significand = 0 then .float (-0.0) else .integer integer
  | none => .float (signed negative significand.toUInt64.toFloat)

/-- Reads a number after its sign. -/
def readNumber (negative : Bool) : Reader Number := do
  match ← peek with
  | none => failHere .endInValue
  | some first =>
    if !Bytes.isDigit first then
      skipByte
      failHere .invalidNumber
    else if first = 0x30 then
      skipByte
      match ← peek with
      | some 0x2E => readFraction negative 0 0
      | some 0x65 | some 0x45 => readExponent negative 0 0
      | some second =>
        if Bytes.isDigit second then failAtNext .invalidNumber
        else pure (wholeNumber negative 0)
      | none => pure (wholeNumber negative 0)
    else
      let digits ← takeWhile Bytes.isDigit
      let (significand, surplus) := absorbDigits significandBound 0 digits
      match ← peek with
      | some 0x2E => readFraction negative significand surplus.length
      | some 0x65 | some 0x45 => readExponent negative significand surplus.length
      | _ =>
        if surplus.isEmpty then pure (wholeNumber negative significand)
        else floatOfParts negative significand surplus.length

end Reader

end RpcEndpoint.Json
