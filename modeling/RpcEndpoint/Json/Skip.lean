import RpcEndpoint.Json.Reader

/-!
# Reading over unwanted values

A value that nobody asked for is read over by a laxer scanner: it may be nested to any depth, its
strings need not be text, and its numbers may have any size.
-/

namespace RpcEndpoint.Json.Reader

/-! ## Scalars -/

/-- Reads over the digits at the front. -/
def skipDigits : Reader Unit := do
  let _ ← takeWhile Bytes.isDigit

/-- Reads over one digit, which must stand here. -/
def skipDigit : Reader Unit := do
  match ← nextByte with
  | some byte => if Bytes.isDigit byte then pure () else failHere .invalidNumber
  | none => failHere .invalidNumber

/-- Reads over an exponent at its mark. -/
def skipExponent : Reader Unit := do
  skipByte
  match ← peek with
  | some 0x2B | some 0x2D => skipByte
  | _ => pure ()
  skipDigit
  skipDigits

/-- Reads over an exponent if one follows. -/
def skipScale : Reader Unit := do
  match ← peek with
  | some 0x65 | some 0x45 => skipExponent
  | _ => pure ()

/-- Reads over a fraction, if one follows, and an exponent. -/
def skipFraction : Reader Unit := do
  match ← peek with
  | some 0x2E =>
    skipByte
    let digits ← takeWhile Bytes.isDigit
    if digits.isEmpty then failAtNext .invalidNumber else skipScale
  | _ => skipScale

/-- Reads over a number after its sign. -/
def skipNumber : Reader Unit := do
  match ← peek with
  | some 0x30 =>
    skipByte
    match (← peek).map Bytes.isDigit with
    | some true => failAtNext .invalidNumber
    | _ => skipFraction
  | _ =>
    skipDigit
    skipDigits
    skipFraction

/-- Reads over an escape after its backslash. -/
def skipEscape : Reader Unit := do
  match ← nextByte with
  | none => failHere .endInString
  | some 0x75 => let _ ← readHexEscape
  | some byte =>
    if [0x22, 0x5C, 0x2F, 0x62, 0x66, 0x6E, 0x72, 0x74].contains byte then pure ()
    else failHere .invalidEscape

/-- Reads over a string after its opening quote. -/
def skipContent : Nat → Reader Unit
  | 0 => failHere .endInString
  | fuel + 1 => do
    match ← peek with
    | none => failHere .endInString
    | some byte =>
      if byte < 0x20 then failHere .controlCharacter
      else
        skipByte
        if byte = Bytes.quote then pure ()
        else if byte = Bytes.backslash then
          skipEscape
          skipContent fuel
        else skipContent fuel

def skipText : Reader Unit := do
  skipContent ((← remaining) + 1)

/-! ## Nesting -/

/-- What encloses the place that is read. -/
inductive Enclosure where
  | list
  | object
deriving Repr, DecidableEq

/-- The closing bracket. -/
def Enclosure.closing : Enclosure → UInt8
  | .list => 0x5D
  | .object => 0x7D

/-- The fault of a text that ends inside. -/
def Enclosure.unclosed : Enclosure → Malformation
  | .list => .endInList
  | .object => .endInObject

/-- The fault of a value followed by neither a comma nor the closing bracket. -/
def Enclosure.unseparated : Enclosure → Malformation
  | .list => .expectedListCommaOrEnd
  | .object => .expectedObjectCommaOrEnd

/-- Reads over the name of a member and its colon. -/
def skipName : Reader Unit := do
  match ← peekVisible with
  | some 0x22 => skipByte
  | some _ => failAtNext .keyMustBeString
  | none => failAtNext .endInObject
  skipText
  readColon

/-- Reads over a scalar, or over the opening bracket of an enclosure. -/
def skipScalar : Reader (Option Enclosure) := do
  match ← peekVisible with
  | none => failAtNext .endInValue
  | some 0x6E => skipByte; readWord [0x75, 0x6C, 0x6C]; pure none
  | some 0x74 => skipByte; readWord [0x72, 0x75, 0x65]; pure none
  | some 0x66 => skipByte; readWord [0x61, 0x6C, 0x73, 0x65]; pure none
  | some 0x2D => skipByte; skipNumber; pure none
  | some 0x22 => skipByte; skipText; pure none
  | some 0x5B => skipByte; pure (some .list)
  | some 0x7B => skipByte; pure (some .object)
  | some byte =>
    if Bytes.isDigit byte then skipNumber; pure none
    else failAtNext .expectedValue

/-- Closes the enclosures that end here, up to the next place for a value. The answer is what still
encloses that place; nothing is left when the outermost one was closed. -/
def closeEnclosures : List Enclosure → Bool → Reader (List Enclosure)
  | [], _ => pure []
  | innermost :: outer, afterValue => do
    match ← peekVisible with
    | none => failAtNext innermost.unclosed
    | some byte =>
      if byte = innermost.closing then
        skipByte
        closeEnclosures outer true
      else
        if afterValue then
          if byte = 0x2C then skipByte else failAtNext innermost.unseparated
        if innermost = .object then skipName
        pure (innermost :: outer)

/-- Reads over values until every enclosure is closed. -/
def skipNested : Nat → List Enclosure → Reader Unit
  | 0, _ => pure ()
  | fuel + 1, enclosures => do
    let open? ← skipScalar
    let left ←
      match open? with
      | some opened => closeEnclosures (opened :: enclosures) false
      | none => closeEnclosures enclosures true
    if left.isEmpty then pure () else skipNested fuel left

/-- Reads over one value. -/
def skipValue : Reader Unit := do
  skipNested ((← remaining) + 1) []

end RpcEndpoint.Json.Reader
