import RpcEndpoint.Json.Numeral
import RpcEndpoint.Text.Utf8

/-!
# Reading JSON text

`parse` reads one value that fills the whole text. Arrays and objects may be nested to a fixed
depth. Loops run on the number of bytes that are left, which each round shortens.
-/

namespace RpcEndpoint.Json

/-- How many arrays and objects may enclose one another. -/
def nestingLimit : Nat := 127

namespace Reader

/-! ## Words and strings -/

/-- Reads the given bytes one by one. -/
def readWord : Bytes → Reader Unit
  | [] => pure ()
  | expected :: rest => do
    match ← nextByte with
    | none => failHere .endInValue
    | some byte => if byte = expected then readWord rest else failHere .expectedWord

/-- The number written by hexadecimal digits. -/
def hexNumber? : Bytes → Option Nat :=
  List.foldl (fun total digit => do pure (16 * (← total) + (← Bytes.hexValue? digit))) (some 0)

/-- Reads the four digits of a numeric escape. -/
def readHexEscape : Reader Nat := do
  let cursor ← get
  let digits := cursor.rest.take 4
  set (cursor.skip digits.length)
  if digits.length < 4 then failHere .endInString
  else
    match hexNumber? digits with
    | some code => pure code
    | none => failHere .invalidEscape

/-- Reads one byte of the mark that must follow a leading surrogate. -/
def readPairMark (expected : UInt8) : Reader Unit := do
  match ← nextByte with
  | none => failHere .endInString
  | some byte => if byte = expected then pure () else failHere .endOfHexEscape

/-- Reads a numeric escape after its mark: a code unit, or the two units of a surrogate pair. -/
def readNumericEscape : Reader Char := do
  let unit ← readHexEscape
  if 0xDC00 ≤ unit && unit ≤ 0xDFFF then failHere .loneSurrogate
  else if unit < 0xD800 || 0xDBFF < unit then pure (Char.ofNat unit)
  else
    readPairMark Bytes.backslash
    readPairMark 0x75
    let second ← readHexEscape
    if second < 0xDC00 || 0xDFFF < second then failHere .loneSurrogate
    else pure (Char.ofNat ((unit - 0xD800) * 0x400 + (second - 0xDC00) + 0x10000))

/-- Reads an escape after its backslash. -/
def readEscape : Reader Char := do
  match ← nextByte with
  | none => failHere .endInString
  | some 0x22 => pure '\"'
  | some 0x5C => pure '\\'
  | some 0x2F => pure '/'
  | some 0x62 => pure '\x08'
  | some 0x66 => pure '\x0c'
  | some 0x6E => pure '\n'
  | some 0x72 => pure '\r'
  | some 0x74 => pure '\t'
  | some 0x75 => readNumericEscape
  | some _ => failHere .invalidEscape

/-- Reads the content of a string up to and over its closing quote, escapes resolved. -/
def readContent : Nat → Reader Bytes
  | 0 => failHere .endInString
  | fuel + 1 => do
    match ← nextByte with
    | none => failHere .endInString
    | some byte =>
      if byte = Bytes.quote then pure []
      else if byte = Bytes.backslash then
        let character ← readEscape
        let rest ← readContent fuel
        pure (String.utf8EncodeChar character ++ rest)
      else if byte < 0x20 then failHere .controlCharacter
      else
        let rest ← readContent fuel
        pure (byte :: rest)

/-- Reads a string after its opening quote. Content that is not text is reported where its first
bad byte would stand if nothing in it were escaped. -/
def readText : Reader String := do
  let content ← readContent ((← remaining) + 1)
  match Utf8.text? content with
  | some text => pure text
  | none =>
    let position := (← get).position
    let column := position.column - (content.length - Utf8.faultIndex content)
    throw ⟨.malformed .invalidUnicode, some ⟨position.line, column⟩⟩

/-! ## Arrays and objects -/

/-- Looks for another item of an array. -/
def hasNextItem (first : Bool) : Reader Bool := do
  match ← peekVisible with
  | none => failAtNext .endInList
  | some 0x5D => pure false
  | some byte =>
    if first then pure true
    else if byte = 0x2C then
      skipByte
      match ← peekVisible with
      | some 0x5D => failAtNext .trailingComma
      | some _ => pure true
      | none => failAtNext .endInValue
    else failAtNext .expectedListCommaOrEnd

/-- Looks for another member of an object. -/
def hasNextKey (first : Bool) : Reader Bool := do
  match ← peekVisible with
  | none => failAtNext .endInObject
  | some 0x7D => pure false
  | some byte =>
    if first then
      if byte = Bytes.quote then pure true else failAtNext .keyMustBeString
    else if byte = 0x2C then
      skipByte
      match ← peekVisible with
      | some 0x22 => pure true
      | some 0x7D => failAtNext .trailingComma
      | some _ => failAtNext .keyMustBeString
      | none => failAtNext .endInValue
    else failAtNext .expectedObjectCommaOrEnd

/-- Reads the name of a member at its opening quote. -/
def readKey : Reader String := do
  skipByte
  readText

/-- Reads the colon between a name and its value. -/
def readColon : Reader Unit := do
  match ← peekVisible with
  | some 0x3A => skipByte
  | some _ => failAtNext .expectedColon
  | none => failAtNext .endInObject

/-- Closes an array. -/
def closeList : Reader Unit := do
  match ← peekVisible with
  | some 0x5D => skipByte
  | some 0x2C =>
    skipByte
    match ← peekVisible with
    | some 0x5D => failAtNext .trailingComma
    | _ => failAtNext .trailingCharacters
  | some _ => failAtNext .trailingCharacters
  | none => failAtNext .endInList

/-- Closes an object. -/
def closeObject : Reader Unit := do
  match ← peekVisible with
  | some 0x7D => skipByte
  | some 0x2C => failAtNext .trailingComma
  | some _ => failAtNext .trailingCharacters
  | none => failAtNext .endInObject

/-- Reads the items that are left in an array. -/
def readItems {α : Type} (item : Reader α) : Nat → Bool → Reader (List α)
  | 0, _ => pure []
  | fuel + 1, first => do
    if ← hasNextItem first then
      let head ← item
      let rest ← readItems item fuel false
      pure (head :: rest)
    else pure []

/-- Reads the members that are left in an object. -/
def readMembers {α : Type} (value : Reader α) : Nat → Bool → Reader (List (String × α))
  | 0, _ => pure []
  | fuel + 1, first => do
    if ← hasNextKey first then
      let name ← readKey
      readColon
      let head ← value
      let rest ← readMembers value fuel false
      pure ((name, head) :: rest)
    else pure []

/-- Reads an array at its opening bracket. -/
def readList {α : Type} (item : Reader α) : Reader (List α) := do
  skipByte
  let fuel ← remaining
  enclosed (readItems item (fuel + 1) true) closeList

/-- Reads an object at its opening brace. -/
def readObject {α : Type} (value : Reader α) : Reader (List (String × α)) := do
  skipByte
  let fuel ← remaining
  enclosed (readMembers value (fuel + 1) true) closeObject

/-! ## Values -/

/-- Reads a value whose items and members are read by `inner`; without it, none may be opened. -/
def readValueWith (inner : Option (Reader Value)) : Reader Value := do
  match ← peekVisible with
  | none => failAtNext .endInValue
  | some 0x6E => skipByte; readWord [0x75, 0x6C, 0x6C]; pure .null
  | some 0x74 => skipByte; readWord [0x72, 0x75, 0x65]; pure (.bool true)
  | some 0x66 => skipByte; readWord [0x61, 0x6C, 0x73, 0x65]; pure (.bool false)
  | some 0x2D => skipByte; return .number (← readNumber true)
  | some 0x22 => skipByte; return .string (← readText)
  | some 0x5B =>
    match inner with
    | none => failAtNext .nestingLimit
    | some item => return .array (← readList item)
  | some 0x7B =>
    match inner with
    | none => failAtNext .nestingLimit
    | some value => return .object (sortMembers (← readObject value))
  | some byte =>
    if Bytes.isDigit byte then return .number (← readNumber false)
    else failAtNext .expectedValue

/-- Reads a value that may open so many arrays and objects inside one another. -/
def readValue : Nat → Reader Value
  | 0 => readValueWith none
  | allowance + 1 => readValueWith (some (readValue allowance))

end Reader

/-- The value that a text holds. -/
def parse (bytes : Bytes) : Except Fault Value :=
  Reader.readAll (Reader.readValue nestingLimit) bytes

end RpcEndpoint.Json
