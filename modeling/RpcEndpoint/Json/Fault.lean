import RpcEndpoint.Json.Printer
import RpcEndpoint.Text.Kind
import RpcEndpoint.Text.Quoted

/-!
# What can be wrong with JSON

A fault is a cause and, where the text is known, the position at which it shows. Causes fall into
malformed text and mismatches between a value and the shape that was asked for.
-/

namespace RpcEndpoint.Json

/-- A line, counted from one, and the number of bytes before the place on that line. -/
structure Position where
  line : Nat
  column : Nat
deriving Repr, DecidableEq

/-- The position after one more byte. -/
def Position.after (position : Position) (byte : UInt8) : Position :=
  if byte = Bytes.newline then ⟨position.line + 1, 0⟩ else ⟨position.line, position.column + 1⟩

/-- Ways in which a text is not JSON. -/
inductive Malformation where
  | endInList
  | endInObject
  | endInString
  | endInValue
  | expectedColon
  | expectedListCommaOrEnd
  | expectedObjectCommaOrEnd
  | expectedWord
  | expectedValue
  | invalidEscape
  | invalidNumber
  | numberOutOfRange
  | invalidUnicode
  | controlCharacter
  | keyMustBeString
  | loneSurrogate
  | trailingComma
  | trailingCharacters
  | endOfHexEscape
  | nestingLimit
deriving Repr, DecidableEq

/-- What stood where something else was wanted. -/
inductive Found where
  | null
  | bool (value : Bool)
  | integer (value : Int)
  | float (value : Float)
  | string (text : String)
  | sequence
  | map
deriving Repr

/-- Ways in which a value does not fit a shape. -/
inductive Mismatch where
  | wrongType (found : Found) (expected : String)
  | outOfRange (value : Int) (expected : String)
  | wrongLength (length : Nat) (expected : String)
  | missingField (name : String)
  | duplicateField (name : String)
  | unknownVariant (name : String) (expected : String)
  | noVariant (choice : String)
  /-- A refusal in the words of whoever refused. -/
  | refused (reason : String)
deriving Repr

inductive Cause where
  | malformed (malformation : Malformation)
  | mismatched (mismatch : Mismatch)
deriving Repr

/-- A cause and, if it is known, its position. -/
structure Fault where
  cause : Cause
  position : Option Position
deriving Repr

/-- The three families of faults: text that ends too soon, text that is not JSON, and JSON of the
wrong shape. -/
inductive Category where
  | truncated
  | malformed
  | mismatched
deriving Repr, DecidableEq

/-! ## Wording -/

def Malformation.message : Malformation → String
  | .endInList => "EOF while parsing a list"
  | .endInObject => "EOF while parsing an object"
  | .endInString => "EOF while parsing a string"
  | .endInValue => "EOF while parsing a value"
  | .expectedColon => "expected `:`"
  | .expectedListCommaOrEnd => "expected `,` or `]`"
  | .expectedObjectCommaOrEnd => "expected `,` or `\x7d`"
  | .expectedWord => "expected ident"
  | .expectedValue => "expected value"
  | .invalidEscape => "invalid escape"
  | .invalidNumber => "invalid number"
  | .numberOutOfRange => "number out of range"
  | .invalidUnicode => "invalid unicode code point"
  | .controlCharacter => "control character (\\u0000-\\u001F) found while parsing a string"
  | .keyMustBeString => "key must be a string"
  | .loneSurrogate => "lone leading surrogate in hex escape"
  | .trailingComma => "trailing comma"
  | .trailingCharacters => "trailing characters"
  | .endOfHexEscape => "unexpected end of hex escape"
  | .nestingLimit => "recursion limit exceeded"

def Found.message : Found → String
  | .null => "null"
  | .bool true => "boolean `true`"
  | .bool false => "boolean `false`"
  | .integer value => "integer `" ++ toString value ++ "`"
  | .float value => "floating point `" ++ Decimal.render floatLayout value ++ "`"
  | .string text => "string " ++ Text.quoted text
  | .sequence => "sequence"
  | .map => "map"

def Mismatch.message : Mismatch → String
  | .wrongType found expected => "invalid type: " ++ found.message ++ ", expected " ++ expected
  | .outOfRange value expected =>
    "invalid value: " ++ (Found.integer value).message ++ ", expected " ++ expected
  | .wrongLength length expected =>
    "invalid length " ++ toString length ++ ", expected " ++ expected
  | .missingField name => "missing field `" ++ name ++ "`"
  | .duplicateField name => "duplicate field `" ++ name ++ "`"
  | .unknownVariant name expected => "unknown variant `" ++ name ++ "`, expected " ++ expected
  | .noVariant choice => "data did not match any variant of untagged enum " ++ choice
  | .refused reason => reason

def Cause.message : Cause → String
  | .malformed malformation => malformation.message
  | .mismatched mismatch => mismatch.message

/-- The cause, followed by the position where it is known. -/
def Fault.message (fault : Fault) : String :=
  match fault.position with
  | none => fault.cause.message
  | some position =>
    fault.cause.message ++ " at line " ++ toString position.line ++ " column "
      ++ toString position.column

def Malformation.category : Malformation → Category
  | .endInList | .endInObject | .endInString | .endInValue => .truncated
  | _ => .malformed

def Fault.category (fault : Fault) : Category :=
  match fault.cause with
  | .malformed malformation => malformation.category
  | .mismatched _ => .mismatched

/-! ## Making faults -/

/-- A mismatch whose position is not known. -/
def Mismatch.fault (mismatch : Mismatch) : Fault :=
  ⟨.mismatched mismatch, none⟩

/-- The fault with a position, unless it has one already. -/
def Fault.placedAt (fault : Fault) (position : Position) : Fault :=
  { fault with position := fault.position.or (some position) }

/-- The last place where the mark begins in the text, as the text before it and the text after. -/
def splitAtLast (mark : List Char) : List Char → Option (List Char × List Char)
  | [] => none
  | head :: rest =>
    match splitAtLast mark rest with
    | some (before, after) => some (head :: before, after)
    | none =>
      if mark.isPrefixOf (head :: rest) then some ([], (head :: rest).drop mark.length) else none

/-- A text that ends in a position, taken apart. -/
def splitPosition? (text : List Char) : Option (List Char × Position) := do
  let (before, place) ← splitAtLast " at line ".toList text
  let lineDigits := place.takeWhile Char.isDigit
  let afterLine := place.dropWhile Char.isDigit
  let mark := " column ".toList
  if mark.isPrefixOf afterLine then
    let line ← Text.wordOfDigits? lineDigits
    let column ← Text.wordOfDigits? (afterLine.drop mark.length)
    some (before, ⟨line, column⟩)
  else none

/-- A refusal in given words. A position at the end of the words becomes the position of the fault;
line zero stands for no position. -/
def Fault.ofText (text : String) : Fault :=
  match splitPosition? text.toList with
  | some (before, position) =>
    ⟨.mismatched (.refused (String.ofList before)),
      if position.line = 0 then none else some position⟩
  | none => ⟨.mismatched (.refused text), none⟩

end RpcEndpoint.Json
