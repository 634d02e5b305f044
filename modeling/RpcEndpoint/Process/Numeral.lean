import RpcEndpoint.Decimal.Precision
import RpcEndpoint.Text.Kind

/-!
# Numbers and quantities in arguments

Numbers as they are written in arguments, by themselves and with a unit.
-/

namespace RpcEndpoint.Numeral

/-! ## Numbers in arguments

Whole numbers are octal, decimal or hexadecimal, as their first digits tell. Other numbers may have
a point and an exponent, and some are infinite or no numbers at all. -/

/-! ### Digits -/

def isOctal (character : Char) : Bool :=
  '0' ≤ character && character ≤ '7'

def digitValue (character : Char) : Nat :=
  character.toNat - '0'.toNat

/-- The value of a digit of a base up to sixteen. -/
def digitOf? (base : Nat) (character : Char) : Option Nat :=
  let value? :=
    if character.isDigit then some (digitValue character)
    else if 'a' ≤ character && character ≤ 'f' then some (character.toNat - 'a'.toNat + 10)
    else if 'A' ≤ character && character ≤ 'F' then some (character.toNat - 'A'.toNat + 10)
    else none
  value?.filter (· < base)

/-- Reads digits of a base, so many at the most. -/
def readDigits (base : Nat) : Nat → Nat → List Char → Nat × List Char
  | 0, value, rest => (value, rest)
  | _, value, [] => (value, [])
  | more + 1, value, character :: rest =>
    match digitOf? base character with
    | some digit => readDigits base more (base * value + digit) rest
    | none => (value, character :: rest)

/-! ### Whole numbers -/

/-- How a text is read as a number. -/
inductive Reading where
  | whole (value : Int)
  /-- There is something behind the number. -/
  | partly (value : Int)
  | nothing
deriving Repr, DecidableEq

/-- Reads the digits of a number behind its sign. The first ones tell the base. -/
def readMagnitude (characters : List Char) : Option (Nat × List Char) :=
  match characters with
  | '0' :: mark :: digit :: rest =>
    if (mark = 'x' || mark = 'X') && (digitOf? 16 digit).isSome then
      some (readDigits 16 characters.length 0 (digit :: rest))
    else some (readDigits 8 characters.length 0 characters)
  | '0' :: _ => some (readDigits 8 characters.length 0 characters)
  | first :: _ =>
    if first.isDigit then some (readDigits 10 characters.length 0 characters) else none
  | [] => none

/-- Reads a number from an argument. -/
def readNumber (argument : String) : Reading :=
  if argument.isEmpty then .whole 0
  else
    let visible := argument.toList.dropWhile Char.isWhitespace
    let (negative, digits) := match visible with
      | '-' :: digits => (true, digits)
      | '+' :: digits => (false, digits)
      | digits => (false, digits)
    match readMagnitude digits with
    | none => .nothing
    | some (magnitude, rest) =>
      let value : Int := if negative then -magnitude else magnitude
      if rest.isEmpty then .whole value else .partly value

/-! ### Other numbers -/

/-- A number, apart from its sign. -/
inductive Magnitude where
  /-- `significand * base ^ exponent`. -/
  | finite (significand base : Nat) (exponent : Int)
  | infinite
  /-- Not a number. -/
  | none
deriving Repr, DecidableEq

/-- A number with a sign. -/
structure Signed where
  negative : Bool
  magnitude : Magnitude
deriving Repr, DecidableEq

/-- Reads an exponent of ten or two behind its mark, if there is one. -/
def readExponent (marks : List Char) (characters : List Char) : Int × List Char :=
  match characters with
  | mark :: rest =>
    let (negative, digits) := match rest with
      | '-' :: digits => (true, digits)
      | '+' :: digits => (false, digits)
      | digits => (false, digits)
    if marks.contains mark && digits.head?.any Char.isDigit then
      let (value, rest) := readDigits 10 digits.length 0 digits
      (if negative then -value else value, rest)
    else (0, characters)
  | [] => (0, [])

/-- Reads digits of a base with a point among them; gives their value, how many of them stand
behind the point and how many there are. -/
def readPointed (base : Nat) (characters : List Char) : Nat × Nat × Nat × List Char :=
  let (whole, rest) := readDigits base characters.length 0 characters
  let wholeCount := characters.length - rest.length
  match rest with
  | '.' :: part =>
    let (value, after) := readDigits base part.length whole part
    let count := part.length - after.length
    if wholeCount + count = 0 then (0, 0, 0, characters)
    else (value, count, wholeCount + count, after)
  | _ => (whole, 0, wholeCount, rest)

/-- Reads the beginning of a text that is one of some words, in any case. -/
def readWord? (words : List String) (characters : List Char) : Option (List Char) :=
  (words.find? fun word =>
    (characters.take word.length).map Char.toLower = word.toList).map fun word =>
      characters.drop word.length

/-- Reads a number behind its sign. -/
def readReal? (characters : List Char) : Option (Magnitude × List Char) :=
  let decimal : Option (Magnitude × List Char) :=
    let (value, places, count, rest) := readPointed 10 characters
    if count = 0 then none
    else
      let (exponent, rest) := readExponent ['e', 'E'] rest
      some (.finite value 10 (exponent - places), rest)
  let hexadecimal : Option (Magnitude × List Char) :=
    match characters with
    | '0' :: mark :: digits =>
      let (value, places, count, rest) := readPointed 16 digits
      if (mark = 'x' || mark = 'X') && 0 < count then
        let (exponent, rest) := readExponent ['p', 'P'] rest
        some (.finite value 2 (exponent - 4 * places), rest)
      else none
    | _ => none
  (hexadecimal.or decimal).or <|
    ((readWord? ["infinity", "inf"] characters).map fun rest => (.infinite, rest)).or
      ((readWord? ["nan"] characters).map fun rest => (.none, rest))

/-- Reads a number from the beginning of a text; gives what stands behind it. -/
def readSigned? (text : String) : Option (Signed × List Char) :=
  let visible := text.toList.dropWhile Kind.isSpace
  let (negative, characters) := match visible with
    | '-' :: rest => (true, rest)
    | '+' :: rest => (false, rest)
    | rest => (false, rest)
  (readReal? characters).map fun (magnitude, rest) => (⟨negative, magnitude⟩, rest)

/-- The greatest power of ten that any number is measured by. -/
def greatestPower : Int := 5000

/-- The number as a ratio; one that is too great has none. -/
def Magnitude.ratio? : Magnitude → Option Decimal.Ratio
  | .finite significand base exponent =>
    -- Three powers of ten are about ten powers of two.
    let power := (Decimal.digitCount significand : Int)
      + (if base = 10 then exponent else exponent * 3 / 10)
    if significand = 0 || power < -greatestPower then some ⟨0, 1⟩
    else if greatestPower < power then Option.none
    else
      some ⟨significand * Nat.pow base exponent.toNat, Nat.pow base (-exponent).toNat⟩
  | _ => Option.none

/-- The nearest number of a binary format, and whether it is out of the range of the format. -/
def Signed.rounded (precision : Decimal.Precision) (real : Signed) : Signed × Bool :=
  match real.magnitude with
  | .finite significand _ _ =>
    match real.magnitude.ratio? with
    | none => (⟨real.negative, .infinite⟩, true)
    | some ratio =>
      let rounded := precision.round ratio
      if rounded.overflows then (⟨real.negative, .infinite⟩, true)
      else
        (⟨real.negative, .finite rounded.significand 2 rounded.power⟩,
          rounded.underflows || ratio.numerator = 0 && significand ≠ 0)
  | _ => (real, false)

end RpcEndpoint.Numeral

namespace RpcEndpoint

/-! ## Quantities

A quantity is a whole number with a letter for its unit. Most units are powers of 1024, or of 1000
if a `B` stands behind the letter; a letter by itself is one of its unit. -/

/-- A number of units, and what stands behind it that is no part of it. -/
structure Quantity where
  amount : Nat
  rest : List Char
deriving Repr, DecidableEq

/-- What is wrong with a quantity as it is written. -/
inductive Quantity.Fault where
  | notNumber
  | wrongUnit
  | tooLarge
deriving Repr, DecidableEq

namespace Quantity

/-- The greatest quantity. -/
def limit : Nat := 0xFFFFFFFFFFFFFFFF

/-- The letters of units that are powers. -/
def powers : List (Char × Nat) :=
  [('k', 1), ('K', 1), ('m', 2), ('M', 2), ('g', 3), ('G', 3), ('t', 4), ('T', 4), ('P', 5),
    ('E', 6), ('Z', 7), ('Y', 8), ('R', 9), ('Q', 10)]

/-- The letters of other units. -/
def others : List (Char × Nat) :=
  [('b', 512), ('B', 1024), ('c', 1), ('w', 2)]

/-- The size of the unit at the front, if it is one of some letters, and what stands behind it. -/
def readUnit (letters : String) (characters : List Char) : Nat × List Char :=
  match characters with
  | [] => (1, [])
  | letter :: rest =>
    if !letters.contains letter then (1, characters)
    else
      match powers.lookup letter, others.lookup letter, rest with
      | some power, _, 'i' :: 'B' :: after => (Nat.pow 1024 power, after)
      | some power, _, 'B' :: after | some power, _, 'D' :: after => (Nat.pow 1000 power, after)
      | some power, _, _ => (Nat.pow 1024 power, rest)
      | none, some size, _ => (size, rest)
      | none, none, _ => (1, characters)

/-- Reads a quantity in units of some letters. With the flag the first digits of the number tell
its base. -/
def parse? (letters : String) (anyBase : Bool) (written : String) : Option Quantity :=
  let visible := written.toList.dropWhile Kind.isSpace
  let digits := match visible with
    | '+' :: digits => digits
    | digits => digits
  let number? :=
    if anyBase then Numeral.readMagnitude digits
    else if digits.head?.any Char.isDigit then
      some (Numeral.readDigits 10 digits.length 0 digits)
    else none
  match number? with
  | some (number, rest) =>
    let (size, rest) := readUnit letters rest
    some ⟨number * size, rest⟩
  | none =>
    if written.toList.head?.any fun first => letters.contains first then
      let (size, rest) := readUnit letters written.toList
      some ⟨size, rest⟩
    else none

/-- Reads a quantity behind which there is nothing. -/
def read (letters : String) (anyBase : Bool) (written : String) : Except Fault Nat :=
  match parse? letters anyBase written with
  | none => .error .notNumber
  | some ⟨amount, rest⟩ =>
    if !rest.isEmpty then .error .wrongUnit
    else if limit < amount then .error .tooLarge
    else .ok amount

/-- The letters of the units that most programs know. -/
def usualUnits : String := "bkKmMGTPEZYRQ"

end Quantity

end RpcEndpoint
