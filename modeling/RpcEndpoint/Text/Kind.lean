/-!
# Kinds of characters

The white space of all scripts, decimal digits, and the kinds of ASCII characters that programs know
by name.
-/

namespace RpcEndpoint.Text

/-! ## Blank characters

The Unicode white space characters, and texts with the white space at their ends removed. -/

/-- The characters with the Unicode property White_Space. -/
def isBlank (character : Char) : Bool :=
  let code := character.toNat
  (0x09 ≤ code && code ≤ 0x0D) || code = 0x20 || code = 0x85 || code = 0xA0 || code = 0x1680 ||
    (0x2000 ≤ code && code ≤ 0x200A) || code = 0x2028 || code = 0x2029 || code = 0x202F ||
    code = 0x205F || code = 0x3000

theorem isBlank_of_isWhitespace {character : Char} (ascii : character.isWhitespace = true) :
    isBlank character = true := by
  simp only [Char.isWhitespace, Bool.or_eq_true, decide_eq_true_eq] at ascii
  rcases ascii with ((rfl | rfl) | rfl) | rfl <;> decide

/-- The text without the white space at its end. -/
def trimEnd (text : List Char) : List Char :=
  (text.reverse.dropWhile isBlank).reverse

/-- The text without the white space at either end. -/
def trim (text : List Char) : List Char :=
  trimEnd (text.dropWhile isBlank)

/-! ## Decimal numerals

Numbers as they are written by decimal digits, limited to those that fit a machine word. -/

/-- The first number that does not fit a machine word. -/
def wordBound : Nat := 0x10000000000000000

/-- The number that decimal digits write. -/
def digitsValue (digits : List Char) : Nat :=
  digits.foldl (fun total digit => 10 * total + (digit.toNat - '0'.toNat)) 0

/-- The word that one or more decimal digits write. -/
def wordOfDigits? (digits : List Char) : Option Nat :=
  if digits.isEmpty || !digits.all Char.isDigit then none
  else if digitsValue digits < wordBound then some (digitsValue digits)
  else none

end RpcEndpoint.Text

namespace RpcEndpoint.Kind

/-! ## Kinds of characters

The kinds of ASCII characters that programs know by name. What lies beyond ASCII is of no kind. -/

/-- Blanks, and what moves to another place or line. -/
def isSpace (character : Char) : Bool :=
  [' ', '\t', '\n', '\r', '\x0b', '\x0c'].contains character

/-- What can be seen. -/
def isVisible (character : Char) : Bool :=
  '!' ≤ character && character ≤ '~'

def isPunctuation (character : Char) : Bool :=
  isVisible character && !character.isAlphanum

/-- What names in programs are made of. -/
def isWord (character : Char) : Bool :=
  character.isAlphanum || character = '_'

def isHexadecimal (character : Char) : Bool :=
  character.isDigit || 'a' ≤ character && character ≤ 'f' || 'A' ≤ character && character ≤ 'F'

/-- The kind of a name. -/
def named? (name : String) : Option (Char → Bool) :=
  match name with
  | "alpha" => some Char.isAlpha
  | "digit" => some Char.isDigit
  | "alnum" => some Char.isAlphanum
  | "upper" => some Char.isUpper
  | "lower" => some Char.isLower
  | "punct" => some isPunctuation
  | "space" => some isSpace
  | "blank" => some fun character => character = ' ' || character = '\t'
  | "cntrl" => some fun character => character < ' ' || character = '\x7f'
  | "print" => some fun character => character = ' ' || isVisible character
  | "graph" => some isVisible
  | "xdigit" => some isHexadecimal
  | _ => none

end RpcEndpoint.Kind
