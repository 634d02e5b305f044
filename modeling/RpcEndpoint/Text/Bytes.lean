/-!
# Byte strings

A byte string is a list of bytes. It comes from a text by its encoding, may be taken for a text of
its own, and may be cut into pieces of one size.
-/

namespace RpcEndpoint

/-! ## Bytes

A byte string is a list of bytes. Text enters it through its UTF-8 encoding. -/

/-- A byte string. -/
abbrev Bytes := List UInt8

/-- The UTF-8 encoding of a text. -/
def encodeText (text : String) : Bytes :=
  text.toByteArray.data.toList

namespace Bytes

def newline : UInt8 := 0x0A

def quote : UInt8 := 0x22

def backslash : UInt8 := 0x5C

/-- Whether the byte is an ASCII decimal digit. -/
def isDigit (byte : UInt8) : Bool :=
  0x30 ≤ byte && byte ≤ 0x39

/-- The value of a decimal digit. -/
def digitValue (byte : UInt8) : Nat :=
  byte.toNat - 0x30

/-- The value of a hexadecimal digit in either case. -/
def hexValue? (byte : UInt8) : Option Nat :=
  if isDigit byte then some (digitValue byte)
  else if 0x41 ≤ byte && byte ≤ 0x46 then some (byte.toNat - 0x41 + 10)
  else if 0x61 ≤ byte && byte ≤ 0x66 then some (byte.toNat - 0x61 + 10)
  else none

/-- One lower-case hexadecimal digit. -/
def hexDigit (value : Nat) : Char :=
  if value < 10 then Char.ofNat (0x30 + value) else Char.ofNat (0x61 + (value - 10))

end Bytes

/-- The number as lower-case hexadecimal digits, without leading zeros. -/
def hexNumeral (value : Nat) : String :=
  String.ofList (Nat.toDigits 16 value)

/-! ## Pieces -/

/-- A list in pieces of a size, which is at least one. The last piece may be shorter. -/
def pieces {α : Type} (size : Nat) (things : List α) : List (List α) :=
  match things with
  | [] => []
  | first :: rest =>
    (first :: rest.take (size - 1)) :: pieces size (rest.drop (size - 1))
termination_by things.length

/-- Nothing is lost by cutting. -/
theorem flatten_pieces {α : Type} (size : Nat) (things : List α) :
    (pieces size things).flatten = things := by
  fun_induction pieces size things with
  | case1 => rfl
  | case2 first rest ih => simp [ih]

end RpcEndpoint

namespace RpcEndpoint.Octets

/-! ## Octet texts

A byte string as a text: each character stands for the byte of its code. Programs that work on
bytes but give a meaning to some of them are written over such texts. -/

/-- The text whose characters are these bytes. -/
def ofBytes (bytes : Bytes) : String :=
  String.ofList (bytes.map fun byte => Char.ofNat byte.toNat)

/-- The bytes of a text, one for each character. -/
def toBytes (text : String) : Bytes :=
  text.toList.map fun character => character.toNat.toUInt8

/-- The UTF-8 encoding of any text, as an octet text. -/
def ofText (text : String) : String :=
  ofBytes (encodeText text)

end RpcEndpoint.Octets
