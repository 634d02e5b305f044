import RpcEndpoint.Process.Program.Filter
import RpcEndpoint.Text.Bytes

/-!
# Bytes in few characters

Bytes are written with characters that stand for five or six bits each, in groups of bytes that
take a whole number of characters.
-/

namespace RpcEndpoint.Program.Encoding

/-! ## Alphabets -/

/-- The characters from one to another. -/
def between (first last : Char) : List Char :=
  (List.range (last.toNat - first.toNat + 1)).map fun offset => Char.ofNat (first.toNat + offset)

/-- Characters with the numbers of bits that each of them stands for, of bytes in a group and of
characters in a group. -/
structure Alphabet where
  characters : List Char
  bits : Nat
  bytes : Nat
  size : Nat

/-- Sixty-four characters. -/
def sixBit : Alphabet :=
  ⟨between 'A' 'Z' ++ between 'a' 'z' ++ between '0' '9' ++ ['+', '/'], 6, 3, 4⟩

/-- Thirty-two characters. -/
def fiveBit : Alphabet :=
  ⟨between 'A' 'Z' ++ between '2' '7', 5, 5, 8⟩

/-- How many characters are needed for some bytes of a group. -/
def Alphabet.needed (alphabet : Alphabet) (bytes : Nat) : Nat :=
  (8 * bytes + alphabet.bits - 1) / alphabet.bits

/-- The characters of a group, with signs of equality for those that are not needed. -/
def Alphabet.group (alphabet : Alphabet) (bytes : List Char) : List Char :=
  let number := (List.range alphabet.bytes).foldl (fun sum index =>
    sum * 256 + ((bytes[index]?).map Char.toNat).getD 0) 0
  let base := Nat.pow 2 alphabet.bits
  (List.range alphabet.size).map fun place =>
    if place < alphabet.needed bytes.length then
      alphabet.characters.getD
        (number / Nat.pow base (alphabet.size - 1 - place) % base) 'A'
    else '='

/-- Characters for the bytes of an octet text. -/
def Alphabet.encode (alphabet : Alphabet) (text : List Char) : List Char :=
  (pieces alphabet.bytes text).flatMap alphabet.group

/-- The bytes of a group of characters, if it is one. -/
def Alphabet.bytes? (alphabet : Alphabet) (group : List Char) : Option (List Char) := do
  let meant := group.takeWhile (· ≠ '=')
  if !((group.drop meant.length).all (· = '=')) || group.length ≠ alphabet.size then none
  let count := meant.length * alphabet.bits / 8
  if meant.isEmpty || alphabet.needed count ≠ meant.length then none
  let values ← meant.mapM fun character => alphabet.characters.idxOf? character
  let base := Nat.pow 2 alphabet.bits
  let number := (List.range alphabet.size).foldl (fun sum index =>
    sum * base + values.getD index 0) 0
  return (List.range count).map fun place =>
    Char.ofNat (number / Nat.pow 256 (alphabet.bytes - 1 - place) % 256)

/-- The bytes that groups of characters stand for, and whether there is nothing wrong. -/
def Alphabet.decodeGroups (alphabet : Alphabet) : List (List Char) → List Char × Bool
  | [] => ([], true)
  | group :: rest =>
    match alphabet.bytes? group with
    | some bytes =>
      let (others, isRight) := alphabet.decodeGroups rest
      (bytes ++ others, isRight)
    | none =>
      -- What is right at the front of a wrong group counts.
      let meant := group.takeWhile alphabet.characters.contains
      let count := meant.length * alphabet.bits / 8
      let whole := meant.take (alphabet.needed count)
      let filled := whole ++ List.replicate (alphabet.size - whole.length) '='
      ((alphabet.bytes? filled).getD [], false)

/-- The bytes that characters stand for, and whether there is nothing wrong. -/
def Alphabet.decode (alphabet : Alphabet) (characters : List Char) : List Char × Bool :=
  alphabet.decodeGroups (pieces alphabet.size characters)

/-! ## The programs -/

/-- A text in lines of a width; zero means that it stays as it is. -/
def wrapped (width : Nat) (text : List Char) : String :=
  if width = 0 then String.ofList text
  else String.join ((pieces width text).map fun line => String.ofList line ++ "\n")

/-- The program for an alphabet. -/
def program (alphabet : Alphabet) : Program := fun name arguments surroundings =>
  withCall name {
    plain := "di"
    taking := "w"
    long := [("decode", 'd'), ("ignore-garbage", 'i'), ("wrap", 'w')] }
    arguments fun call =>
    let operand := call.operands.headD "-"
    let written := (call.argument? 'w').getD "76"
    match written.toNat?, call.operands with
    | none, _ => fail name ("invalid wrap size: '" ++ written ++ "'") 1
    | _, _ :: extra :: _ => failUse name ("extra operand '" ++ extra ++ "'")
    | some width, _ =>
      let lament (fault : SystemFault) : Task :=
        fail name (plainLament (quotedIfNeeded operand) fault) 1
      openOperand surroundings.directory operand fun
        | .error fault => lament fault
        | .ok file => readAll file (fun
          | .error fault => fail name ("read error: " ++ fault.message) 1
          | .ok text =>
            if call.has 'd' then
              let isKept (character : Char) : Bool :=
                if call.has 'i' then character = '=' || alphabet.characters.contains character
                else character ≠ '\n'
              let (bytes, isRight) := alphabet.decode (text.toList.filter isKept)
              put name (String.ofList bytes)
                (if isRight then .exitWith 0 else fail name "invalid input" 1)
            else putAndExit name (wrapped width (alphabet.encode text.toList)) 0) patience ""

end RpcEndpoint.Program.Encoding
