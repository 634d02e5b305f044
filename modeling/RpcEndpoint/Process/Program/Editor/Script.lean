import RpcEndpoint.Process.Expression.Reader

/-!
# Scripts

The edits that a script is made of, and how what a script says is read character by character.
-/

namespace RpcEndpoint.Editor

/-! ## Scripts that edit lines

A script is a row of edits, each of which may be meant for some lines only. It is carried out for
one line after another. -/

/-- Which line is meant. -/
inductive Address where
  | line (number : Nat)
  | last
  /-- A line in which the expression is found; without one, the expression that was used last. -/
  | having (expression : Option Expression)
  /-- Every so many lines from one on. -/
  | step (first width : Nat)

/-- Where a range of lines ends. -/
inductive Limit where
  | address (address : Address)
  /-- So many lines after the first one. -/
  | count (lines : Nat)
  /-- At the next line whose number is a multiple. -/
  | multiple (width : Nat)

/-- A part of what is put in the place of something. -/
inductive Piece where
  | text (text : String)
  /-- What a group has matched. -/
  | group (number : Nat)
  /-- From here on letters are capital or small. -/
  | shift (change : Char → Char)
  /-- The next letter is capital or small. -/
  | shiftNext (change : Char → Char)

/-- What is put in the place of what. -/
structure Substitution where
  expression : Option Expression
  replacement : List Piece
  /-- Whether all that is found later is replaced as well. -/
  all : Bool
  /-- Which one of what is found is replaced first. -/
  number : Nat
  prints : Bool
  /-- The file to which the line is written then. -/
  file? : Option String

/-- What an edit does. -/
inductive Action where
  /-- Comes before so many edits that are meant for the same lines. -/
  | block (length : Nat)
  | nothing
  | substitute (substitution : Substitution)
  | replace (table : List (Char × Char))
  | print
  | printFirst
  | delete
  | deleteFirst
  | quit (code : Nat) (prints : Bool)
  | tellNumber
  /-- Puts out the text so that nothing in it is invisible. The width may be given. -/
  | reveal (width? : Option Nat)
  /-- Puts out the name of the file that is read. -/
  | tellFile
  /-- Puts out a file behind the line. -/
  | readFile (path : String)
  /-- Puts out the next line of a file behind the line. -/
  | readLine (path : String)
  /-- Writes the line to a file, or only what stands in front of its first line end. -/
  | writeFile (path : String) (isFirst : Bool)
  | next
  | join
  | append (text : String)
  | insert (text : String)
  | change (text : String)
  | hold
  | holdMore
  | fetch
  | fetchMore
  | exchange
  | clear
  /-- Goes on at a label or at the end; with a flag, only if something was replaced or not. -/
  | jump (label : String) (ifReplaced : Option Bool)
  | label (name : String)

/-- An action, and the lines that it is meant for. -/
structure Edit where
  first : Option Address
  limit : Option Limit
  negated : Bool
  action : Action

/-! ## Reading a script

A script is read character by character. What is wrong with it is told with the number of
characters that have been read. -/

/-- A script on its way. -/
structure Draft where
  rest : List Char
  /-- How many characters have been read. -/
  position : Nat

/-- What is read from a script; a complaint comes with a position. -/
abbrev Drafting := StateT Draft (Except (Nat × String))

/-- A text between the quotes that complaints use. -/
def quoted (text : String) : String :=
  (Char.ofNat 0x60).toString ++ text ++ "'"

def blunder {α : Type} (message : String) : Drafting α := do
  throw ((← get).position, message)

def peek : Drafting (Option Char) := do
  return (← get).rest.head?

def advance : Drafting Unit :=
  modify fun draft => ⟨draft.rest.drop 1, draft.position + 1⟩

/-- Takes characters as long as they satisfy a test. -/
def takeWhile (test : Char → Bool) : Drafting String := do
  let taken := (← get).rest.takeWhile test
  modify fun draft => ⟨draft.rest.drop taken.length, draft.position + taken.length⟩
  return String.ofList taken

def skipBlanks : Drafting Unit := do
  let _ ← takeWhile fun character => character = ' ' || character = '\t'

def readNumber : Drafting Nat := do
  return ((← takeWhile Char.isDigit).toNat?).getD 0

/-! ### Delimited texts -/

/-- How many characters the inside of brackets has, through the closing one; nothing if there is
none. The sign of a part in brackets of its own is known while that part lasts. -/
def bracketLength : List Char → Option Char → Nat → Bool → Option Nat
  | [], _, _, _ => none
  | ']' :: rest, none, length, isFirst =>
    if isFirst then bracketLength rest none (length + 1) false else some (length + 1)
  | '[' :: sign :: rest, none, length, _ =>
    if sign = ':' || sign = '.' || sign = '=' then bracketLength rest (some sign) (length + 2) false
    else bracketLength (sign :: rest) none (length + 1) false
  | _ :: rest, none, length, _ => bracketLength rest none (length + 1) false
  | ']' :: rest, some _, length, _ => bracketLength rest none (length + 1) false
  | character :: ']' :: rest, some sign, length, _ =>
    if character = sign then bracketLength rest none (length + 2) false
    else bracketLength (']' :: rest) (some sign) (length + 1) false
  | _ :: rest, some sign, length, _ => bracketLength rest (some sign) (length + 1) false

/-- Takes the inside of brackets, if they are closed. -/
def takeBracket : Drafting (Option (List Char)) := do
  let rest := (← get).rest
  let start := if rest.head? = some '^' then 1 else 0
  match bracketLength (rest.drop start) none start true with
  | none => return none
  | some length =>
    modify fun draft => ⟨draft.rest.drop length, draft.position + length⟩
    return some (rest.take length)

/-- Reads up to an unescaped delimiter, which is taken too; nothing if there is none in the line. A
backslash before the delimiter or a line end is dropped. In an expression the delimiter may stand
in brackets. -/
def readDelimited (delimiter : Char) (isExpression : Bool) :
    Nat → List Char → Drafting (Option String)
  | 0, _ => return none
  | fuel + 1, taken => do
    match (← get).rest with
    | [] => return none
    | ['\\'] =>
      advance
      return none
    | '\\' :: next :: _ =>
      advance
      advance
      let keeps := next ≠ '\n' && (next ≠ delimiter || !isExpression && next = '&')
      readDelimited delimiter isExpression fuel
        (if keeps then next :: '\\' :: taken else next :: taken)
    | character :: _ =>
      if character = '\n' then return none
      advance
      if character = delimiter then return some (String.ofList taken.reverse)
      if isExpression && character = '[' then
        match ← takeBracket with
        | some inside =>
          readDelimited delimiter isExpression fuel (inside.reverse ++ '[' :: taken)
        | none =>
          let _ ← takeWhile (· ≠ '\n')
          return none
      else readDelimited delimiter isExpression fuel (character :: taken)

/-- Reads a delimited text, or complains that it has no end. -/
def expectDelimited (delimiter : Char) (isExpression : Bool) (complaint : String) :
    Drafting String := do
  match ← readDelimited delimiter isExpression ((← get).rest.length + 1) [] with
  | some text => return text
  | none => blunder complaint

/-! ### Characters behind backslashes -/

/-- A letter behind a backslash as the character that it stands for. -/
def escape? (letter : Char) : Option Char :=
  match letter with
  | 'n' => some '\n'
  | 't' => some '\t'
  | 'r' => some '\r'
  | 'a' => some '\x07'
  | 'f' => some '\x0c'
  | 'v' => some '\x0b'
  | _ => none

/-- A character given by the digits of its code, and what stands behind them. -/
def codeCharacter? (base most : Nat) (rest : List Char) : Option (Char × List Char) :=
  let value (digit : Char) : Nat :=
    if digit.isDigit then digit.toNat - '0'.toNat else digit.toLower.toNat - 'a'.toNat + 10
  let isDigit (one : Char) : Bool := Kind.isHexadecimal one && value one < base
  let digits := (rest.take most).takeWhile isDigit
  if digits.isEmpty then none
  else
    let code := digits.foldl (fun code digit => code * base + value digit) 0
    some (Char.ofNat (code % 256), rest.drop digits.length)

/-- The character that a letter behind a backslash and what follows it stand for, if it is given by
its code or as a control character. -/
def givenCharacter? : List Char → Option (Char × List Char)
  | 'd' :: rest => codeCharacter? 10 3 rest
  | 'o' :: rest => codeCharacter? 8 3 rest
  | 'x' :: rest => codeCharacter? 16 2 rest
  | 'c' :: '\\' :: '\\' :: rest => some ('\x1c', rest)
  | 'c' :: letter :: rest =>
    if letter = '\\' then none
    else some (Char.ofNat ((letter.toUpper.toNat + 64) % 128), rest)
  | _ => none

/-- The same in any text, where further letters stand for something. -/
def escaped? (characters : List Char) : Option (Char × List Char) :=
  match characters with
  | [] => none
  | letter :: rest =>
    (givenCharacter? characters).or ((escape? letter).map fun character => (character, rest))

/-- An expression, so many characters of it, in which letters behind backslashes have been replaced
by what they stand for. A letter that means something to expressions is left to them. -/
def plainControls : Nat → List Char → List Char
  | 0, characters => characters
  | fuel + 1, '\\' :: letter :: rest =>
    match if letter = 'n' then none else escaped? (letter :: rest) with
    | some (character, rest) => character :: plainControls fuel rest
    | none => '\\' :: letter :: plainControls fuel rest
  | fuel + 1, character :: rest => character :: plainControls fuel rest
  | _, [] => []

end RpcEndpoint.Editor
