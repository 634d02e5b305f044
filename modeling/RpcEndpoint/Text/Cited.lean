/-!
# Cited words

Programs cite words in their complaints. A word is cited for people between single quotes, or in
such a way that a shell reads it back: without quotes if it needs none.
-/

namespace RpcEndpoint.Text

/-- The letter of a control character that has one. -/
def controlLetter? : Char → Option Char
  | '\x07' => some 'a'
  | '\x08' => some 'b'
  | '\t' => some 't'
  | '\n' => some 'n'
  | '\x0b' => some 'v'
  | '\x0c' => some 'f'
  | '\r' => some 'r'
  | _ => none

/-- Whether a character of an ASCII text can be seen. -/
def isVisible (character : Char) : Bool :=
  ' ' ≤ character && character ≤ '~'

/-- A character that cannot be seen: its letter or its number behind a backslash. -/
def controlEscape (character : Char) : String :=
  match controlLetter? character with
  | some letter => "\\" ++ letter.toString
  | none =>
    let digit (unit : Nat) : Char := Nat.digitChar (character.toNat / unit % 8)
    "\\" ++ String.ofList [digit 64, digit 8, digit 1]

/-- The word between single quotes, with backslashes before what could be mistaken. -/
def cited (word : String) : String :=
  let shown (character : Char) : String :=
    if character = '\'' || character = '\\' then "\\" ++ character.toString
    else if isVisible character then character.toString
    else controlEscape character
  "'" ++ String.join (word.toList.map shown) ++ "'"

/-- Whether a character means the same in quotes as without them, wherever it stands. -/
def isPlain (character : Char) : Bool :=
  character.isAlphanum
    || ['%', '+', ',', '-', '.', '/', ':', ']', '_', '@', '{', '}'].contains character

/-- Whether a word can stand without quotes. -/
def needsNoQuotes (word : String) : Bool :=
  match word.toList with
  | [] => false
  | first :: rest =>
    let marks := ['#', '~']
    (isPlain first && !(rest.isEmpty && (first = '{' || first = '}')))
      && rest.all fun character => isPlain character || marks.contains character

/-- Whether a word means the same between double quotes as between single ones. -/
def isSafe (word : String) : Bool :=
  let isSafeInside (character : Char) : Bool :=
    character = ' ' || character = '\''
      || isPlain character && character ≠ '{' && character ≠ '}'
  match word.toList with
  | [] => true
  | first :: rest =>
    (isSafeInside first || first = '#' || first = '~') && rest.all isSafeInside

/-- The characters of a word inside single quotes. What cannot be seen stands in a group of its
own. -/
def reusableBody : Bool → List Char → String
  | _, [] => "'"
  | isGroup, character :: rest =>
    if !isVisible character then
      (if isGroup then "" else "'$'") ++ controlEscape character ++ reusableBody true rest
    else if character = '\'' then "'\\''" ++ reusableBody false rest
    else (if isGroup then "''" else "") ++ character.toString ++ reusableBody false rest

/-- The word in quotes that a shell understands. -/
def reusable (word : String) : String :=
  if word.contains '\'' && isSafe word then "\"" ++ word ++ "\""
  else "'" ++ reusableBody false word.toList

/-- The word in quotes that a shell understands, if it needs any. -/
def reusableIfNeeded (word : String) : String :=
  if needsNoQuotes word then word else reusable word

end RpcEndpoint.Text
