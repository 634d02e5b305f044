import RpcEndpoint.Process.Program.Editor.Script

/-!
# How edits are written

An edit begins with addresses; a letter tells what it does, and what stands behind the letter
depends on it.
-/

namespace RpcEndpoint.Editor

/-! ## Expressions -/

/-- What the letters behind an expression say about it. -/
structure Reading where
  folds : Bool := false
  isByLine : Bool := false

/-- The expression that is written; nothing if it is the last one once more. -/
def readExpression (extended : Bool) (reading : Reading) (written : String) :
    Drafting (Option Expression × Nat) := do
  if written.isEmpty then return (none, 9)
  let style : Expression.Style :=
    { extended, folds := reading.folds, isStrict := true, isByLine := reading.isByLine }
  match Expression.read style (String.ofList (plainControls written.length written.toList)) with
  | .ok (expression, groups) => return (some expression, groups)
  | .error complaint => blunder complaint

/-! ## Addresses -/

/-- Reads an expression as an address. -/
def readHaving (extended : Bool) (delimiter : Char) : Drafting Address := do
  let written ← expectDelimited delimiter true "unterminated address regex"
  let flags ← takeWhile fun character => character = 'I' || character = 'M'
  let reading : Reading := ⟨flags.contains 'I', flags.contains 'M'⟩
  return .having (← readExpression extended reading written).1

/-- Reads an address if one comes next. -/
def readAddress (extended : Bool) : Drafting (Option Address) := do
  match ← peek with
  | some '$' =>
    advance
    return some .last
  | some '+' | some '~' =>
    advance
    let _ ← readNumber
    blunder "invalid usage of +N or ~N as first address"
  | some '/' =>
    advance
    return some (← readHaving extended '/')
  | some '\\' =>
    advance
    let delimiter := (← peek).getD '/'
    advance
    return some (← readHaving extended delimiter)
  | some character =>
    if !character.isDigit then return none
    let number ← readNumber
    skipBlanks
    if (← peek) = some '~' then
      advance
      return some (.step number (← readNumber))
    return some (.line number)
  | none => return none

/-- Reads where a range ends. -/
def readLimit (extended : Bool) : Drafting Limit := do
  match ← peek with
  | some '+' =>
    advance
    return .count (← readNumber)
  | some '~' =>
    advance
    return .multiple (← readNumber)
  | _ =>
    match ← readAddress extended with
    | some address => return .address address
    | none =>
      if (← peek).isSome then advance
      blunder ("unexpected " ++ quoted ",")

/-! ## Replacements -/

/-- Adds a character to pieces, the last of which stands first. -/
def addCharacter (character : Char) : List Piece → List Piece
  | .text text :: rest => .text (text.push character) :: rest
  | pieces => .text character.toString :: pieces

/-- The pieces of a replacement, so many characters of it. -/
def piecesOf : Nat → List Char → List Piece → List Piece
  | 0, _, pieces | _, [], pieces => pieces.reverse
  | fuel + 1, '&' :: rest, pieces => piecesOf fuel rest (.group 0 :: pieces)
  | fuel + 1, '\\' :: letter :: rest, pieces =>
    if letter.isDigit then piecesOf fuel rest (.group (letter.toNat - '0'.toNat) :: pieces)
    else
      match letter with
      | 'U' => piecesOf fuel rest (.shift Char.toUpper :: pieces)
      | 'L' => piecesOf fuel rest (.shift Char.toLower :: pieces)
      | 'E' => piecesOf fuel rest (.shift id :: pieces)
      | 'u' => piecesOf fuel rest (.shiftNext Char.toUpper :: pieces)
      | 'l' => piecesOf fuel rest (.shiftNext Char.toLower :: pieces)
      | _ =>
        let (character, rest) := (escaped? (letter :: rest)).getD (letter, rest)
        piecesOf fuel rest (addCharacter character pieces)
  | fuel + 1, character :: rest, pieces => piecesOf fuel rest (addCharacter character pieces)

/-- The greatest number of a group in a replacement. -/
def greatestGroup (pieces : List Piece) : Nat :=
  pieces.foldl (fun greatest piece =>
    match piece with
    | .group number => max greatest number
    | _ => greatest) 0

/-- What the letters behind a substitution ask for. -/
structure Flags where
  all : Bool := false
  number? : Option Nat := none
  prints : Bool := false
  reading : Reading := {}
  file? : Option String := none

/-- Reads the name of a file, which takes up the rest of the line. -/
def expectFile : Drafting String := do
  skipBlanks
  let name ← takeWhile (· ≠ '\n')
  if name.isEmpty then blunder "missing filename in r/R/w/W commands"
  return name

/-- Reads the letters behind a substitution. -/
def readFlags : Nat → Flags → Drafting Flags
  | 0, flags => return flags
  | fuel + 1, flags => do
    let multiple {α : Type} (option : String) : Drafting α :=
      blunder ("multiple " ++ option ++ " options to " ++ quoted "s" ++ " command")
    match ← peek with
    | some 'g' =>
      advance
      if flags.all then multiple (quoted "g")
      readFlags fuel { flags with all := true }
    | some 'p' =>
      advance
      if flags.prints then multiple (quoted "p")
      readFlags fuel { flags with prints := true }
    | some 'i' | some 'I' =>
      advance
      readFlags fuel { flags with reading := { flags.reading with folds := true } }
    | some 'm' | some 'M' =>
      advance
      readFlags fuel { flags with reading := { flags.reading with isByLine := true } }
    | some 'w' =>
      advance
      return { flags with file? := some (← expectFile) }
    | some ' ' =>
      advance
      readFlags fuel flags
    | some character =>
      if character.isDigit then
        let number ← readNumber
        if flags.number?.isSome then multiple "number"
        if number = 0 then
          blunder ("number option to " ++ quoted "s" ++ " command may not be zero")
        readFlags fuel { flags with number? := some number }
      else if ['\n', ';', '}', '#', '\r'].contains character then return flags
      else
        advance
        blunder ("unknown option to " ++ quoted "s")
    | none => return flags

/-- Reads what stands behind the letter of a substitution. -/
def readSubstitution (extended : Bool) : Drafting Action := do
  let complaint := "unterminated " ++ quoted "s" ++ " command"
  match ← peek with
  | none => blunder complaint
  | some delimiter =>
    advance
    let written ← expectDelimited delimiter true complaint
    let replacement ← expectDelimited delimiter false complaint
    let flags ← readFlags ((← get).rest.length + 1) {}
    let pieces := piecesOf replacement.length replacement.toList []
    let (expression, groups) ← readExpression extended flags.reading written
    let greatest := greatestGroup pieces
    if groups < greatest then
      blunder ("invalid reference \\" ++ toString greatest ++ " on " ++ quoted "s"
        ++ " command's RHS")
    return .substitute
      ⟨expression, pieces, flags.all, flags.number?.getD 1, flags.prints, flags.file?⟩

/-- The characters of a list of characters that are put in place of others, so many of them. -/
def plainCharacters : Nat → List Char → List Char
  | 0, characters => characters
  | fuel + 1, '\\' :: '\\' :: rest => '\\' :: plainCharacters fuel rest
  | fuel + 1, '\\' :: letter :: rest =>
    match escaped? (letter :: rest) with
    | some (character, rest) => character :: plainCharacters fuel rest
    | none => '\\' :: letter :: plainCharacters fuel rest
  | fuel + 1, character :: rest => character :: plainCharacters fuel rest
  | _, [] => []

/-- Reads what stands behind the letter that replaces characters. -/
def readReplacing : Drafting Action := do
  let complaint := "unterminated " ++ quoted "y" ++ " command"
  match ← peek with
  | none => blunder complaint
  | some delimiter =>
    advance
    let source ← expectDelimited delimiter false complaint
    let target ← expectDelimited delimiter false complaint
    let source := plainCharacters source.length source.toList
    let target := plainCharacters target.length target.toList
    if source.length ≠ target.length then
      blunder ("strings for " ++ quoted "y" ++ " command are different lengths")
    return .replace (source.zip target)

/-! ## Edits -/

/-- Reads a text up to the end of its line; a line that goes on has a backslash at its end. -/
def readText : Nat → List Char → Drafting String
  | 0, taken => return String.ofList taken.reverse
  | fuel + 1, taken => do
    match (← get).rest with
    | [] => return String.ofList taken.reverse
    | '\\' :: next :: rest =>
      advance
      match escaped? (next :: rest) with
      | some (character, left) =>
        let length := rest.length + 1 - left.length
        modify fun draft => ⟨left, draft.position + length⟩
        readText fuel (character :: taken)
      | none =>
        advance
        readText fuel (next :: taken)
    | character :: _ =>
      advance
      if character = '\n' || character = '\\' then return String.ofList taken.reverse
      readText fuel (character :: taken)

/-- Reads the text of an edit that puts out a text. -/
def expectText : Drafting String := do
  skipBlanks
  if (← get).rest.isEmpty then
    blunder ("expected \\ after " ++ quoted "a" ++ ", " ++ quoted "c" ++ " or " ++ quoted "i")
  if (← peek) = some '\\' then
    advance
    let blanks := (← get).rest.takeWhile fun character => character = ' ' || character = '\t'
    if (← get).rest[blanks.length]? = some '\n' then
      skipBlanks
      advance
    else if (← get).rest.isEmpty then return ""
    else if blanks.isEmpty then
      -- A letter behind the backslash stands for itself.
      let letter := ((← get).rest.head?).getD '\\'
      if letter ≠ '\\' then
        advance
        return (← readText ((← get).rest.length + 1) [letter]) ++ "\n"
  return (← readText ((← get).rest.length + 1) []) ++ "\n"

/-- Reads the end of an edit. -/
def readEnd : Drafting Unit := do
  skipBlanks
  match ← peek with
  | none | some '}' | some '#' => pure ()
  | some character =>
    advance
    if character ≠ '\n' && character ≠ ';' then blunder "extra characters after command"

/-- Reads the name of a label. -/
def readLabel : Drafting String := do
  skipBlanks
  takeWhile fun character => character ≠ '\n' && character ≠ ';' && character ≠ ' '

/-- The version of the language of scripts. -/
def version : List Nat := [4, 9, 0]

/-- The order of versions. -/
def compareLex : List Nat → List Nat → Ordering
  | [], _ => .lt
  | _, [] => .gt
  | left :: lefts, right :: rights => (compare left right).then (compareLex lefts rights)

/-- Reads what an edit does. -/
def readAction (extended hasAddress hasLimit : Bool) (letter : Char) : Drafting Action := do
  let ended (action : Action) : Drafting Action := do
    readEnd
    return action
  let sole (action : Drafting Action) : Drafting Action := do
    if hasLimit then blunder "command only uses one address"
    action
  match letter with
  | 's' => ended (← readSubstitution extended)
  | 'y' => ended (← readReplacing)
  | 'p' => ended .print
  | 'P' => ended .printFirst
  | 'd' => ended .delete
  | 'D' => ended .deleteFirst
  | 'q' | 'Q' =>
    sole do
      skipBlanks
      ended (.quit (← readNumber) (letter = 'q'))
  | '=' => ended .tellNumber
  | 'F' => ended .tellFile
  | 'l' =>
    skipBlanks
    let digits ← takeWhile Char.isDigit
    ended (.reveal digits.toNat?)
  | 'r' => return .readFile (← expectFile)
  | 'R' => return .readLine (← expectFile)
  | 'w' => return .writeFile (← expectFile) false
  | 'W' => return .writeFile (← expectFile) true
  | 'v' =>
    skipBlanks
    let wanted ← takeWhile fun character => character.isDigit || character = '.'
    let parts := (wanted.splitOn ".").filterMap String.toNat?
    if compareLex parts version = .gt then blunder "expected newer version of sed"
    ended .nothing
  | 'n' => ended .next
  | 'N' => ended .join
  | 'a' => return .append (← expectText)
  | 'i' => return .insert (← expectText)
  | 'c' => return .change (← expectText)
  | 'h' => ended .hold
  | 'H' => ended .holdMore
  | 'g' => ended .fetch
  | 'G' => ended .fetchMore
  | 'x' => ended .exchange
  | 'z' => ended .clear
  | 'b' => ended (.jump (← readLabel) none)
  | 't' => ended (.jump (← readLabel) (some true))
  | 'T' => ended (.jump (← readLabel) (some false))
  | ':' =>
    if hasAddress then blunder ": doesn't want any addresses"
    let name ← readLabel
    if name.isEmpty then blunder "\":\" lacks a label"
    ended (.label name)
  | _ => blunder ("unknown command: " ++ quoted letter.toString)

/-- Closes a block: its length is known now. -/
def closeBlock (edits : List Edit) (start : Nat) : List Edit :=
  edits.zipIdx.map fun (edit, index) =>
    -- The last edit stands first.
    if index + start + 1 = edits.length then { edit with action := .block index } else edit

/-- Reads the exclamation marks before a letter. -/
def readNegation : Drafting Bool := do
  if (← peek) ≠ some '!' then return false
  advance
  skipBlanks
  if (← peek) = some '!' then
    advance
    blunder ("multiple " ++ quoted "!" ++ "s")
  return true

/-- Reads edits. Those before come with the last one first, and so do the places of open blocks. -/
def readEdits (extended : Bool) : Nat → List Edit → List Nat → Drafting (List Edit)
  | 0, edits, _ => return edits.reverse
  | fuel + 1, edits, blocks => do
    let _ ← takeWhile fun character => [' ', '\t', '\n', ';'].contains character
    if (← get).rest.isEmpty then
      if blocks.isEmpty then return edits.reverse
      throw (0, "unmatched " ++ quoted "\x7b")
    let first ← readAddress extended
    skipBlanks
    let mut limit : Option Limit := none
    if first.isSome && (← peek) = some ',' then
      advance
      skipBlanks
      limit := some (← readLimit extended)
      skipBlanks
    let isZero := match first with
      | some (.line 0) => true
      | _ => false
    let endsAtFound := match limit with
      | some (.address (.having _)) => true
      | _ => false
    let negated ← readNegation
    match ← peek with
    | none => blunder "missing command"
    | some letter =>
      advance
      if isZero && !endsAtFound then blunder "invalid usage of line address 0"
      match letter with
      | '#' =>
        if first.isSome then blunder "comments don't accept any addresses"
        let _ ← takeWhile (· ≠ '\n')
        readEdits extended fuel edits blocks
      | '{' =>
        readEdits extended fuel (⟨first, limit, negated, .nothing⟩ :: edits)
          (edits.length :: blocks)
      | '}' =>
        match blocks with
        | [] => blunder ("unexpected " ++ quoted "\x7d")
        | start :: blocks =>
          if first.isSome then blunder "\x7d doesn't want any addresses"
          readEnd
          readEdits extended fuel (closeBlock edits start) blocks
      | _ =>
        let action ← readAction extended first.isSome limit.isSome letter
        readEdits extended fuel (⟨first, limit, negated, action⟩ :: edits) blocks

/-- The labels that edits go on at. -/
def targets (edits : List Edit) : List String :=
  edits.filterMap fun edit =>
    match edit.action with
    | .jump label _ => if label.isEmpty then none else some label
    | _ => none

/-- Where a label stands. -/
def find? (edits : List Edit) (label : String) : Option Nat :=
  edits.findIdx? fun edit =>
    match edit.action with
    | .label name => name = label
    | _ => false

/-- A part of a script: what it was given as, and its text. -/
structure Source where
  /-- The file that it comes from; nothing if it was given in the call. -/
  file? : Option String
  text : String

/-- The text of a whole script. -/
def textOf (sources : List Source) : String :=
  "\n".intercalate (sources.map Source.text)

/-- A position in the part of a script that was given as such a part in the call. -/
def expressionPlace (number position : Nat) : String :=
  "-e expression #" ++ toString number ++ ", char " ++ toString position ++ ": "

/-- Where a position lies in the parts of a script. The number of parts that were given in the call
so far is known. -/
def placeOf (position number : Nat) : List Source → String
  | [] => expressionPlace number position
  | source :: rest =>
    let length := source.text.length
    if length < position && !rest.isEmpty then
      placeOf (position - (length + 1)) (if source.file?.isNone then number + 1 else number) rest
    else
      match source.file? with
      | none => expressionPlace (number + 1) position
      | some file =>
        let before := (source.text.toList.take (position - 1)).count '\n'
        "file " ++ file ++ " line " ++ toString (before + 1) ++ ": "

/-- The edits of a script; or what is wrong with it, and the code to end with. -/
def read (extended : Bool) (sources : List Source) : Except (String × Nat) (List Edit) :=
  let script := textOf sources
  match (readEdits extended (script.length + 1) [] []).run ⟨script.toList, 0⟩ with
  | .error (position, message) => .error (placeOf position 0 sources ++ message, 1)
  | .ok (edits, _) =>
    match (targets edits).find? fun label => (find? edits label).isNone with
    | some label => .error ("can't find label for jump to " ++ quoted label, 4)
    | none => .ok edits

/-- Whether a script begins by saying that lines are put out only if an edit does so. -/
def beginsQuietly (sources : List Source) : Bool :=
  (textOf sources).startsWith "#n"

/-- The files that edits write to. -/
def writtenFiles (edits : List Edit) : List String :=
  (edits.filterMap fun edit =>
    match edit.action with
    | .writeFile path _ => some path
    | .substitute substitution => substitution.file?
    | _ => none).eraseDups

end RpcEndpoint.Editor
