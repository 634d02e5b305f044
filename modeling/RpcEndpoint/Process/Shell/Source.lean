import RpcEndpoint.Process.Shell.Syntax

/-!
# The text of a script

A script is read from its text character by character and word by word. Line numbers are kept for
complaints. A document that stands in the script is read at the end of the line that asks for it.
-/

namespace RpcEndpoint.Shell

/-- The smallest units that commands are made of. -/
inductive Token where
  | word (word : Word)
  | redirect (number : Option Nat) (sign : String)
  | sign (text : String)
  | newline
  | ending

/-- A document whose text has not been read. -/
structure Expected where
  number : Nat
  delimiter : String
  /-- Whether tabs at the beginning of lines are dropped. -/
  dropsTabs : Bool
  /-- Whether nothing in the text is replaced. -/
  literal : Bool

/-- A script on its way. -/
structure Source where
  rest : List Char
  line : Nat
  /-- A token that has been looked at. -/
  ahead : Option Token
  expected : List Expected
  documents : List (Nat × Word)
  /-- The number of the next document. -/
  fresh : Nat
  /-- The texts that names of commands stand for. -/
  aliases : List (String × String)

/-- Why a script makes no sense, and where. -/
structure Blunder where
  line : Nat
  message : String

/-- What is read from a script. -/
abbrev Reading := StateT Source (Except Blunder)

namespace Source

/-- The text of a script, with the number of the next document. -/
def ofText (text : String) (line fresh : Nat) : Source :=
  ⟨text.toList, line, none, [], [], fresh, []⟩

/-- A complaint about the place that has been reached. -/
def blunder {α : Type} (message : String) : Reading α := do
  throw ⟨(← get).line, message⟩

/-! ## Characters -/

/-- The next character, which is not taken. -/
def peek : Reading (Option Char) := do
  return (← get).rest.head?

/-- Takes the next character. A line that goes on behind a backslash is one line. -/
def advance : Reading Unit :=
  modify fun source =>
    match source.rest with
    | '\n' :: rest => { source with rest, line := source.line + 1 }
    | _ :: rest => { source with rest }
    | [] => source

/-- Takes a character if it comes next. -/
def accept (character : Char) : Reading Bool := do
  if (← peek) = some character then
    advance
    return true
  return false

/-- Drops line ends behind a backslash. -/
def joinLines : Reading Unit :=
  modify fun source =>
    let rec drop : Nat → Source → Source
      | 0, source => source
      | fuel + 1, source =>
        match source.rest with
        | '\\' :: '\n' :: rest => drop fuel { source with rest, line := source.line + 1 }
        | _ => source
    drop source.rest.length source

/-- Takes characters as long as they satisfy a test. -/
def takeWhile (test : Char → Bool) : Reading String := do
  let taken := (← get).rest.takeWhile test
  modify fun source => { source with
    rest := source.rest.drop taken.length
    line := source.line + taken.count '\n' }
  return String.ofList taken

/-- Skips what separates words: blanks, joined lines and comments. -/
def skipBlanks : Reading Unit :=
  let rec skip : Nat → Reading Unit
    | 0 => pure ()
    | fuel + 1 => do
      joinLines
      match ← peek with
      | some ' ' | some '\t' =>
        advance
        skip fuel
      | some '#' =>
        let _ ← takeWhile (· ≠ '\n')
        pure ()
      | _ => pure ()
  do skip ((← get).rest.length + 1)

/-! ## Parts -/

/-- Where parts are read. -/
inductive Ground where
  /-- Outside of everything; ends before what separates words. -/
  | word
  /-- Behind a quote, and through the next one. -/
  | quotes
  /-- Behind the operator of a parameter, and through a closing brace. -/
  | braces (inQuotes : Bool)
  /-- Behind two parentheses, and through two closing ones. -/
  | arithmetic
  /-- In a document, to its end. -/
  | document
deriving Repr, DecidableEq

/-- Whether what stands there is quoted. -/
def Ground.isQuoted : Ground → Bool
  | .word => false
  | .quotes | .arithmetic | .document => true
  | .braces inQuotes => inQuotes

/-- What separates words. -/
def isSeparator (character : Char) : Bool :=
  [' ', '\t', '\n', ';', '&', '|', '<', '>', '(', ')'].contains character

/-- Adds a text behind parts, the last of which stands first. -/
def addText (text : String) (quoted : Bool) : List Part → List Part
  | .text before held :: rest =>
    if held = quoted then .text (before ++ text) held :: rest
    else .text text quoted :: .text before held :: rest
  | parts => .text text quoted :: parts

/-- How what stands further inside is read. -/
structure Inner where
  parts : Ground → Reading Word
  /-- Commands up to what cannot begin one. -/
  list : Reading Command
  /-- Takes a token, or complains that another one is there. -/
  expect : Token → Reading Unit
  /-- A whole script. -/
  script : String → Nat → Reading Command

/-- The operator behind a name in braces. -/
def readUse : Reading (Option Use) := do
  let orEmpty ← accept ':'
  match ← peek with
  | some '-' => advance; return some (.instead orEmpty)
  | some '=' => advance; return some (.assigned orEmpty)
  | some '?' => advance; return some (.required orEmpty)
  | some '+' => advance; return some (.replaced orEmpty)
  | some '%' =>
    if orEmpty then return none
    advance
    return some (.withoutEnd (← accept '%'))
  | some '#' =>
    if orEmpty then return none
    advance
    return some (.withoutBeginning (← accept '#'))
  | _ => return none

/-- Parameters that are called by a sign. -/
def isSpecial (character : Char) : Bool :=
  ['@', '*', '#', '?', '-', '$', '!'].contains character

/-- The name of a parameter in braces. -/
def readParameter : Reading String := do
  match ← peek with
  | some character =>
    if isNameStart character then takeWhile isNameCharacter
    else if character.isDigit then takeWhile Char.isDigit
    else if isSpecial character then
      advance
      return character.toString
    else return ""
  | none => return ""

/-- What stands in braces behind a dollar sign. -/
def readBraces (inner : Inner) (quoted : Bool) : Reading Part := do
  let source ← get
  let isLength := match source.rest with
    | '#' :: next :: _ => isNameStart next || next.isDigit || isSpecial next
        && (match source.rest with | _ :: _ :: '}' :: _ => true | _ => false)
    | _ => false
  if isLength then
    advance
    let name ← readParameter
    if ← accept '}' then return .parameter name .length [] quoted
    let operand ← inner.parts (.braces quoted)
    return .parameter name .senseless operand quoted
  let name ← readParameter
  if name.isEmpty then
    let operand ← inner.parts (.braces quoted)
    return .parameter name .senseless operand quoted
  if ← accept '}' then return .parameter name .value [] quoted
  let use ← readUse
  let isPattern := match use with
    | some (.withoutBeginning _) | some (.withoutEnd _) => true
    | _ => false
  let operand ← inner.parts (.braces (quoted && !isPattern))
  return .parameter name (use.getD .senseless) operand quoted

/-- The text up to the next unescaped backquote, which is taken too. Some escapes are undone. -/
def readBackquoted (quoted : Bool) : Reading String :=
  let backquote := Char.ofNat 0x60
  let undone (character : Char) : Bool :=
    character = backquote || character = '\\' || character = '$' || quoted && character = '"'
  let rec read : Nat → List Char → Reading String
    | 0, taken => return String.ofList taken.reverse
    | fuel + 1, taken => do
      match (← get).rest with
      | [] => blunder "EOF in backquote substitution"
      | '\\' :: '\n' :: _ => joinLines; read fuel taken
      | '\\' :: next :: _ =>
        advance
        advance
        read fuel (if undone next then next :: taken else next :: '\\' :: taken)
      | character :: _ =>
        advance
        if character = backquote then return String.ofList taken.reverse
        read fuel (character :: taken)
  do read ((← get).rest.length + 1) []

/-- What stands behind a dollar sign; nothing if the sign means itself. -/
def readDollar (inner : Inner) (quoted : Bool) : Reading (Option Part) := do
  joinLines
  match ← peek with
  | some '{' =>
    advance
    return some (← readBraces inner quoted)
  | some '(' =>
    advance
    if ← accept '(' then return some (.arithmetic (← inner.parts .arithmetic))
    let body ← inner.list
    inner.expect (.sign ")")
    return some (.commands body quoted)
  | some character =>
    if isNameStart character then
      return some (.parameter (← takeWhile isNameCharacter) .value [] quoted)
    if character.isDigit || isSpecial character then
      advance
      return some (.parameter character.toString .value [] quoted)
    return none
  | none => return none

/-- What stands between single quotes. -/
def readSingle : Reading String := do
  let text ← takeWhile (· ≠ '\'')
  if ← accept '\'' then return text
  blunder "Unterminated quoted string"

/-- What a backslash in quotes takes its meaning from. -/
def isEscapable (ground : Ground) (character : Char) : Bool :=
  ['$', '\\', Char.ofNat 0x60].contains character
    || character = '"' && ground ≠ .document
    || character = '}' && ground = .braces true

/-- Reads one thing behind a backslash. -/
def readEscaped (ground : Ground) (parts : List Part) : Reading (List Part) := do
  match ← peek with
  | none => return addText "\\" ground.isQuoted parts
  | some '\n' => advance; return parts
  | some character =>
    advance
    if !ground.isQuoted || isEscapable ground character then
      return addText character.toString true parts
    return addText (String.ofList ['\\', character]) true parts

/-- Reads parts up to the end of their ground. The parts before come with the last one first; the
second number counts open parentheses. -/
def readParts (inner : Inner) (ground : Ground) : Nat → Nat → List Part → Reading Word
  | 0, _, parts => return parts.reverse
  | fuel + 1, depth, parts => do
    let quoted := ground.isQuoted
    let goOn := readParts inner ground fuel
    match ← peek with
    | none =>
      match ground with
      | .word | .document => return parts.reverse
      | .quotes | .braces true => blunder "Unterminated quoted string"
      | .braces false => blunder "Missing '\x7d'"
      | .arithmetic => blunder "Missing '))'"
    | some character =>
      if ground = .word && isSeparator character then return parts.reverse
      advance
      match character with
      | '\\' => goOn depth (← readEscaped ground parts)
      | '$' =>
        match ← readDollar inner quoted with
        | some part => goOn depth (part :: parts)
        | none => goOn depth (addText "$" quoted parts)
      | '\'' =>
        if quoted then goOn depth (addText "'" true parts)
        else goOn depth (addText (← readSingle) true parts)
      | '"' =>
        match ground with
        | .quotes => return parts.reverse
        | .document | .arithmetic => goOn depth (addText "\"" true parts)
        | .braces true => goOn depth parts
        | .word | .braces false =>
          let held ← inner.parts .quotes
          goOn depth ((if held.isEmpty then [.text "" true] else held).reverse ++ parts)
      | '}' =>
        match ground with
        | .braces _ => return parts.reverse
        | _ => goOn depth (addText "\x7d" quoted parts)
      | '(' => goOn (depth + 1) (addText "(" quoted parts)
      | ')' =>
        if ground = .arithmetic && depth = 0 then
          if ← accept ')' then return parts.reverse
          blunder "Missing '))'"
        goOn (depth - 1) (addText ")" quoted parts)
      | _ =>
        if character = Char.ofNat 0x60 then
          let line := (← get).line
          let body ← inner.script (← readBackquoted quoted) line
          goOn depth (.commands body quoted :: parts)
        else goOn depth (addText character.toString quoted parts)

/-! ## Tokens -/

/-- The signs that consist of two characters or more come first. -/
def signs : List String :=
  ["<<-", "<<", "<&", "<>", "<", ">>", ">&", ">|", ">", "&&", "&", "||", "|", ";;", ";", "(", ")"]

/-- Takes a sign, if one comes next. -/
def readSign : Reading (Option String) := do
  joinLines
  let rest := (← get).rest
  match signs.find? fun sign => sign.toList.isPrefixOf rest with
  | some sign =>
    modify fun source => { source with rest := rest.drop sign.length }
    return some sign
  | none => return none

/-- A sign as a token. -/
def ofSign (number : Option Nat) (sign : String) : Token :=
  if sign.startsWith "<" || sign.startsWith ">" then .redirect number sign else .sign sign

/-- Whether a line goes on behind its end. -/
def isContinued (expected : Expected) (line : String) : Bool :=
  !expected.literal && (line.toList.reverse.takeWhile (· = '\\')).length % 2 = 1

/-- Reads the text of a document up to its delimiter. -/
def readDocument (expected : Expected) : Nat → Bool → String → Reading String
  | 0, _, text => return text
  | fuel + 1, mayEnd, text => do
    if (← peek).isNone then return text
    let line ← takeWhile (· ≠ '\n')
    let ending := if ← accept '\n' then "\n" else ""
    let kept :=
      if expected.dropsTabs then String.ofList (line.toList.dropWhile (· = '\t')) else line
    if mayEnd && kept = expected.delimiter then return text
    readDocument expected fuel (!isContinued expected line) (text ++ kept ++ ending)

/-- Reads the documents that are expected. -/
def readDocuments (inner : Inner) : List Expected → Reading Unit
  | [] => modify fun source => { source with expected := [] }
  | expected :: others => do
    let text ← readDocument expected ((← get).rest.length + 1) true ""
    let outside ← get
    set { outside with rest := text.toList }
    let word : Word ← if expected.literal then pure [.text text true] else inner.parts .document
    modify fun inside => { outside with
      documents := (expected.number, word) :: inside.documents
      fresh := inside.fresh }
    readDocuments inner others

/-- Reads a token. -/
def readToken (inner : Inner) : Reading Token := do
  skipBlanks
  match ← peek with
  | none => return .ending
  | some '\n' =>
    advance
    readDocuments inner (← get).expected
    return .newline
  | some _ =>
    match ← readSign with
    | some sign => return ofSign none sign
    | none =>
      let word ← inner.parts .word
      match plain? word, ← peek with
      | some text, some next =>
        if text.all Char.isDigit && (next = '<' || next = '>') then
          match ← readSign with
          | some sign => return ofSign text.toNat? sign
          | none => return .word word
        return .word word
      | _, _ => return .word word

/-- The next token, which is not taken. -/
def look (inner : Inner) : Reading Token := do
  match (← get).ahead with
  | some token => return token
  | none =>
    let token ← readToken inner
    modify fun source => { source with ahead := some token }
    return token

/-- Takes the token that has been looked at. -/
def drop : Reading Unit :=
  modify fun source => { source with ahead := none }

/-- Takes the next token. -/
def next (inner : Inner) : Reading Token := do
  let token ← look inner
  drop
  return token

end Source

end RpcEndpoint.Shell
