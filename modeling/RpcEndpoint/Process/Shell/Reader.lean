import RpcEndpoint.Process.Shell.Source

/-!
# Reading commands

Commands are read line by line, so that the lines before one that makes no sense are carried out.
-/

namespace RpcEndpoint.Shell

namespace Token

/-- The words that have a meaning where a command may begin. -/
def keywords : List String :=
  ["!", "\x7b", "\x7d", "case", "do", "done", "elif", "else", "esac", "fi", "for", "if", "in",
    "then", "until", "while"]

/-- The keyword that a token is. -/
def keyword? : Token → Option String
  | .word held => (plain? held).filter keywords.contains
  | _ => none

/-- How a token is called in a complaint. -/
def describe : Token → String
  | .word _ => "word"
  | .redirect _ _ => "redirection"
  | .sign text => "\"" ++ text ++ "\""
  | .newline => "newline"
  | .ending => "end of file"

/-- How a token is called where a command may begin. -/
def describeAtCommand (token : Token) : String :=
  match token.keyword? with
  | some keyword => "\"" ++ keyword ++ "\""
  | none => token.describe

/-- Whether a token ends a list of commands. -/
def endsList (token : Token) : Bool :=
  match token with
  | .ending | .sign ")" | .sign ";;" => true
  | _ => token.keyword?.any fun keyword =>
    ["\x7d", "do", "done", "elif", "else", "esac", "fi", "then"].contains keyword

end Token

namespace Source

/-- Complains about a token. -/
def unexpected {α : Type} (token : Token) : Reading α :=
  blunder (token.describeAtCommand ++ " unexpected")

/-- Complains about a token of some description in the place of another one. -/
def unexpectedFor {α : Type} (found wanted : String) : Reading α :=
  blunder (found ++ " unexpected (expecting \"" ++ wanted ++ "\")")

/-- Takes a sign, or complains that something else is there. -/
def expectSignAs (describe : Token → String) (inner : Inner) (wanted : String) :
    Reading Unit := do
  let token ← look inner
  match token with
  | .sign sign => if sign = wanted then drop else unexpectedFor (describe token) wanted
  | _ => unexpectedFor (describe token) wanted

/-- Takes a sign inside a command. -/
def expectSign : Inner → String → Reading Unit :=
  expectSignAs Token.describe

/-- Takes a sign behind commands. -/
def expectSignBehind : Inner → String → Reading Unit :=
  expectSignAs Token.describeAtCommand

/-- Takes a keyword, or complains that it is not there. -/
def expectKeyword (inner : Inner) (wanted : String) : Reading Unit := do
  let token ← look inner
  if token.keyword? = some wanted then drop else unexpectedFor token.describeAtCommand wanted

/-- Takes line ends. -/
def skipNewlines (inner : Inner) : Nat → Reading Unit
  | 0 => pure ()
  | fuel + 1 => do
    match ← look inner with
    | .newline =>
      drop
      skipNewlines inner fuel
    | _ => pure ()

/-- More tokens than are left. -/
def bound : Reading Nat := do
  let source ← get
  let longest := (source.aliases.map fun held => held.2.length).foldl max 0
  return (source.rest.length + 2) * (longest + 1)

def skipLines (inner : Inner) : Reading Unit := do
  skipNewlines inner (← bound)

/-! ## Redirections -/

/-- What a sign of redirection opens, and the number that it is for if none is given. -/
def directionOf (sign : String) : Direction × Nat :=
  match sign with
  | "<" => (.fromFile, 0)
  | ">" => (.toFile, 1)
  | ">|" => (.toFileAnyway, 1)
  | ">>" => (.toEnd, 1)
  | "<>" => (.bothWays, 0)
  | "<&" => (.toNumber, 0)
  | _ => (.toNumber, 1)

/-- The text of a word without its quotes, as the delimiter of a document. -/
def delimiterOf (word : Word) : String :=
  String.join (word.map fun
    | .text text _ => text
    | .parameter name _ _ _ => "$" ++ name
    | _ => "")

/-- Whether a part is quoted. -/
def isQuotedPart : Part → Bool
  | .text _ quoted => quoted
  | _ => false

/-- Reads what stands behind a sign of redirection. -/
def readRedirection (inner : Inner) (number : Option Nat) (sign : String) :
    Reading Redirection := do
  match ← next inner with
  | .word word =>
    if sign.startsWith "<<" then
      let source ← get
      let expected : Expected :=
        ⟨source.fresh, delimiterOf word, sign = "<<-", word.any isQuotedPart⟩
      set { source with fresh := source.fresh + 1, expected := source.expected ++ [expected] }
      return .document (number.getD 0) source.fresh
    let (direction, standard) := directionOf sign
    return .file (number.getD standard) direction word
  | token => blunder (token.describe ++ " unexpected")

/-- Reads the redirections that come next. -/
def readRedirections (inner : Inner) : Nat → Reading (List Redirection)
  | 0 => return []
  | fuel + 1 => do
    match ← look inner with
    | .redirect number sign =>
      drop
      let redirection ← readRedirection inner number sign
      return redirection :: (← readRedirections inner fuel)
    | _ => return []

/-! ## Simple commands -/

/-- A simple command on its way; what comes last stands first. -/
structure Simple where
  assignments : List (String × Word)
  words : List Word
  redirections : List Redirection

/-- Whether a token may begin a simple command. -/
def beginsSimple : Token → Bool
  | .word _ | .redirect _ _ => true
  | _ => false

/-- The name of a function that a word before a parenthesis must be. -/
def functionName? (simple : Simple) : Option Word :=
  match simple with
  | ⟨[], [word], []⟩ => some word
  | _ => none

/-- Reads the words of a simple command, or the body of a function. -/
def readSimple (inner : Inner) (command : Reading Command) (line : Nat) :
    Nat → Simple → Reading Command
  | 0, simple => return finish simple
  | fuel + 1, simple => do
    let goOn := readSimple inner command line fuel
    match ← look inner with
    | .word word =>
      drop
      match assignment? word with
      | some assignment =>
        if simple.words.isEmpty then
          goOn { simple with assignments := assignment :: simple.assignments }
        else goOn { simple with words := word :: simple.words }
      | none => goOn { simple with words := word :: simple.words }
    | .redirect number sign =>
      drop
      let redirection ← readRedirection inner number sign
      goOn { simple with redirections := redirection :: simple.redirections }
    | .sign "(" =>
      match functionName? simple with
      | some word =>
        drop
        expectSign inner ")"
        match (plain? word).filter isName with
        | some name =>
          skipLines inner
          return .function line name (← command)
        | none => blunder "Bad function name"
      | none => return finish simple
    | _ => return finish simple
where
  finish (simple : Simple) : Command :=
    .simple line simple.assignments.reverse simple.words.reverse simple.redirections.reverse

/-! ## Compound commands -/

/-- A list of commands that is empty only at the end of a script. -/
def readBody (inner : Inner) : Reading Command := do
  match ← inner.list, ← look inner with
  | .nothing, .ending => return .nothing
  | .nothing, token => unexpected token
  | body, _ => return body

/-- What stands behind a condition. -/
def readChoice (inner : Inner) : Nat → Reading Command
  | 0 => return .nothing
  | fuel + 1 => do
    let condition ← readBody inner
    expectKeyword inner "then"
    let chosen ← readBody inner
    let token ← look inner
    match token.keyword? with
    | some "elif" =>
      drop
      return .choice condition chosen (← readChoice inner fuel)
    | some "else" =>
      drop
      let otherwise ← readBody inner
      expectKeyword inner "fi"
      return .choice condition chosen otherwise
    | _ =>
      expectKeyword inner "fi"
      return .choice condition chosen .nothing

def readLoop (inner : Inner) (onFailure : Bool) : Reading Command := do
  let condition ← readBody inner
  expectKeyword inner "do"
  let body ← readBody inner
  expectKeyword inner "done"
  return .loop onFailure condition body

/-- Reads words up to the end of a line or command. -/
def readWords (inner : Inner) : Nat → Reading (List Word)
  | 0 => return []
  | fuel + 1 => do
    match ← look inner with
    | .word word =>
      drop
      return word :: (← readWords inner fuel)
    | .newline | .sign ";" =>
      drop
      return []
    | token => unexpected token

def readEach (inner : Inner) (line : Nat) : Reading Command := do
  let name ← match ← look inner with
    | .word word => pure ((plain? word).filter isName)
    | _ => pure none
  match name with
  | none => blunder "Bad for loop variable"
  | some name =>
    drop
    skipLines inner
    let token ← look inner
    let words ←
      if token.keyword? = some "in" then
        drop
        let words ← readWords inner (← bound)
        pure (some words)
      else
        match token with
        | .sign ";" => drop
        | _ => pure ()
        pure none
    skipLines inner
    expectKeyword inner "do"
    let body ← readBody inner
    expectKeyword inner "done"
    return .each line name words body

/-- Reads the patterns of a branch. -/
def readPatterns (inner : Inner) : Nat → Reading (List Word)
  | 0 => return []
  | fuel + 1 => do
    match ← next inner with
    | .word word =>
      match ← look inner with
      | .sign "|" =>
        drop
        return word :: (← readPatterns inner fuel)
      | _ =>
        expectSign inner ")"
        return [word]
    | token => unexpectedFor token.describe ")"

/-- Reads the branches of a selection. -/
def readBranches (inner : Inner) : Nat → Reading (List (List Word × Command))
  | 0 => return []
  | fuel + 1 => do
    skipLines inner
    let token ← look inner
    if token.keyword? = some "esac" then
      drop
      return []
    match token with
    | .sign "(" => drop
    | _ => pure ()
    let patterns ← readPatterns inner (← bound)
    let body ← inner.list
    let token ← look inner
    if token.keyword? = some "esac" then
      drop
      return [(patterns, body)]
    expectSignBehind inner ";;"
    return (patterns, body) :: (← readBranches inner fuel)

def readSelect (inner : Inner) (line : Nat) : Reading Command := do
  match ← next inner with
  | .word word =>
    skipLines inner
    expectKeyword inner "in"
    return .select line word (← readBranches inner (← bound))
  | token => unexpected token

/-- A compound command with the redirections behind it. -/
def withRedirections (inner : Inner) (line : Nat) (body : Command) : Reading Command := do
  let redirections ← readRedirections inner (← bound)
  return if redirections.isEmpty then body else .redirected line body redirections

/-- Puts the text that the name of a command stands for in its place, and that of the name at the
beginning of it too, but none twice. -/
def replaceName (inner : Inner) : Nat → List String → Reading Unit
  | 0, _ => pure ()
  | fuel + 1, replaced => do
    match ← look inner with
    | .word word =>
      let source ← get
      let isFree (name : String) : Bool :=
        !replaced.contains name && (Token.word word).keyword?.isNone
      match (plain? word).filter isFree with
      | some name =>
        match source.aliases.lookup name with
        | some text =>
          set { source with rest := text.toList ++ source.rest, ahead := none }
          replaceName inner fuel (name :: replaced)
        | none => pure ()
      | none => pure ()
    | _ => pure ()

/-- Reads a command. The number bounds the functions that are nested directly. -/
def readCommand (inner : Inner) : Nat → Reading Command
  | 0 => return .nothing
  | fuel + 1 => do
    replaceName inner ((← get).aliases.length + 1) []
    let token ← look inner
    let line := (← get).line
    let compound (reading : Reading Command) : Reading Command := do
      drop
      withRedirections inner line (← reading)
    match token.keyword? with
    | some "if" => compound (do readChoice inner (← bound))
    | some "while" => compound (readLoop inner false)
    | some "until" => compound (readLoop inner true)
    | some "for" => compound (readEach inner line)
    | some "case" => compound (readSelect inner line)
    | some "\x7b" =>
      compound do
        let body ← readBody inner
        expectKeyword inner "\x7d"
        return body
    | some "in" | none =>
      match token with
      | .sign "(" =>
        compound do
          let body ← readBody inner
          expectSignBehind inner ")"
          return .subshell line body
      | _ =>
        if beginsSimple token then
          readSimple inner (readCommand inner fuel) line (← bound) ⟨[], [], []⟩
        else unexpected token
    | some _ => unexpected token

/-! ## Lists -/

/-- Reads the further stages of a pipeline. -/
def readStages (inner : Inner) : Nat → Reading (List Command)
  | 0 => return []
  | fuel + 1 => do
    match ← look inner with
    | .sign "|" =>
      drop
      skipLines inner
      let stage ← readCommand inner (← bound)
      return stage :: (← readStages inner fuel)
    | _ => return []

def readPipeline (inner : Inner) : Reading Command := do
  let isNegated := (← look inner).keyword? = some "!"
  if isNegated then drop
  let first ← readCommand inner (← bound)
  let others ← readStages inner (← bound)
  let pipeline := if others.isEmpty then first else .pipeline (first :: others)
  return if isNegated then .negated pipeline else pipeline

/-- Reads what stands behind a pipeline and depends on its outcome. -/
def readAlternatives (inner : Inner) : Nat → Command → Reading Command
  | 0, first => return first
  | fuel + 1, first => do
    match ← look inner with
    | .sign "&&" =>
      drop
      skipLines inner
      readAlternatives inner fuel (.both first (← readPipeline inner))
    | .sign "||" =>
      drop
      skipLines inner
      readAlternatives inner fuel (.either first (← readPipeline inner))
    | _ => return first

def readConditional (inner : Inner) : Reading Command := do
  let first ← readPipeline inner
  readAlternatives inner (← bound) first

/-- One command behind others. -/
def behind : Command → Command → Command
  | .nothing, second => second
  | first, .nothing => first
  | first, second => .sequence first second

/-- Reads commands up to a token that ends the list; line ends may stand between them. -/
def readList (inner : Inner) : Nat → Command → Reading Command
  | 0, before => return before
  | fuel + 1, before => do
    skipLines inner
    let token ← look inner
    if token.endsList then return before
    let command ← readConditional inner
    match ← look inner with
    | .sign ";" | .newline =>
      drop
      readList inner fuel (behind before command)
    | .sign "&" =>
      drop
      readList inner fuel (behind before (.background command))
    | token =>
      if token.endsList then return behind before command
      unexpected token

/-- Reads the commands of one line, with its end. -/
def readLine (inner : Inner) : Nat → Command → Reading Command
  | 0, before => return before
  | fuel + 1, before => do
    match ← look inner with
    | .newline =>
      drop
      return before
    | .ending => return before
    | _ =>
      let command ← readConditional inner
      match ← look inner with
      | .sign ";" =>
        drop
        readLine inner fuel (behind before command)
      | .sign "&" =>
        drop
        readLine inner fuel (behind before (.background command))
      | .newline =>
        drop
        return behind before command
      | .ending => return behind before command
      | token => unexpected token

/-- Whether nothing is left of a script. -/
def isOver : Reading Bool := do
  let source ← get
  return source.rest.isEmpty && (match source.ahead with
    | none | some .ending => true
    | _ => false)

/-- Reads all lines of a script. -/
def readLines (inner : Inner) : Nat → Command → Reading Command
  | 0, before => return before
  | fuel + 1, before => do
    if ← isOver then return before
    readLines inner fuel (behind before (← readLine inner (← bound) .nothing))

/-- Reads a script of its own inside another one. -/
def readScript (inner : Inner) (text : String) (line : Nat) : Reading Command := do
  let outside ← get
  set { Source.ofText text line outside.fresh with aliases := outside.aliases }
  let script ← readLines inner (text.length + 1) .nothing
  modify fun inside => { outside with
    documents := inside.documents ++ outside.documents
    fresh := inside.fresh }
  return script

/-- How what stands so deep inside is read. -/
def inner : Nat → Inner
  | 0 =>
    ⟨fun _ => blunder "nested too deeply", blunder "nested too deeply", fun _ => pure (),
      fun _ _ => blunder "nested too deeply"⟩
  | fuel + 1 =>
    let deeper := inner fuel
    { parts := fun ground => do readParts deeper ground (← bound) 0 []
      list := do readList deeper (← bound) .nothing
      expect := fun token => do
        match token with
        | .sign sign => expectSignBehind deeper sign
        | _ => pure ()
      script := fun text line => readScript deeper text line }

/-- The depth to which scripts may be nested. -/
def greatestDepth : Nat := 1000

/-- Reads the next line of a script; nothing if there is none. -/
def nextLine (source : Source) : Except Blunder (Option Command × Source) :=
  let reading : Reading (Option Command) := do
    if ← isOver then return none
    return some (← readLine (inner greatestDepth) (← bound) .nothing)
  reading.run source

end Source

end RpcEndpoint.Shell
