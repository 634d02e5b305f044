import RpcEndpoint.Process.Condition
import RpcEndpoint.Process.Shell.Builtin.Basic

/-!
# What the shell puts out and reads

Output, conditions and the directory; input and the options of scripts.
-/

namespace RpcEndpoint.Shell.Builtin

/-! ## Output, conditions and the directory -/

/-! ### Output -/

def echo : Builtin := fun _ arguments session next =>
  let (isBare, words) := match arguments with
    | "-n" :: rest => (true, rest)
    | words => (false, words)
  let shown := Printf.expand false false (" ".intercalate words)
  put (if isBare || shown.stopped then shown.text else shown.text ++ "\n") session next 0

def printf : Builtin := fun run arguments session next =>
  match arguments with
  | [] => fail run "usage: printf format [arg ...]" session next
  | format :: rest =>
    let rendered := Printf.render .builtIn format rest
    rendered.complaints.foldr (fun complaint task => session.complain complaint task)
      (put rendered.written session next rendered.code)

/-! ### Conditions -/

def test (run : Runner) (arguments : List String) (session : Session)
    (next : Session → Task) : Task :=
  Condition.decide session.place arguments fun
    | .ok holds => next (session.withStatus (if holds then 0 else 1))
    | .error complaint => fail run complaint session next

def bracket : Builtin := fun run arguments session next =>
  if arguments.getLast? = some "]" then test run arguments.dropLast session next
  else fail run "missing ]" session next

/-! ### The directory -/

/-- The path behind a path and steps from there, without looking at any files. -/
def pathAfter (path steps : String) : String :=
  let start := if steps.startsWith "/" then [] else path.splitOn "/"
  let walked := (start ++ steps.splitOn "/").foldl (fun taken step =>
    if step.isEmpty || step = "." then taken
    else if step = ".." then taken.drop 1
    else step :: taken) []
  "/" ++ "/".intercalate walked.reverse

def cd (given : Given) : Builtin := fun run arguments session next =>
  let operand? := arguments.head?
  let isPhysical := (given.getLast?.map Prod.fst) = some 'P'
  let isBack := operand? = some "-"
  let wanted :=
    if isBack then (session.value? "OLDPWD").getD ""
    else operand?.getD ((session.value? "HOME").getD "")
  if wanted.isEmpty then put (if isBack then session.path ++ "\n" else "") session next 0
  else
    .look session.place wanted fun
      | .ok (place, .directory) =>
        let path := if isPhysical then FileSystem.pathOf place else pathAfter session.path wanted
        let exported (name value : String) (session : Session) : Session :=
          session.setBinding ⟨name, some value, true, false⟩
        let moved := { exported "PWD" path (exported "OLDPWD" session.path session) with
          place
          path }
        put (if isBack then path ++ "\n" else "") moved next 0
      | _ => fail run ("can't cd to " ++ wanted) session next

def pwd (given : Given) : Builtin := fun _ _ session next =>
  let isPhysical := (given.getLast?.map Prod.fst) = some 'P'
  put ((if isPhysical then FileSystem.pathOf session.place else session.path) ++ "\n")
    session next 0

/-! ## Input and options of scripts -/

/-! ### Input -/

/-- A line as it was read: its characters, and whether they were behind a backslash. -/
abbrev Line := List (Char × Bool)

/-- Reads a line byte by byte. The outcome tells whether it has an end. -/
def readLine (raw : Bool) (next : Bool → Line → Task) : Nat → Bool → Line → Task
  | 0, _, line => next false line.reverse
  | fuel + 1, isEscaped, line =>
    .read 0 1 fun
      | .ok [byte] =>
        let character := Char.ofNat byte.toNat
        if isEscaped then
          readLine raw next fuel false
            (if character = '\n' then line else (character, true) :: line)
        else if character = '\\' && !raw then readLine raw next fuel true line
        else if character = '\n' then next true line.reverse
        else if byte = 0 then readLine raw next fuel false line
        else readLine raw next fuel false ((character, false) :: line)
      | _ => next false line.reverse

/-- Whether a character separates fields. -/
def separates (separators : List Char) (one : Char × Bool) : Bool :=
  !one.2 && separators.contains one.1

/-- Whether a character separates fields without being one of its own. -/
def isBlank (separators : List Char) (one : Char × Bool) : Bool :=
  separates separators one && [' ', '\t', '\n'].contains one.1

/-- A field and what stands behind the separator after it. -/
def splitField (separators : List Char) (line : Line) : Line × Line :=
  let field := line.takeWhile fun one => !separates separators one
  let rest := (line.drop field.length).dropWhile (isBlank separators)
  match rest with
  | one :: after =>
    if separates separators one then (field, after.dropWhile (isBlank separators))
    else (field, rest)
  | [] => (field, [])

/-- The fields of a line, for so many variables; the last one gets what is left. -/
def fieldsOfLine (separators : List Char) : Nat → Line → List String
  | 0, _ => []
  | count + 1, line =>
    let text (line : Line) : String := String.ofList (line.map Prod.fst)
    let (field, rest) := splitField separators line
    if count = 0 then
      if rest.isEmpty then [text field]
      else [text (line.reverse.dropWhile (isBlank separators)).reverse]
    else text field :: fieldsOfLine separators count rest

/-- Gives variables their values. -/
def assignAll (run : Runner) (code : Nat) (next : Session → Task) :
    List (String × String) → Session → Task
  | [], session => next (session.withStatus code)
  | (name, value) :: rest, session =>
    if !isName name then fail run (name ++ ": bad variable name") session next
    else
      match session.assign name value with
      | .ok session => assignAll run code next rest session
      | .error complaint => fail run complaint session next

def read (given : Given) : Builtin := fun run arguments session next =>
  if arguments.isEmpty then fail run "arg count" session next
  else
    readLine (given.has 'r') (fun isEnded line =>
      let separators := session.separators.toList
      let fields := fieldsOfLine separators arguments.length (line.dropWhile (isBlank separators))
      assignAll run (if isEnded then 0 else 1) next (arguments.zip fields) session)
      Program.patience false []

/-! ### Options of scripts -/

/-- What the next option of the arguments is. -/
structure NextOption where
  /-- The letter; nothing if there are no more options. -/
  found : Option Char
  argument : Option String
  /-- The number of the next word. -/
  index : Nat
  /-- Where the next letter stands in the word before that; zero if there is none. -/
  offset : Nat
  /-- What is wrong with it. -/
  complaint : Option String

/-- The letter at the front of the letters that are left of a word. -/
def readOption (letters : String) (arguments : List String) (index : Nat) (word : String)
    (position : Nat) : NextOption :=
  let isSilent := letters.startsWith ":"
  let letter := word.toList.getD position '?'
  let isLast := word.length ≤ position + 1
  let further := if isLast then 0 else position + 1
  match takesArgument? letter (letters.toList.dropWhile (· = ':')) with
  | none =>
    if isSilent then ⟨some '?', some letter.toString, index, further, none⟩
    else ⟨some '?', none, index, further, some ("Illegal option -" ++ letter.toString)⟩
  | some false => ⟨some letter, some "", index, further, none⟩
  | some true =>
    if !isLast then
      ⟨some letter, some (String.ofList (word.toList.drop (position + 1))), index, 0, none⟩
    else
      match arguments[index - 1]? with
      | some argument => ⟨some letter, some argument, index + 1, 0, none⟩
      | none =>
        if isSilent then ⟨some ':', some letter.toString, index, 0, none⟩
        else ⟨some '?', none, index, 0, some ("No arg for -" ++ letter.toString ++ " option")⟩

/-- Looks for the next option. -/
def nextOption (letters : String) (arguments : List String) (index offset : Nat) : NextOption :=
  let before := (arguments[index - 2]?).getD ""
  if 1 < index && 0 < offset && offset < before.length then
    readOption letters arguments index before offset
  else
    match arguments[index - 1]? with
    | none => ⟨none, none, index, 0, none⟩
    | some word =>
      if word = "--" then ⟨none, none, index + 1, 0, none⟩
      else if !word.startsWith "-" || word = "-" then ⟨none, none, index, 0, none⟩
      else readOption letters arguments (index + 1) word 1

def getopts : Builtin := fun run arguments session next =>
  match arguments with
  | letters :: name :: rest =>
    let words := if rest.isEmpty then session.arguments else rest
    let index := max 1 ((((session.value? "OPTIND").getD "1").toNat?).getD 1)
    let option := nextOption letters words index session.optionOffset
    let moved := { session.set "OPTIND" (toString option.index) with
      optionOffset := option.offset }
    let told := match option.argument, option.found with
      | some argument, _ => moved.set "OPTARG" argument
      | none, some _ => moved.removeBinding "OPTARG"
      | none, none => moved
    let named := told.set name ((option.found.getD '?').toString)
    let goOn := next (named.withStatus (if option.found.isSome then 0 else 1))
    match option.complaint with
    | some complaint => Program.tell (complaint ++ "\n") goOn
    | none => goOn
  | _ => fail run "Usage: getopts optstring var [arg...]" session next

end RpcEndpoint.Shell.Builtin
