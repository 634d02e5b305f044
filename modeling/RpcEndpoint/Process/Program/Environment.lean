import RpcEndpoint.Process.Program.Simple

/-!
# Surroundings of another program

One program shows the environment, the second one runs a program in an environment of its own; it
may get its arguments as one text, which it splits like a shell would. The third one runs a program
with arguments from its input.
-/

namespace RpcEndpoint.Program

/-- The environment, a line for each variable. -/
def environmentText (ending : String) (environment : List (String × String)) : String :=
  String.join (environment.map fun held => held.1 ++ "=" ++ held.2 ++ ending)

def printenv : Program := fun name arguments surroundings =>
  withCall name { plain := "0", long := [("null", '0')], stopsEarly := true, refusal := 2 }
    arguments fun call =>
    let ending := if call.has '0' then "\x00" else "\n"
    match call.operands with
    | [] => putAndExit name (environmentText ending surroundings.environment) 0
    | names =>
      let values := names.filterMap fun wanted => surroundings.environment.lookup wanted
      putAndExit name (String.join (values.map (· ++ ending)))
        (if values.length = names.length then 0 else 1)

/-! ## Arguments in one text -/

/-- A text of arguments that is split. -/
structure Splitting where
  /-- The words that are complete. -/
  words : List String
  /-- The word that has begun. -/
  current? : Option String
  /-- The quote that is open. -/
  quote? : Option Char

namespace Splitting

def start : Splitting := ⟨[], none, none⟩

/-- Adds to the word that has begun, or begins one. -/
def add (text : String) (splitting : Splitting) : Splitting :=
  { splitting with current? := some (splitting.current?.getD "" ++ text) }

/-- Ends the word that has begun. -/
def endWord (splitting : Splitting) : Splitting :=
  { splitting with words := splitting.words ++ splitting.current?.toList, current? := none }

def isIn (quote : Char) (splitting : Splitting) : Bool :=
  splitting.quote? = some quote

/-- Opens a quote or closes it. -/
def turn (quote : Char) (splitting : Splitting) : Splitting :=
  { splitting.add "" with quote? := if splitting.isIn quote then none else some quote }

/-- The character that stands for itself, or for a blank, behind a backslash. -/
def escaped? : Char → Option Char
  | '"' => some '"'
  | '#' => some '#'
  | '$' => some '$'
  | '\'' => some '\''
  | '\\' => some '\\'
  | 'f' => some '\x0c'
  | 'n' => some '\n'
  | 'r' => some '\r'
  | 't' => some '\t'
  | 'v' => some '\x0b'
  | _ => none

/-- The name of a variable behind a dollar sign, in braces, and what stands behind them. -/
def readName? : List Char → Option (String × List Char)
  | '\x7b' :: first :: rest =>
    let isInName (character : Char) : Bool := character.isAlphanum || character = '_'
    let name := (first :: rest).takeWhile isInName
    match (first :: rest).dropWhile isInName with
    | '\x7d' :: after =>
      if name.isEmpty || first.isDigit then none else some (String.ofList name, after)
    | _ => none
  | _ => none

/-- Splits a text. The variables are those of an environment. -/
def split (environment : List (String × String)) :
    Nat → List Char → Splitting → Except String (List String)
  | 0, _, splitting => .ok splitting.endWord.words
  | _, [], splitting =>
    if splitting.quote?.isSome then .error "no terminating quote in -S string"
    else .ok splitting.endWord.words
  | fuel + 1, character :: rest, splitting =>
    let inSingle := splitting.isIn '\''
    let inDouble := splitting.isIn '"'
    let plainly : Except String (List String) :=
      split environment fuel rest (splitting.add character.toString)
    match character with
    | '\'' => if inDouble then plainly else split environment fuel rest (splitting.turn '\'')
    | '"' => if inSingle then plainly else split environment fuel rest (splitting.turn '"')
    | '#' => if splitting.current?.isNone then .ok splitting.words else plainly
    | '\\' =>
      match rest with
      | [] =>
        if inSingle then plainly else .error "invalid backslash at end of string in -S"
      | next :: after =>
        if inSingle && next ≠ '\\' && next ≠ '\'' then plainly
        else if next = '_' then
          split environment fuel after (if inDouble then splitting.add " " else splitting.endWord)
        else if next = 'c' then
          if inDouble then .error "'\\c' must not appear in double-quoted -S string"
          else .ok splitting.endWord.words
        else
          match escaped? next with
          | some meant => split environment fuel after (splitting.add meant.toString)
          | none => .error ("invalid sequence '\\" ++ next.toString ++ "' in -S")
    | '$' =>
      if inSingle then plainly
      else
        match readName? rest with
        | some (name, after) =>
          match environment.lookup name with
          | some value => split environment fuel after (splitting.add value)
          | none => split environment fuel after splitting
        | none =>
          .error ("only $\x7bVARNAME\x7d expansion is supported, error at: $" ++ String.ofList rest)
    | _ =>
      if splitting.quote?.isNone && Kind.isSpace character then
        split environment fuel rest splitting.endWord
      else plainly

end Splitting

/-- The arguments when those that are given as one text have been split, and what there is to tell
about that. -/
structure Arguments where
  words : List String
  trace : List String := []

namespace Arguments

/-- Arguments behind others. -/
def after (words : List String) (arguments : Arguments) : Arguments :=
  { arguments with words := words ++ arguments.words }

/-- What is told about a text that has been split. -/
def splitTrace (text : String) (words : List String) : List String :=
  match words with
  | [] => []
  | first :: rest =>
    ("split -S:  " ++ Text.cited text) :: (" into:    " ++ Text.cited first)
      :: rest.map fun word => "     &    " ++ Text.cited word

/-- Splits the texts among some arguments. -/
def read (environment : List (String × String)) :
    Nat → Bool → List String → Except String Arguments
  | 0, _, words | _, _, words@([] : List String) => .ok ⟨words, []⟩
  | fuel + 1, isTraced, word :: rest => do
    let splitting (isTraced : Bool) (before : List String) (text : String) (rest : List String) :
        Except String Arguments := do
      let words ← Splitting.split environment (text.length + 1) text.toList .start
      let arguments ← read environment fuel isTraced (words ++ rest)
      let trace := if isTraced then splitTrace text words else []
      return { words := before ++ arguments.words, trace := trace ++ arguments.trace }
    let long := "--split-string"
    match word.toList with
    | '-' :: '-' :: _ :: _ =>
      if word = long then
        match rest with
        | text :: rest => splitting isTraced [] text rest
        | [] => return ⟨[word], []⟩
      else if word.startsWith (long ++ "=") then
        splitting isTraced [] (word.drop (long.length + 1)).toString rest
      else
        let isDebug := word = "--debug"
        return (← read environment fuel (isTraced || isDebug) rest).after [word]
    | '-' :: letter :: more =>
      let letters := letter :: more
      let plain := letters.takeWhile fun letter => !(['u', 'C', 'S'].contains letter)
      let isTraced := isTraced || plain.contains 'v'
      let before := if plain.isEmpty then [] else [String.ofList ('-' :: plain)]
      match letters.drop plain.length, rest with
      | ['S'], text :: rest => splitting isTraced before text rest
      | 'S' :: letter :: more, rest =>
        splitting isTraced before (String.ofList (letter :: more)) rest
      | [_], argument :: rest =>
        return (← read environment fuel isTraced rest).after [word, argument]
      | _, rest =>
        if letter = '-' then return ⟨word :: rest, []⟩
        else return (← read environment fuel isTraced rest).after [word]
    | _ => return ⟨word :: rest, []⟩

end Arguments

/-! ## An environment of one's own -/

/-- Puts a variable into an environment. -/
def setVariable (key value : String) (environment : List (String × String)) :
    List (String × String) :=
  if environment.any fun held => held.1 = key then
    environment.map fun held => if held.1 = key then (key, value) else held
  else environment ++ [(key, value)]

/-- Reads the variables in front of a command. -/
def readVariables : List String → List (String × String) →
    List String × List (String × String)
  | [], environment => ([], environment)
  | word :: rest, environment =>
    match word.splitOn "=" with
    | key :: second :: more =>
      readVariables rest (setVariable key ("=".intercalate (second :: more)) environment)
    | _ => (word :: rest, environment)

/-- The signals that an option names; all of them, if it names none. -/
def namedSignals (isNamed : Bool) (written : String) : Except String (List Signal) :=
  if !isNamed then
    .ok (((List.range (Signal.lastFree + 1)).drop 1).filter fun signal =>
      !Signal.isSovereign signal && (signal < 32 || Signal.firstFree ≤ signal))
  else
    (((written.splitOn ",").filter (· ≠ "")).mapM fun name =>
      match Signal.named? name with
      | some (signal + 1) => .ok (signal + 1)
      | _ => .error ("'" ++ name ++ "': invalid signal"))

/-- How the signals are treated that the options name. A blocked signal does nothing. -/
def treatments (call : Call) : Except String (List (Signal × Treatment)) := do
  let groups ← call.options.mapM fun (letter, written) =>
    match letter with
    | 'D' => return (← namedSignals (!written.isEmpty) written).map fun one => (one, .standard)
    | 'I' => return (← namedSignals (!written.isEmpty) written).map fun one => (one, .ignored)
    | 'B' =>
      return ((← namedSignals (!written.isEmpty) written).filter
        fun one => !Signal.isSovereign one).map fun one => (one, .ignored)
    | _ => return []
  return groups.flatten

/-- Runs a command in an environment of its own. -/
def runIn (name : String) (call : Call) (trace : List String) (surroundings : Surroundings) :
    Task :=
  let isBare := call.has 'i' || call.operands.head? = some "-"
  let gone := if isBare then [] else call.arguments 'u'
  let given := if isBare then [] else surroundings.environment
  let (command, environment) := readVariables
    (if call.operands.head? = some "-" then call.operands.drop 1 else call.operands)
    (given.filter fun held => !gone.contains held.1)
  let assigned := (call.operands.take (call.operands.length - command.length)).filter (· ≠ "-")
  let told :=
    if !call.has 'v' then []
    else
      trace ++ (if isBare then ["cleaning environ"] else [])
        ++ gone.map ("unset:    " ++ ·) ++ assigned.map ("setenv:   " ++ ·)
        ++ (call.argument? 'C').toList.map ("chdir:    " ++ Text.cited ·)
        ++ command.head?.toList.map ("executing: " ++ ·)
        ++ (List.range command.length).zipWith (fun (place : Nat) word =>
          "   arg[" ++ toString place ++ "]= " ++ Text.cited word) command
  let telling (task : Task) : Task := told.foldr (fun line task => tell (line ++ "\n") task) task
  let refuse (complaint : String) : Task := fail name complaint ownRefusal
  let ending := if call.has '0' then "\x00" else "\n"
  match gone.find? fun key => key.isEmpty || key.contains '=', treatments call with
  | some key, _ => refuse ("cannot unset " ++ Text.cited key ++ ": Invalid argument")
  | none, .error complaint => refuse (complaint ++ advice name)
  | none, .ok treatments =>
    let go (directory : Place) : Task :=
      telling (treatments.foldr (fun treated task => .treat treated.1 treated.2 task)
        (handOn name "" command { surroundings with environment, directory }))
    match command, call.argument? 'C', treatments.find? fun treated =>
        Signal.isSovereign treated.1 with
    | _ :: _, _, some (signal, _) =>
      refuse ("failed to set signal action for signal " ++ toString signal
        ++ ": Invalid argument")
    | [], some _, _ => refuse ("must specify command with --chdir (-C)" ++ advice name)
    | [], none, _ => telling (putAndExit name (environmentText ending environment) 0)
    | _ :: _, path?, none =>
      if call.has '0' then refuse ("cannot specify --null (-0) with command" ++ advice name)
      else
        match path? with
        | some path =>
          let lament (fault : SystemFault) : Task :=
            refuse ("cannot change directory to '" ++ path ++ "': " ++ fault.message)
          .look surroundings.directory path fun
            | .ok (directory, .directory) => go directory
            | .ok _ => lament .notDirectory
            | .error fault => lament fault
        | none => go surroundings.directory

def env : Program := fun name arguments surroundings =>
  match Arguments.read surroundings.environment patience false arguments with
  | .error complaint => fail name complaint ownRefusal
  | .ok { words, trace } =>
    withCall name {
      plain := "i0v"
      taking := "uCS"
      mayTake := "DIB"
      long := [("ignore-environment", 'i'), ("null", '0'), ("unset", 'u'), ("chdir", 'C'),
        ("debug", 'v'), ("split-string", 'S'), ("default-signal", 'D'), ("ignore-signal", 'I'),
        ("block-signal", 'B'), ("list-signal-handling", 'L')]
      stopsEarly := true
      refusal := ownRefusal }
      words fun call => runIn name call trace surroundings

/-! ## Arguments from the input

The words of the input become arguments of another program, which is carried out once or once for
some of them. -/

/-- The words of a text. Blanks and line ends separate them unless they are quoted. -/
def wordsOf : List Char → Option Char → Option (List Char) → List String
  | [], _, word => (word.map fun word => String.ofList word.reverse).toList
  | '\\' :: character :: rest, none, word => wordsOf rest none (some (character :: word.getD []))
  | character :: rest, some quote, word =>
    if character = quote then wordsOf rest none (some (word.getD []))
    else wordsOf rest (some quote) (some (character :: word.getD []))
  | character :: rest, none, word =>
    if character = '"' || character = '\'' then wordsOf rest (some character) (some (word.getD []))
    else if [' ', '\t', '\n'].contains character then
      (word.map fun word => String.ofList word.reverse).toList ++ wordsOf rest none none
    else wordsOf rest none (some (character :: word.getD []))

/-- Carries out a program with each of some lists of arguments. -/
def carryOutAll (name program : String) (surroundings : Surroundings) :
    List (List String) → Nat → Task
  | [], code => .exitWith code
  | arguments :: rest, code =>
    let start : Task :=
      .openFile 0 [] "/dev/null" .read fun _ =>
        becomeNamed program arguments surroundings fun fault =>
          fail name (program ++ ": " ++ fault.message)
            (if fault = .missing || fault = .notDirectory then 127 else 126)
    .fork start fun number =>
      .wait (some number) false fun
        | .ok (_, .signal signal) =>
          fail name (program ++ ": terminated by signal " ++ toString signal) 125
        | .ok (_, .code 0) => carryOutAll name program surroundings rest code
        | .ok (_, .code 255) =>
          fail name (program ++ ": exited with status 255; aborting") 124
        | .ok (_, .code ended) =>
          if ended = 126 || ended = 127 then .exitWith ended
          else carryOutAll name program surroundings rest 123
        | .error fault => fail name fault.message 1

def xargs : Program := fun name arguments surroundings =>
  withCall name {
    plain := "0rtpx"
    taking := "ndILEPs"
    long := [("null", '0'), ("no-run-if-empty", 'r'), ("max-args", 'n'), ("delimiter", 'd'),
      ("replace", 'I'), ("max-lines", 'L')]
    stopsEarly := true }
    arguments fun call =>
    let program := call.operands.headD "echo"
    let fixed := call.operands.drop 1
    readAll 0 (fun
      | .error fault => fail name fault.message 1
      | .ok text =>
        let lines := (text.splitOn "\n").filter fun line => !line.isEmpty
        let separated (separator : String) : List String :=
          let parts := text.splitOn separator
          if parts.getLast? = some "" then parts.dropLast else parts
        let words :=
          if call.has '0' then separated "\x00"
          else
            match call.argument? 'd' with
            | some separator => separated separator
            | none => wordsOf text.toList none none
        let calls :=
          match call.argument? 'I', call.argument? 'L', (call.argument? 'n').bind String.toNat? with
          | some mark, _, _ =>
            lines.map fun line =>
              let item := " ".intercalate (wordsOf line.toList none none)
              fixed.map fun word => word.replace mark item
          | none, some _, _ => lines.map fun line => fixed ++ wordsOf line.toList none none
          | none, none, some size =>
            (pieces size words).map fun some => fixed ++ some
          | none, none, none =>
            if words.isEmpty && call.has 'r' then [] else [fixed ++ words]
        carryOutAll name program surroundings calls 0) patience ""

end RpcEndpoint.Program
