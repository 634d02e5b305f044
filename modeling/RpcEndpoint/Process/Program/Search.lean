import RpcEndpoint.Process.Expression.Reader
import RpcEndpoint.Process.Program.Basic
import RpcEndpoint.Process.Program.Search.Manner

/-!
# Searching files

How paths are visited, and what is found in their files.
-/

namespace RpcEndpoint.Program

/-! ## Walks

A walk visits some paths and, from each directory on, everything that is in it. A directory is
visited before what it holds. -/

/-- What a walk has come upon. -/
structure Visit where
  path : String
  /-- How many directories lie between the path and the one where the walk began. -/
  depth : Nat
  node : Called Node

/-- A name in a directory as a path. -/
def pathIn (directory name : String) : String :=
  if directory.endsWith "/" then directory ++ name else directory ++ "/" ++ name

/-- Visits some paths and what is in them, so many in all, and goes on with what was found. A
directory at the depth that is the deepest is not entered. -/
def walk (base : Place) (deepest? : Option Nat) (next : List Visit → Task) :
    Nat → List (String × Nat) → List Visit → Task
  | 0, _, visits | _, [], visits => next visits.reverse
  | fuel + 1, (path, depth) :: rest, visits =>
    .look base path fun
      | .error fault =>
        walk base deepest? next fuel rest (⟨path, depth, .error fault⟩ :: visits)
      | .ok (_, node) =>
        let visits := ⟨path, depth, .ok node⟩ :: visits
        if node = .directory && !deepest?.any (· ≤ depth) then
          .list base path fun names =>
            let inside := (names.filter fun name => name ≠ "." && name ≠ "..").map fun name =>
              (pathIn path name, depth + 1)
            walk base deepest? next fuel (inside ++ rest) visits
        else walk base deepest? next fuel rest visits

end RpcEndpoint.Program

namespace RpcEndpoint.Program.Search

/-! ## Searching

The files of a call are searched one after another for what its patterns say. -/

/-! ### Patterns -/

/-- Ends of words, of lines or nothing around what is searched for. -/
def bounded (call : Call) (expression : Expression) : Expression :=
  let isWord (character : Option Char) : Bool := character.any Kind.isWord
  if call.has 'x' then .both (.both .beginning expression) .ending
  else if call.has 'w' then
    .both (.both (.between fun before _ => !isWord before) expression)
      (.between fun _ after => !isWord after)
  else expression

/-- Whether capital and small letters are the same; the last option that says so counts. -/
def folds (call : Call) : Bool :=
  match call.options.reverse.find? fun given => ['i', 'y', 'N'].contains given.1 with
  | some given => given.1 ≠ 'N'
  | none => false

/-- How the patterns of a call are written. -/
def styleOf (call : Call) : Expression.Style where
  extended := call.has 'E' || call.has 'P'
  folds := folds call
  isRich := call.has 'P'

/-- The expression of all the patterns of a call, and what is to be said about them. -/
def wanted (call : Call) (patterns : List String) : Except String (Expression × List String) := do
  let style := styleOf call
  let read (pattern : String) : Except String Expression :=
    if call.has 'F' then .ok (Expression.literal style pattern)
    else (Expression.read style pattern).map Prod.fst
  let expressions ← patterns.mapM read
  let remarks ← if call.has 'F' || call.has 'P' then pure []
    else patterns.mapM (Expression.remarks style)
  match expressions with
  | [] => pure (.one fun _ => false, [])
  | first :: rest => pure (rest.foldl Expression.either first, remarks.flatten)

/-! ### Options -/

def options : Options where
  plain := "0123456789EFGHILPTUVZabchilnoqRrsuvwxyz"
  taking := "ABCDdefm"
  named := "BkgXYW"
  mayTake := "K"
  long := [("after-context", 'A'), ("basic-regexp", 'G'), ("before-context", 'B'),
    ("binary", 'U'), ("binary-files", 'k'), ("byte-offset", 'b'), ("color", 'K'),
    ("colour", 'K'), ("context", 'C'), ("count", 'c'), ("dereference-recursive", 'R'),
    ("devices", 'D'), ("directories", 'd'), ("exclude", 'X'), ("exclude-dir", 'X'),
    ("exclude-from", 'X'), ("extended-regexp", 'E'), ("file", 'f'),
    ("files-with-matches", 'l'), ("files-without-match", 'L'), ("fixed-regexp", 'F'),
    ("fixed-strings", 'F'), ("group-separator", 'g'), ("ignore-case", 'i'), ("include", 'X'),
    ("initial-tab", 'T'), ("invert-match", 'v'), ("label", 'Y'), ("line-buffered", 'J'),
    ("line-number", 'n'), ("line-regexp", 'x'), ("max-count", 'm'), ("no-filename", 'h'),
    ("no-group-separator", 'S'), ("no-ignore-case", 'N'), ("no-messages", 's'), ("null", 'Z'),
    ("null-data", 'z'), ("only-matching", 'o'), ("perl-regexp", 'P'), ("quiet", 'q'),
    ("recursive", 'r'), ("regexp", 'e'), ("silent", 'q'), ("text", 'a'),
    ("unix-byte-offsets", 'u'), ("with-filename", 'H'), ("word-regexp", 'w')]
  refusal := 2

/-- How many lines of context are asked for. -/
def contextOf (written : String) : Except String Nat :=
  match written.toNat? with
  | some count => .ok count
  | none => .error (written ++ ": invalid context length argument")

/-- The last argument of an option as a number of lines of context. -/
def lastContext (call : Call) (letter : Char) : Except String (Option Nat) :=
  match call.argument? letter with
  | some written => (contextOf written).map some
  | none => .ok none

/-- The number of lines of context that digits among the options stand for. -/
def digitsOf (call : Call) : Option Nat :=
  (String.ofList ((call.options.map Prod.fst).filter Char.isDigit)).toNat?

/-- What is shown. -/
def reportOf (call : Call) : Report :=
  let list? := call.options.reverse.find? fun given => ['l', 'L'].contains given.1
  match call.has 'q', list? with
  | true, _ => .nothing
  | false, some given => .names (given.1 = 'l')
  | false, none =>
    if call.has 'c' then .count else if call.has 'o' then .parts else .lines

/-- The limit of a number of lines. A negative one is none. -/
def limitOf (call : Call) : Except String (Option Nat) :=
  match call.argument? 'm' with
  | none => .ok none
  | some written =>
    match written.toInt? with
    | some limit => .ok (if 0 ≤ limit then some limit.toNat else none)
    | none => .error "invalid max count"

/-- The manner that a call asks for, with nothing to search for yet. -/
def mannerOf (call : Call) : Except String Manner := do
  let before ← lastContext call 'B'
  let after ← lastContext call 'A'
  let around ← lastContext call 'C'
  let around := around.or (digitsOf call)
  let limit? ← limitOf call
  let hasContext := (before.or (after.or around)).isSome
  let kinds := ['E', 'F', 'G', 'P'].filter fun kind => call.has kind
  if 1 < kinds.length then .error "conflicting matchers specified"
  let strange ← match call.has 'a', call.has 'I', call.argument? 'k' with
    | true, _, _ | _, _, some "text" => .ok Strange.shown
    | _, true, _ | _, _, some "without-match" => .ok .skipped
    | _, _, none | _, _, some "binary" => .ok .told
    | _, _, some _ => .error "unknown binary-files type"
  pure {
    expression := .nothing
    inverts := call.has 'v'
    report := reportOf call
    mark := if call.has 'z' then '\x00' else '\n'
    limit?
    before := (before.or around).getD 0
    after := (after.or around).getD 0
    divider? := if hasContext && !call.has 'S' then some ((call.argument? 'g').getD "--") else none
    hasNumbers := call.has 'n'
    hasOffsets := call.has 'b'
    isAligned := call.has 'T'
    endsNames := call.has 'Z'
    isColoured := ["always", "yes", "force"].contains ((call.argument? 'K').getD "never")
    strange }

/-! ### Files -/

/-- What a search is about, apart from its manner. -/
structure Setting where
  name : String
  base : Place
  label : String
  hasTitles : Bool
  /-- Whether nothing is said about files that cannot be read. -/
  isSilent : Bool
  skipsDirectories : Bool
  isPrompt : Bool

/-- How the search has gone in the files so far. -/
structure Outcome where
  isFound : Bool
  hasFailed : Bool
  /-- Whether a line has been chosen in any of them. -/
  isUsed : Bool

/-- The end of a search; the code tells whether anything has been found. -/
def Outcome.end (outcome : Outcome) (manner : Manner) : Task :=
  .exitWith (if outcome.hasFailed && !(outcome.isFound && manner.report = .nothing) then 2
    else if outcome.isFound then 0 else 1)

/-- Searches the files of some operands. -/
def searchAll (setting : Setting) (manner : Manner) : List String → Outcome → Task
  | [], outcome => outcome.end manner
  | operand :: rest, outcome =>
    let label := if operand = "-" then setting.label else operand
    let title? := if setting.hasTitles then some label else none
    let filter := manner.filter title? outcome.isUsed setting.isPrompt
    let lament (fault : SystemFault) : Task :=
      if fault = .isDirectory && setting.skipsDirectories then
        searchAll setting manner rest outcome
      else
        let goOn := searchAll setting manner rest { outcome with hasFailed := true }
        if setting.isSilent then goOn
        else complain setting.name (operand ++ ": " ++ fault.message) goOn
    openOperand setting.base operand fun
      | .error fault => lament fault
      | .ok file =>
        filter.feed setting.name file (fun result held stored =>
          match result with
          | .error fault => lament fault
          | .ok () =>
            let (output, progress) := manner.finish title? held
            let isFound := 0 < progress.chosen
            let outcome := {
              isFound := outcome.isFound || isFound
              hasFailed := outcome.hasFailed
              isUsed := progress.isUsed : Outcome }
            let goOn : Task :=
              if isFound && manner.report = .nothing then outcome.end manner
              else searchAll setting manner rest outcome
            let isTold := progress.isStrange && isFound
              && (manner.report = .lines || manner.report = .parts)
            put setting.name (stored ++ output ++ manner.summary title? label progress)
              (if isTold then complain setting.name (label ++ ": binary file matches") goOn
              else goOn))
          patience filter.start ""

/-! ### Calls -/

/-- The patterns of a text, one on each line. The end of the last line may be left out. -/
def patternsOf (text : String) : List String :=
  if text.isEmpty then []
  else if text.endsWith "\n" then (text.splitOn "\n").dropLast
  else text.splitOn "\n"

/-- Says something about each of some patterns. -/
def remark (name : String) (remarks : List String) (next : Task) : Task :=
  remarks.foldr (fun text next => complain name ("warning: " ++ text) next) next

/-- The files among some operands and in the directories among them, and whether there are such
directories. -/
def filesOf (base : Place) (operands : List String) (next : List String → Bool → Task) : Task :=
  let rename (path : String) : String :=
    if operands.isEmpty then (path.drop 2).toString else path
  walk base none (fun visits =>
    let isDirectory (visit : Visit) : Bool :=
      match visit.node with
      | .ok node => node = .directory
      | .error _ => false
    next ((visits.filter fun visit => !isDirectory visit).map fun visit => rename visit.path)
      (visits.any isDirectory))
    patience ((if operands.isEmpty then ["."] else operands).map fun path => (path, 0)) []

/-- Searches for the patterns of a call. -/
def begin (name : String) (call : Call) (manner : Manner) (operands patterns : List String)
    (surroundings : Surroundings) : Task :=
  match wanted call patterns with
  | .error complaint => fail name complaint 2
  | .ok (expression, remarks) =>
    let manner := { manner with expression := bounded call expression }
    let titles? := call.options.reverse.find? fun given => ['h', 'H'].contains given.1
    let setting (hasMany : Bool) : Setting := {
      name
      base := surroundings.directory
      label := (call.argument? 'Y').getD "(standard input)"
      hasTitles := match titles? with
        | some given => given.1 = 'H'
        | none => hasMany
      isSilent := call.has 's'
      skipsDirectories := (call.argument? 'd') = some "skip"
      isPrompt := call.has 'J' }
    let search (hasMany : Bool) (files : List String) : Task :=
      remark name remarks (searchAll (setting hasMany) manner files ⟨false, false, false⟩)
    let isRecursive := call.has 'r' || call.has 'R' || (call.argument? 'd') = some "recurse"
    if manner.limit? = some 0 then .exitWith 1
    else if isRecursive then
      filesOf surroundings.directory operands fun files hasDirectory =>
        search (hasDirectory || 1 < operands.length) files
    else search (1 < operands.length) (if operands.isEmpty then ["-"] else operands)

def program : Program := fun name arguments surroundings =>
  let usage : Task :=
    tell ("Usage: " ++ name ++ " [OPTION]... PATTERNS [FILE]...\nTry '" ++ name
      ++ " --help' for more information.\n") (.exitWith 2)
  match options.read (arguments.length + 1) arguments with
  | .error complaint => complain name complaint usage
  | .ok call =>
    let isGiven := call.has 'e' || call.has 'f'
    let given := (call.arguments 'e').flatMap fun pattern => pattern.splitOn "\n"
    let advised (next : Task) : Task :=
      if call.has 'u' then
        complain name "warning: --unix-byte-offsets (-u) is obsolete" next
      else next
    if call.has '?' then putAndExit name ("Usage: " ++ name ++ " [OPTION]... PATTERNS [FILE]...\n") 0
    else
      match mannerOf call, isGiven, call.operands with
      | .error complaint, _, _ => fail name complaint 2
      | _, false, [] => usage
      | .ok manner, false, pattern :: operands =>
        advised (begin name call manner operands (pattern.splitOn "\n") surroundings)
      | .ok manner, true, operands =>
        withTexts surroundings.directory (fun path fault =>
          fail name (path ++ ": " ++ fault.message) 2)
          (fun texts =>
            let read := texts.flatMap fun text? => patternsOf (text?.getD "")
            advised (begin name call manner operands (given ++ read) surroundings))
          (call.arguments 'f') []

/-- The same with an option that is given already. -/
def programWith (option : String) : Program := fun _ arguments surroundings =>
  program "grep" (option :: arguments) surroundings

end RpcEndpoint.Program.Search
