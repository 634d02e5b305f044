import RpcEndpoint.Process.Program.Count
import RpcEndpoint.Process.Numeral

/-!
# Runs of equal lines

Lines that follow one another are equal if parts of them are. Of each run one line is shown, or all
of them with marks between the runs.
-/

namespace RpcEndpoint.Program.Runs

/-- Where the marks between runs stand. -/
inductive Marks where
  | none
  | before
  | after
  | between
  | around
deriving Repr, DecidableEq

/-- Which lines are shown. -/
structure Style where
  /-- Whether runs of one line are shown. -/
  showsSingle : Bool
  /-- Whether the line of a longer run is shown. -/
  showsRepeated : Bool
  /-- Whether the other lines of a longer run are shown before it. -/
  showsAll : Bool
  counts : Bool
  marks : Marks
  /-- Whether whole runs are shown, whatever their lengths are. -/
  groups : Bool
  mark : String

/-- The lines in runs. -/
def runsOf (same : String → String → Bool) : List String → List (List String)
  | [] => []
  | line :: rest =>
    match runsOf same rest with
    | (next :: run) :: runs =>
      if same line next then (line :: next :: run) :: runs else [line] :: (next :: run) :: runs
    | runs => [line] :: runs

/-- What is shown of a run. -/
def Style.run (style : Style) (lines : List String) : List String :=
  match lines with
  | [] => []
  | first :: rest =>
    let count := if style.counts then aligned 7 lines.length ++ " " else ""
    if rest.isEmpty then if style.showsSingle then [count ++ first] else []
    else if style.showsAll then
      (if style.showsRepeated then lines else lines.dropLast)
    else if style.showsRepeated then [count ++ first]
    else []

/-- Runs of lines with the marks that belong to them. -/
def Style.render (style : Style) (runs : List (List String)) : String :=
  let texts := (runs.map fun run => if style.groups then run else style.run run).filter
    (!·.isEmpty)
  let blocks := texts.map fun lines => String.join (lines.map (· ++ style.mark))
  let between := style.mark.intercalate blocks
  match style.marks with
  | .none => String.join blocks
  | .between => between
  | .before => String.join (blocks.map (style.mark ++ ·))
  | .after => if blocks.isEmpty then "" else between ++ style.mark
  | .around => if blocks.isEmpty then "" else style.mark ++ between ++ style.mark

/-- A line without so many fields, each with the blanks in front of it. -/
def withoutFields : Nat → List Char → List Char
  | 0, line => line
  | count + 1, line =>
    let isBlank (character : Char) : Bool := [' ', '\t', '\n'].contains character
    withoutFields count ((line.dropWhile isBlank).dropWhile (!isBlank ·))

/-- The part of a line that is compared. -/
def comparedPart (fields characters : Nat) (limit : Option Nat) (folds : Bool) (line : String) :
    List Char :=
  let rest := (withoutFields fields line.toList).drop characters
  let part := match limit with
    | some limit => rest.take limit
    | none => rest
  if folds then part.map Char.toUpper else part

/-- The words of an option for marks. -/
def markNames : List (String × Marks) :=
  [("none", .none), ("prepend", .before), ("append", .after), ("separate", .between),
    ("both", .around)]

/-- The options, of which the later ones have no letters of their own. -/
def options : Options where
  plain := "cDduiz"
  taking := "fswAG"
  long := [("count", 'c'), ("repeated", 'd'), ("all-repeated", 'A'), ("group", 'G'),
    ("ignore-case", 'i'), ("unique", 'u'), ("skip-fields", 'f'), ("skip-chars", 's'),
    ("check-chars", 'w'), ("zero-terminated", 'z')]

/-- A call in which the options for marks have arguments, and numbers by themselves are options for
fields and characters to skip. -/
def spelled (words : List String) : List String :=
  words.map fun word =>
    let digits := (word.drop 1).toString
    let isNumber := !digits.isEmpty && digits.toList.all Char.isDigit
    if word = "--all-repeated" then "--all-repeated=none"
    else if word = "--group" then "--group=separate"
    else if word.startsWith "-" && isNumber then "-f" ++ digits
    else if word.startsWith "+" && isNumber then "-s" ++ digits
    else word

/-- Reads a number for an option. -/
def number? (call : Call) (letter : Char) : Except String (Option Nat) :=
  match call.argument? letter with
  | none => .ok none
  | some written =>
    match Quantity.read "" false written with
    | .ok number => .ok (some number)
    | .error .tooLarge => .ok (some Quantity.limit)
    | .error _ =>
      .error (written ++ ": invalid number of " ++ (match letter with
        | 'f' => "fields to skip"
        | 's' => "bytes to skip"
        | _ => "bytes to compare"))

/-- The style that a call asks for. -/
def styleOf (call : Call) : Except String Style := do
  let read (letter : Char) (option : String) (allowed : List String) : Except String Marks :=
    match call.argument? letter with
    | none => .ok .none
    | some written =>
      match markNames.lookup written with
      | some marks =>
        if allowed.contains written then .ok marks
        else .error ("invalid argument '" ++ written ++ "' for '--" ++ option ++ "'")
      | none => .error ("invalid argument '" ++ written ++ "' for '--" ++ option ++ "'")
  let repeated ← read 'A' "all-repeated" ["none", "prepend", "separate"]
  let group ← read 'G' "group" ["prepend", "append", "separate", "both"]
  let showsAll := call.has 'D' || call.has 'A'
  let groups := call.has 'G'
  if groups && (showsAll || call.has 'c' || call.has 'd' || call.has 'u') then
    .error "--group is mutually exclusive with -c/-d/-D/-u"
  else if showsAll && call.has 'c' then
    .error "printing all duplicated lines and repeat counts is meaningless"
  else
    pure {
      showsSingle := !call.has 'd' && !showsAll
      showsRepeated := !call.has 'u'
      showsAll
      counts := call.has 'c'
      marks := if groups then group else repeated
      groups
      mark := recordMark (call.has 'z') }

/-- Shows runs of the lines of a file. -/
def program : Program := fun name arguments surroundings =>
  withCall name options (spelled arguments) fun call =>
    let base := surroundings.directory
    match (do pure (← number? call 'f', ← number? call 's', ← number? call 'w')) with
    | .error complaint => fail name complaint 1
    | .ok (fields, characters, limit) =>
      match styleOf call, call.operands with
      | .error complaint, _ => failUse name complaint
      | .ok _, _ :: _ :: extra :: _ => failUse name ("extra operand '" ++ extra ++ "'")
      | .ok style, operands =>
        let part := comparedPart (fields.getD 0) (characters.getD 0) limit (call.has 'i')
        let filter := recordFilter style.mark [] (fun lines line _ => ("", line :: lines))
          (fun _ => false)
          fun lines =>
            style.render (runsOf (fun left right => part left = part right) lines.reverse)
        let work := filter.run name plainLament base (operands.take 1) fun _ => 0
        match operands[1]? with
        | none | some "-" => work
        | some path =>
          .openFile 1 base path .write fun
            | .ok () => work
            | .error fault => fail name (plainLament (quotedIfNeeded path) fault) 1

end RpcEndpoint.Program.Runs
