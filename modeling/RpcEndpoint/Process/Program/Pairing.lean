import RpcEndpoint.Process.Program.Filter

/-!
# Lines with a common field

The lines of two files are paired by one of their fields, the key. Both files are read only once, so
they have to be in the order of their keys.
-/

namespace RpcEndpoint.Program.Pairing

/-! ## Style -/

/-- How lines are paired and shown. -/
structure Style where
  /-- What separates fields; nothing stands for blanks. -/
  separator : Option Char
  /-- The number of the field that is the key of the lines of the first file. -/
  firstField : Nat
  secondField : Nat
  /-- Which lines without a partner are shown. -/
  unpaired : List Nat
  showsPaired : Bool
  /-- What is shown for a field that is missing. -/
  filler : String
  /-- The fields that are shown, each as its file and its number; zero is the key. -/
  format : Option (List (Nat × Nat))
  /-- How many fields of the lines of the two files are shown, if that is fixed. -/
  counts : Option (Nat × Nat)
  folds : Bool
  mark : String

/-- A line with its fields. -/
structure Entry where
  text : String
  fields : List String

/-- The fields of a line that are separated by blanks. Behind blanks at the end stands one more. -/
def blankFields (characters : List Char) : Nat → List String
  | 0 => []
  | fuel + 1 =>
    match characters.dropWhile fun one => one = ' ' || one = '\t' || one = '\n' with
    | [] => if characters.isEmpty then [] else [""]
    | visible =>
      let isInside (one : Char) : Bool := one ≠ ' ' && one ≠ '\t' && one ≠ '\n'
      String.ofList (visible.takeWhile isInside) :: blankFields (visible.dropWhile isInside) fuel

namespace Style

/-- The entry of a line. -/
def entry (style : Style) (line : String) : Entry :=
  let fields := match style.separator with
    | some '\n' => [line]
    | some separator => line.splitOn separator.toString
    | none =>
      blankFields (line.toList.dropWhile fun one => one = ' ' || one = '\t') (line.length + 1)
  ⟨line, if line.isEmpty then [] else fields⟩

/-- The field with a number, if the line has it. -/
def field? (number : Nat) (entry : Entry) : Option String :=
  if number = 0 then none else entry.fields[number - 1]?

/-- The order of two keys. -/
def compare (style : Style) (left right : Option String) : Ordering :=
  let face (key? : Option String) : String :=
    let key := key?.getD ""
    if style.folds then key.map Char.toUpper else key
  Ord.compare (face left) (face right)

/-- How a field is shown. -/
def shown (style : Style) (field? : Option String) : String :=
  let field := field?.getD ""
  if field.isEmpty then style.filler else field

/-- The fields of an entry but for its key. -/
def others (style : Style) (key : Nat) (count? : Option Nat) (held? : Option Entry) :
    List String :=
  let fields := (held?.map Entry.fields).getD []
  let count := count?.getD fields.length
  ((List.range count).filter fun index => index + 1 ≠ key).map fun index =>
    style.shown fields[index]?

/-- A line of the output for one or two entries. -/
def line (style : Style) (first second : Option Entry) : String :=
  let key := match first, second with
    | some entry, _ => field? style.firstField entry
    | none, some entry => field? style.secondField entry
    | none, none => none
  let fields := match style.format with
    | none =>
      style.shown key :: (style.others style.firstField (style.counts.map Prod.fst) first
        ++ style.others style.secondField (style.counts.map Prod.snd) second)
    | some format => format.map fun (file, number) =>
      if file = 0 then style.shown key
      else style.shown ((if file = 1 then first else second).bind (field? number))
  ((style.separator.getD ' ').toString).intercalate fields ++ style.mark

end Style

/-! ## Files -/

/-- What is found when two files are paired. -/
inductive Finding where
  | line (text : String)
  /-- A line of a file stands behind a greater one. -/
  | disorder (file number : Nat) (text : String)

/-- One of the two files as far as it has been read. -/
structure Source where
  file : Nat
  key : Nat
  current? : Option Entry
  ahead : List Entry
  /-- The number of the current line. -/
  number : Nat
  /-- Whether the file was found not to be in order. -/
  isLate : Bool

namespace Source

/-- A file before its first line. -/
def start (file key : Nat) (entries : List Entry) : Source :=
  ⟨file, key, none, entries, 0, false⟩

/-- The key of the current line. -/
def currentKey? (source : Source) : Option String :=
  source.current?.bind (Style.field? source.key)

/-- Goes on to the next line, and looks at the order if that is asked for. -/
def next (style : Style) (isChecked : Bool) (source : Source) : Source × List Finding :=
  match source.ahead with
  | [] => ({ source with current? := none }, [])
  | following :: rest =>
    let isLate := isChecked && !source.isLate && source.current?.any fun entry =>
      style.compare (Style.field? source.key entry) (Style.field? source.key following) = .gt
    ({ source with
        current? := some following
        ahead := rest
        number := source.number + 1
        isLate := source.isLate || isLate },
      if isLate then [.disorder source.file (source.number + 1) following.text] else [])

/-- Takes the lines that have a key, at least the current one. -/
def takeGroup (style : Style) (isChecked : Bool) (key? : Option String) :
    Nat → Source → List Entry × Source × List Finding
  | 0, source => ([], source, [])
  | fuel + 1, source =>
    match source.current? with
    | none => ([], source, [])
    | some entry =>
      let (following, found) := source.next style isChecked
      if following.current?.isSome && style.compare following.currentKey? key? = .eq then
        let (entries, left, more) := takeGroup style isChecked key? fuel following
        (entry :: entries, left, found ++ more)
      else ([entry], following, found)

end Source

/-! ## Pairs -/

/-- The current line of a file without a partner. -/
def alone (style : Style) (source : Source) : List Finding :=
  if style.unpaired.contains source.file then
    [.line (if source.file = 1 then style.line source.current? none
      else style.line none source.current?)]
  else []

/-- Pairs the lines of two files. The order is looked at from the first line without a partner on,
or always, or never. -/
def pairs (style : Style) (isChecked : Bool → Bool) :
    Nat → Bool → Source → Source → List Finding
  | 0, _, _, _ => []
  | fuel + 1, isUnpaired, left, right =>
    let checks := isChecked isUnpaired
    let stepLeft (isUnpaired : Bool) : List Finding :=
      let (following, found) := left.next style checks
      alone style left ++ found ++ pairs style isChecked fuel isUnpaired following right
    let stepRight (isUnpaired : Bool) : List Finding :=
      let (following, found) := right.next style checks
      alone style right ++ found ++ pairs style isChecked fuel isUnpaired left following
    match left.current?, right.current? with
    | none, none => []
    | some _, none => stepLeft isUnpaired
    | none, some _ => stepRight isUnpaired
    | some _, some _ =>
      match style.compare left.currentKey? right.currentKey? with
      | .lt => stepLeft true
      | .gt => stepRight true
      | .eq =>
        let (firsts, followingLeft, foundLeft) :=
          left.takeGroup style checks right.currentKey? (left.ahead.length + 1)
        let (seconds, followingRight, foundRight) :=
          right.takeGroup style checks left.currentKey? (right.ahead.length + 1)
        let lines := firsts.flatMap fun first => seconds.map fun second =>
          Finding.line (style.line (some first) (some second))
        foundLeft ++ foundRight ++ (if style.showsPaired then lines else [])
          ++ pairs style isChecked fuel isUnpaired followingLeft followingRight

/-- Pairs the lines of two files. With the flag the first line of each is a title. -/
def join (style : Style) (isChecked : Bool → Bool) (hasTitles : Bool)
    (lefts rights : List Entry) : List Finding :=
  let skip := if hasTitles then 1 else 0
  let title := if hasTitles && !(lefts.isEmpty && rights.isEmpty) then
      [Finding.line (style.line lefts.head? rights.head?)]
    else []
  let source (file key : Nat) (entries : List Entry) : Source :=
    ({ Source.start file key (entries.drop skip) with number := skip }.next style false).1
  title ++ pairs style isChecked (lefts.length + rights.length + 1) false
    (source 1 style.firstField lefts) (source 2 style.secondField rights)

/-! ## Calls -/

/-- Reads the number of a field. -/
def readField (written : String) : Except String Nat :=
  match written.toNat? with
  | some (number + 1) => .ok (number + 1)
  | _ => .error ("invalid field number: '" ++ written ++ "'")

/-- Reads the fields that are to be shown. -/
def readFormat (written : String) : Except String (List (Nat × Nat)) :=
  ((written.map fun one => if one = ',' || one = '\t' then ' ' else one).splitOn " ").mapM
    fun part =>
      let noField := "invalid field specifier: '" ++ part ++ "'"
      match part.toList with
      | ['0'] => .ok (0, 0)
      | '0' :: _ => .error noField
      | '1' :: '.' :: rest => (readField (String.ofList rest)).map fun number => (1, number)
      | '2' :: '.' :: rest => (readField (String.ofList rest)).map fun number => (2, number)
      | '1' :: _ | '2' :: _ => .error noField
      | _ => .error ("invalid file number in field spec: '" ++ part ++ "'")

/-- The separator that a call asks for. -/
def separatorOf : List String → Except String (Option Char)
  | [] => .ok none
  | written :: rest => do
    let others ← separatorOf rest
    let separator ← match written.toList with
      | [] => .ok '\n'
      | ['\\', '0'] => .ok '\x00'
      | [one] => .ok one
      | _ => .error ("multi-character tab '" ++ written ++ "'")
    if others.all (· = separator) then pure (some separator) else .error "incompatible tabs"

/-- Whether the number of fields is to be fixed by the first lines. -/
def fixesCounts (call : Call) : Bool :=
  call.argument? 'o' = some "auto"

/-- The style that a call asks for. -/
def styleOf (call : Call) : Except String Style := do
  let field (letter : Char) : Except String (Option Nat) :=
    match call.argument? letter with
    | none => .ok none
    | some written => (readField written).map some
  let common ← field 'j'
  let first ← field '1'
  let second ← field '2'
  let file (written : String) : Except String Nat :=
    match written with
    | "1" => .ok 1
    | "2" => .ok 2
    | _ => .error ("invalid field number: '" ++ written ++ "'")
  let more ← (call.arguments 'a').mapM file
  let only ← (call.arguments 'v').mapM file
  let separator ← separatorOf (call.arguments 't')
  let formats ← (call.arguments 'o').mapM fun written =>
    if written = "auto" then .ok [] else readFormat written
  pure {
    separator
    firstField := (first.orElse fun _ => common).getD 1
    secondField := (second.orElse fun _ => common).getD 1
    unpaired := more ++ only
    showsPaired := only.isEmpty
    filler := (call.argument? 'e').getD ""
    format := if formats.flatten.isEmpty then none else some formats.flatten
    counts := none
    folds := call.has 'i'
    mark := recordMark (call.has 'z') }

/-- Writes what was found, with a complaint about each disorder. When the order is to be checked,
the first one is the end. -/
def report (name : String) (nameOf : Nat → String) (isStrict : Bool) :
    List Finding → String → Bool → Task
  | [], output, isLate =>
    put name output (if isLate then fail name "input is not in sorted order" 1 else .exitWith 0)
  | .line text :: rest, output, isLate => report name nameOf isStrict rest (output ++ text) isLate
  | .disorder file number text :: rest, output, _ =>
    let complaint := nameOf file ++ ":" ++ toString number ++ ": is not sorted: " ++ text
    complain name complaint
      (if isStrict then putAndExit name output 1
      else report name nameOf isStrict rest output true)

def program : Program := fun name arguments surroundings =>
  withCall name {
    plain := "iz"
    taking := "12aejotv"
    long := [("ignore-case", 'i'), ("check-order", 'C'), ("nocheck-order", 'N'), ("header", 'H'),
      ("zero-terminated", 'z')] }
    arguments fun call =>
    match styleOf call, call.operands with
    | .error complaint, _ => fail name complaint 1
    | _, [] => failUse name "missing operand"
    | _, [first] => failUse name ("missing operand after '" ++ first ++ "'")
    | _, _ :: _ :: extra :: _ => failUse name ("extra operand '" ++ extra ++ "'")
    | .ok style, [first, second] =>
      let isChecked (isUnpaired : Bool) : Bool := !call.has 'N' && (call.has 'C' || isUnpaired)
      let nameOf (file : Nat) : String := if file = 1 then first else second
      withTexts surroundings.directory (fun operand fault =>
        fail name (plainLament (quotedIfNeeded operand) fault) 1)
        (fun texts =>
          let entries (index : Nat) : List Entry :=
            (linesOf style.mark ((texts.getD index none).getD "")).map style.entry
          let count (index : Nat) : Nat := ((entries index).head?.map fun one =>
            one.fields.length).getD 0
          let counts := if fixesCounts call then some (count 0, count 1) else none
          let found := join { style with counts } isChecked (call.has 'H') (entries 0) (entries 1)
          report name nameOf (call.has 'C') found "" false)
        [first, second] []

end RpcEndpoint.Program.Pairing
