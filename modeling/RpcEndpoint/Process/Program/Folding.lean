import RpcEndpoint.Process.Program.Filter

/-!
# Widths and tabs

Lines are broken at a width, and tabs become blanks or blanks tabs.
-/

namespace RpcEndpoint.Program.Folding

/-! ## Breaking lines -/

/-- How lines are broken. -/
structure Style where
  width : Nat
  /-- Whether each byte is one wide, whatever it is. -/
  inBytes : Bool
  /-- Whether lines are broken behind blanks if that is possible. -/
  atBlanks : Bool

/-- The column behind a character. -/
def Style.columnBehind (style : Style) (column : Nat) (character : Char) : Nat :=
  if style.inBytes then column + 1
  else if character = '\t' then (column / 8 + 1) * 8
  else if character = '\x08' then column - 1
  else if character = '\r' then 0
  else column + 1

/-- The column behind some characters. -/
def Style.columnOf (style : Style) (characters : List Char) : Nat :=
  characters.foldl style.columnBehind 0

def isBlank (character : Char) : Bool :=
  character = ' ' || character = '\t'

/-- Puts a character behind a part of a line, which is held from the last character to the first
one. What is broken off is given out. -/
def Style.push (style : Style) : Nat → List Char → Char → List (List Char) × List Char
  | 0, held, character => ([], character :: held)
  | fuel + 1, held, character =>
    if style.columnBehind (style.columnOf held.reverse) character ≤ style.width then
      ([], character :: held)
    else
      let after := held.takeWhile (!isBlank ·)
      if style.atBlanks && after.length < held.length then
        let (more, rest) := style.push fuel after character
        ((held.drop after.length).reverse :: more, rest)
      else if held.isEmpty then ([], [character])
      else
        let (more, rest) := style.push fuel [] character
        (held.reverse :: more, rest)

/-- A line in pieces. -/
def Style.break (style : Style) (line : List Char) : List (List Char) :=
  let (pieces, held) := line.foldl (fun (pieces, held) character =>
    let (more, rest) := style.push (held.length + 2) held character
    (more.reverse ++ pieces, rest)) (([] : List (List Char)), ([] : List Char))
  (held.reverse :: pieces).reverse

/-- The words of a call in which a width may stand by itself. -/
def spellWidth (words : List String) : List String :=
  words.flatMap fun word =>
    let digits := word.toList.drop 1
    if word.startsWith "-" && !digits.isEmpty && digits.all Char.isDigit then
      ["-w", String.ofList digits]
    else [word]

def fold : Program := fun name arguments surroundings =>
  withCall name {
    plain := "bs"
    taking := "w"
    long := [("bytes", 'b'), ("spaces", 's'), ("width", 'w')] }
    (spellWidth arguments) fun call =>
    let written := (call.argument? 'w').getD "80"
    let lament := "invalid number of columns: '" ++ written ++ "'"
    match written.toNat? with
    | none => fail name lament 1
    | some 0 => fail name (lament ++ ": Numerical result out of range") 1
    | some width =>
      let style : Style := ⟨width, call.has 'b', call.has 's'⟩
      (lineFilter () (fun _ line isEnded =>
        ("\n".intercalate ((style.break line.toList).map String.ofList)
          ++ (if isEnded then "\n" else ""), ()))
        (fun _ => false) fun _ => "").run name plainLament surroundings.directory call.operands
        fun _ => 0

/-! ## Tabs -/

/-- Where tabs lead to: to some columns, and behind them to multiples of a number, if there is
one. -/
structure Stops where
  columns : List Nat
  every : Option Nat

/-- The column that a tab leads to. -/
def Stops.next? (stops : Stops) (column : Nat) : Option Nat :=
  match stops.columns.find? (column < ·) with
  | some stop => some stop
  | none => stops.every.map fun size => (column / size + 1) * size

/-- Reads a list of stops. A single number stands for its multiples. -/
def stopsOf (written : String) : Except String Stops := do
  let parts := ((written.map fun one => if one = ',' then ' ' else one).splitOn " ").filter
    (!·.isEmpty)
  let numbers ← parts.mapM fun part =>
    match part.toNat? with
    | some 0 => .error "tab size cannot be 0"
    | some number => .ok number
    | none =>
      .error ("tab size contains invalid character(s): '"
        ++ String.ofList (part.toList.dropWhile Char.isDigit) ++ "'")
  match numbers with
  | [] => pure ⟨[], some 8⟩
  | [size] => pure ⟨[], some size⟩
  | many =>
    if (many.zip (many.drop 1)).all fun pair => pair.1 < pair.2 then pure ⟨many, none⟩
    else .error "tab sizes must be ascending"

/-- A text with blanks for tabs. With the flag this is done only at the beginnings of lines. -/
def expanded (stops : Stops) (initial : Bool) : List Char → Nat → Bool → List Char
  | [], _, _ => []
  | character :: rest, column, converts =>
    if converts && character = '\t' then
      let next := (stops.next? column).getD (column + 1)
      List.replicate (next - column) ' ' ++ expanded stops initial rest next true
    else
      let next := if character = '\x08' then column - 1 else column + 1
      character :: expanded stops initial rest next
        (converts && (!initial || isBlank character))

/-- Where a line is while its blanks become tabs. -/
structure Blanks where
  column : Nat := 0
  /-- Blanks that may still become a tab. -/
  held : List Char := []
  /-- Whether the first blank that is held stands right before a stop. It becomes a tab only if more
  blanks follow. -/
  isSingle : Bool := false
  /-- Whether a blank stands in front, or nothing does. -/
  behindBlank : Bool := true

namespace Blanks

/-- The blanks that are held when no tab takes their place. -/
def flush (blanks : Blanks) : List Char :=
  match blanks.held with
  | _ :: second :: rest => if blanks.isSingle then '\t' :: second :: rest else blanks.held
  | _ => blanks.held

/-- What is written for the blanks that are held when a tab leads to the next stop. -/
def tabs (blanks : Blanks) : List Char :=
  if blanks.isSingle then ['\t', '\t'] else ['\t']

/-- A text with tabs for blanks. With the flag this is done only at the beginnings of lines. Behind
the last stop all stays as it is. -/
def shrink (stops : Stops) (initial : Bool) : List Char → Blanks → List Char
  | [], blanks => blanks.flush
  | character :: rest, blanks =>
    if isBlank character then
      match stops.next? blanks.column with
      | none => blanks.flush ++ character :: rest
      | some next =>
        let column := blanks.column + 1
        if character = '\t' || (blanks.behindBlank && column = next) then
          blanks.tabs ++ shrink stops initial rest { column := next }
        else
          shrink stops initial rest {
            column
            held := blanks.held ++ [character]
            isSingle := blanks.isSingle || column = next }
    else if initial then blanks.flush ++ character :: rest
    else
      let column := if character = '\x08' then blanks.column - 1 else blanks.column + 1
      blanks.flush ++ character :: shrink stops initial rest { column, behindBlank := false }

end Blanks

/-- The words of a call in which stops may stand by themselves. -/
def spellStops (words : List String) : List String :=
  words.map fun word =>
    let digits := word.toList.drop 1
    if word.startsWith "-" && !digits.isEmpty && digits.head?.any Char.isDigit
        && digits.all fun one => one.isDigit || one = ',' then
      "-t" ++ String.ofList digits
    else word

/-- A program that changes each line by itself. -/
def lineProgram (options : Options) (change : Call → Stops → List Char → List Char) : Program :=
  fun name arguments surroundings =>
    withCall name options (spellStops arguments) fun call =>
      match stopsOf (",".intercalate (call.arguments 't')) with
      | .error complaint => fail name complaint 1
      | .ok stops =>
        (lineFilter () (fun _ line isEnded =>
          (String.ofList (change call stops line.toList) ++ (if isEnded then "\n" else ""), ()))
          (fun _ => false) fun _ => "").run name plainLament surroundings.directory call.operands
          fun _ => 0

def expand : Program :=
  lineProgram { plain := "i", taking := "t", long := [("initial", 'i'), ("tabs", 't')] }
    fun call stops line => expanded stops (call.has 'i') line 0 true

def unexpand : Program :=
  lineProgram {
    plain := "af"
    taking := "t"
    long := [("all", 'a'), ("first-only", 'f'), ("tabs", 't')] }
    fun call stops line =>
      let initial := !(call.has 'a' || call.has 't') || call.has 'f'
      Blanks.shrink stops initial line {}

end RpcEndpoint.Program.Folding
