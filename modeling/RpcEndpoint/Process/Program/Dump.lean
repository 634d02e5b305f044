import RpcEndpoint.Process.Numeral
import RpcEndpoint.Process.Program.Filter

/-!
# Bytes in columns

Input is shown in blocks of some bytes, each on a line behind its offset: as characters, or as
numbers of one or more bytes. Several forms may be asked for, each on a line of its own under the
first. A block that is equal to the one before is left out.
-/

namespace RpcEndpoint.Program.Dump

/-! ## Forms -/

/-- How bytes are shown. -/
inductive Form where
  /-- By the names of characters. -/
  | names
  /-- As characters and their escapes. -/
  | characters
  | octal (size : Nat)
  | hexadecimal (size : Nat)
  | signed (size : Nat)
  | unsigned (size : Nat)
deriving Repr, DecidableEq

/-- A form on a line of its own, and whether the characters are shown behind it too. -/
structure Column where
  form : Form
  trails : Bool
deriving Repr, DecidableEq

namespace Form

/-- How many bytes are shown together. -/
def size : Form → Nat
  | .names | .characters => 1
  | .octal size | .hexadecimal size | .signed size | .unsigned size => size

/-- How wide a field is, without what divides it from the one before. -/
def width : Form → Nat
  | .names | .characters => 3
  | .octal size => (8 * size + 2) / 3
  | .hexadecimal size => 2 * size
  | .signed size => (toString (Nat.pow 2 (8 * size - 1))).length + 1
  | .unsigned size => (toString (Nat.pow 2 (8 * size) - 1)).length

/-- The names of the characters that cannot be seen. -/
def controlNames : List String :=
  ["nul", "soh", "stx", "etx", "eot", "enq", "ack", "bel", "bs", "ht", "nl", "vt", "ff", "cr",
    "so", "si", "dle", "dc1", "dc2", "dc3", "dc4", "nak", "syn", "etb", "can", "em", "sub", "esc",
    "fs", "gs", "rs", "us", "sp"]

/-- A text with zeros in front. -/
def zeroed (width : Nat) (digits : List Char) : String :=
  String.ofList (List.replicate (width - digits.length) '0' ++ digits)

/-- The name of a character, whose highest bit does not count. -/
def nameOf (character : Char) : String :=
  let code := character.toNat % 128
  if code = 127 then "del" else (controlNames[code]?).getD (Char.ofNat code).toString

/-- A character or its escape. -/
def escaped (character : Char) : String :=
  match character with
  | '\x00' => "\\0"
  | '\x07' => "\\a"
  | '\x08' => "\\b"
  | '\t' => "\\t"
  | '\n' => "\\n"
  | '\x0b' => "\\v"
  | '\x0c' => "\\f"
  | '\r' => "\\r"
  | _ =>
    if character = ' ' || Kind.isVisible character then character.toString
    else zeroed 3 (Nat.toDigits 8 character.toNat)

/-- The number that bytes are, the last of which counts most. -/
def numberOf (bytes : List Char) : Nat :=
  bytes.foldr (fun byte number => byte.toNat + 256 * number) 0

/-- What bytes that belong together are shown as. -/
def display (form : Form) (bytes : List Char) : String :=
  match form with
  | .names => nameOf (bytes.headD ' ')
  | .characters => escaped (bytes.headD ' ')
  | .octal _ => zeroed form.width (Nat.toDigits 8 (numberOf bytes))
  | .hexadecimal _ => zeroed form.width (Nat.toDigits 16 (numberOf bytes))
  | .unsigned _ => toString (numberOf bytes)
  | .signed size =>
    let number : Int := numberOf bytes
    toString (if number < Nat.pow 2 (8 * size - 1) then number else number - Nat.pow 2 (8 * size))

end Form

/-! ## Types in calls -/

/-- The sizes of numbers by their letters. -/
def sizeOf? : Char → Option Nat
  | 'C' => some 1
  | 'S' => some 2
  | 'I' => some 4
  | 'L' => some 8
  | _ => none

/-- Reads the size behind a letter; four bytes if nothing is said. -/
def readSize (characters : List Char) : Option Nat × List Char :=
  match characters with
  | first :: rest =>
    match sizeOf? first with
    | some size => (some size, rest)
    | none =>
      let digits := characters.takeWhile Char.isDigit
      if digits.isEmpty then (some 4, characters)
      else
        let size := (String.ofList digits).toNat?.getD 0
        (if [1, 2, 4, 8].contains size then some size else none, characters.drop digits.length)
  | [] => (some 4, [])

/-- Reads types that stand in a row, so many at the most. -/
def readTypes (written : String) : Nat → List Char → Except String (List Column)
  | 0, _ | _, [] => .ok []
  | fuel + 1, letter :: rest => do
    let numeric (form : Nat → Form) : Except String (Form × List Char) :=
      match readSize rest with
      | (some size, left) => .ok (form size, left)
      | (none, _) =>
        let digits := String.ofList (rest.takeWhile Char.isDigit)
        .error ("invalid type string '" ++ written
          ++ "';\nthis system doesn't provide a " ++ digits ++ "-byte integral type")
    let (form, left) ← match letter with
      | 'a' => .ok (.names, rest)
      | 'c' => .ok (.characters, rest)
      | 'o' => numeric .octal
      | 'x' => numeric .hexadecimal
      | 'd' => numeric .signed
      | 'u' => numeric .unsigned
      | _ =>
        .error ("invalid character '" ++ letter.toString ++ "' in type string '" ++ written ++ "'")
    let trails := left.head? = some 'z'
    let others ← readTypes written fuel (if trails then left.drop 1 else left)
    return ⟨form, trails⟩ :: others

/-- The types that the letters of a call stand for by themselves. -/
def shortTypes : List (Char × String) :=
  [('a', "a"), ('b', "o1"), ('c', "c"), ('d', "u2"), ('D', "u4"), ('h', "x2"), ('x', "x2"),
    ('H', "x4"), ('X', "x4"), ('i', "dI"), ('I', "dL"), ('l', "dL"), ('L', "dL"), ('o', "o2"),
    ('B', "o2"), ('O', "o4"), ('s', "d2")]

/-- The columns that the options of a call ask for. -/
def columnsOf : List (Char × String) → Except String (List Column)
  | [] => .ok []
  | (option, argument) :: rest => do
    let wanted := if option = 't' then some argument else shortTypes.lookup option
    let first ← match wanted with
      | some types => readTypes types types.length types.toList
      | none => .ok []
    return first ++ (← columnsOf rest)

/-! ## Lines -/

/-- How offsets are written. -/
inductive Radix where
  | octal
  | decimal
  | hexadecimal
  | absent
deriving Repr, DecidableEq

namespace Radix

def ofText? : String → Option Radix
  | "o" => some .octal
  | "d" => some .decimal
  | "x" => some .hexadecimal
  | "n" => some .absent
  | _ => none

def width : Radix → Nat
  | .octal | .decimal => 7
  | .hexadecimal => 6
  | .absent => 0

def display (radix : Radix) (offset : Nat) : String :=
  match radix with
  | .octal => Form.zeroed 7 (Nat.toDigits 8 offset)
  | .decimal => Form.zeroed 7 (Nat.toDigits 10 offset)
  | .hexadecimal => Form.zeroed 6 (Nat.toDigits 16 offset)
  | .absent => ""

end Radix

/-- How a dump looks. -/
structure Style where
  columns : List Column
  radix : Radix
  /-- How many bytes stand on a line. -/
  block : Nat
  /-- Whether equal blocks are shown again. -/
  repeats : Bool

namespace Style

/-- How wide the fields of a line are together. -/
def lineWidth (style : Style) : Nat :=
  (style.columns.map fun column =>
    (column.form.width + 1) * (style.block / column.form.size)).foldl max 0

/-- The groups of a block in a form, so many at the most. -/
def groups (size : Nat) : Nat → List Char → List (List Char)
  | 0, _ | _, [] => []
  | fuel + 1, bytes => bytes.take size :: groups size fuel (bytes.drop size)

/-- The fields of a line, each with its share of the space that is left. -/
def fields (form : Form) (count pad : Nat) : Nat → Nat → List (List Char) → String
  | _, _, [] => ""
  | index, left, bytes :: rest =>
    let next := pad * (index - 1) / count
    let width := left - next + form.width
    let shown := form.display bytes
    String.ofList (List.replicate (width - shown.length) ' ') ++ shown
      ++ fields form count pad (index - 1) next rest

/-- A column of a block. -/
def line (style : Style) (start : String) (bytes : List Char) (column : Column) : String :=
  let form := column.form
  let count := style.block / form.size
  let pad := style.lineWidth - form.width * count
  let body := fields form count pad count pad (groups form.size count bytes)
  let seen (character : Char) : Char :=
    if character = ' ' || Kind.isVisible character then character else '.'
  let trailer :=
    if column.trails then
      String.ofList (List.replicate ((count - bytes.length / form.size) * (form.width + 1)) ' ')
        ++ "  >" ++ String.ofList (bytes.map seen) ++ "<"
    else ""
  start ++ body ++ trailer ++ "\n"

/-- The lines of a block. -/
def lines (style : Style) (offset : Nat) (bytes : List Char) : String :=
  let starts := style.radix.display offset
    :: List.replicate style.columns.length (String.ofList (List.replicate style.radix.width ' '))
  String.join ((starts.zip style.columns).map fun (start, column) => style.line start bytes column)

/-- The greatest size of a group; a last block is filled with zeros up to a whole group. -/
def greatestSize (style : Style) : Nat :=
  (style.columns.map fun column => column.form.size).foldl max 1

end Style

/-! ## Filtering -/

/-- A dump on its way. -/
structure State where
  /-- The input that has not been shown. -/
  held : List Char
  /-- How many bytes are still left out. -/
  skips : Nat
  /-- How many bytes are still wanted, if that is limited. -/
  wanted : Option Nat
  offset : Nat
  previous : Option (List Char)
  /-- Whether the last block was left out. -/
  isOmitting : Bool

/-- Shows the whole blocks that are there, so many at the most. -/
def showBlocks (style : Style) : Nat → State → String → String × State
  | 0, state, shown => (shown, state)
  | fuel + 1, state, shown =>
    let bytes := state.held.take style.block
    if bytes.length < style.block then (shown, state)
    else
      let next := { state with
        held := state.held.drop style.block
        offset := state.offset + style.block
        previous := some bytes }
      if state.previous = some bytes && !style.repeats then
        showBlocks style fuel { next with isOmitting := true }
          (if state.isOmitting then shown else shown ++ "*\n")
      else
        showBlocks style fuel { next with isOmitting := false }
          (shown ++ style.lines state.offset bytes)

/-- Takes a piece of input. -/
def takePiece (style : Style) (state : State) (piece : String) : String × State :=
  let characters := piece.toList
  let skipped := min state.skips characters.length
  let usable := characters.drop skipped
  let taken := match state.wanted with
    | some count => usable.take count
    | none => usable
  let held := state.held ++ taken
  showBlocks style (held.length / style.block + 1) { state with
    held
    skips := state.skips - skipped
    offset := state.offset + skipped
    wanted := state.wanted.map fun count => count - taken.length } ""

/-- What is shown at the end. -/
def finishState (style : Style) (state : State) : String :=
  let size := style.greatestSize
  let rest :=
    if state.held.isEmpty then ""
    else
      let missing := (size - state.held.length % size) % size
      style.lines state.offset (state.held ++ List.replicate missing '\x00')
  let ending := style.radix.display (state.offset + state.held.length)
  rest ++ (if ending.isEmpty then "" else ending ++ "\n")

/-- A dump as a filter. -/
def filter (style : Style) (skips : Nat) (wanted : Option Nat) : Filter State where
  start := ⟨[], skips, wanted, 0, none, false⟩
  take := takePiece style
  isDone state := state.wanted = some 0
  finish state := finishState style state

/-! ## The program -/

/-- The words of a call in which the option for the width has its argument with it. -/
def spellBlock (words : List String) : List String :=
  words.map fun word => if word = "-w" || word = "--width" then "-w32" else word

/-- The width of a line, if it is a multiple of the greatest size. -/
def blockOf (size : Nat) (wanted : Option Nat) : Nat :=
  match wanted with
  | some width => if 0 < width && width % size = 0 then width else size
  | none => size * (16 / size)

def program : Program := fun name arguments surroundings =>
  withCall name {
    plain := "vabcdDhHiIlLoOsxXB"
    taking := "AjNtw"
    long := [("address-radix", 'A'), ("skip-bytes", 'j'), ("read-bytes", 'N'), ("format", 't'),
      ("output-duplicates", 'v'), ("width", 'w')] }
    (spellBlock arguments) fun call =>
    let quantity (value : String) : Except Quantity.Fault Nat :=
      Quantity.read (Quantity.usualUnits ++ "B") true value
    let wrong? := call.options.findSome? fun (option, value) =>
      if !(['j', 'N', 'w'].contains option) then none
      else
        match quantity value with
        | .ok _ => none
        | .error .notNumber => some ("invalid -" ++ option.toString ++ " argument '" ++ value ++ "'")
        | .error .wrongUnit =>
          some ("invalid suffix in -" ++ option.toString ++ " argument '" ++ value ++ "'")
        | .error .tooLarge => some ("-" ++ option.toString ++ " argument '" ++ value
          ++ "' too large")
    let number? (option : Char) : Option Nat :=
      (call.argument? option).bind fun value => (quantity value).toOption
    match Radix.ofText? ((call.argument? 'A').getD "o"), wrong?, columnsOf call.options with
    | none, _, _ =>
      fail name ("invalid output address radix '" ++ (call.argument? 'A').getD ""
        ++ "'; it must be one character from [doxn]") 1
    | _, some complaint, _ => fail name complaint 1
    | _, _, .error complaint => fail name complaint 1
    | some radix, none, .ok asked =>
      let columns := if asked.isEmpty then [⟨.octal 2, false⟩] else asked
      let size := (columns.map fun column => column.form.size).foldl max 1
      let style : Style := ⟨columns, radix, blockOf size (number? 'w'), call.has 'v'⟩
      (filter style ((number? 'j').getD 0) (number? 'N')).run name plainLament
        surroundings.directory call.operands fun _ => 0

end RpcEndpoint.Program.Dump
