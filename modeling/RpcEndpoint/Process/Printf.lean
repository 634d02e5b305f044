import RpcEndpoint.Process.Numeral
import RpcEndpoint.Text.Cited

/-!
# Formatted output

The format of the `printf` command: escapes with a backslash and conversions with a percent sign. A
format is used again as long as it takes arguments and there are any. The shell and the program of
this name differ in a few rules and in the words of their complaints.
-/

namespace RpcEndpoint.Printf

open Numeral

/-! ## Escapes -/

/-- The character of an escape with one letter. -/
def escapeLetter? : Char → Option Char
  | 'a' => some '\x07'
  | 'b' => some '\x08'
  | 'e' => some '\x1b'
  | 'f' => some '\x0c'
  | 'n' => some '\n'
  | 'r' => some '\r'
  | 't' => some '\t'
  | 'v' => some '\x0b'
  | '\\' => some '\\'
  | _ => none

/-- What comes of an escape, and what stands behind it. -/
inductive Escape where
  | text (written : List Char) (rest : List Char)
  /-- Nothing is written from here on. -/
  | stop
  /-- The escape makes no sense. -/
  | wrong (complaint : String)

/-- Which escapes there are. -/
structure EscapeRules where
  /-- Whether a zero may stand before three octal digits. -/
  leadingZero : Bool
  /-- Whether there are hexadecimal escapes. -/
  hexadecimal : Bool
  /-- Whether there is an escape that ends all output. -/
  stops : Bool
  /-- Whether there are escapes for double quotes and for characters by their numbers, and digits
  may not be missing. -/
  isRich : Bool
deriving Repr, DecidableEq

def missingDigits : String := "missing hexadecimal number in escape"

/-- Reads the number of a character, of four digits or eight. Characters beyond ASCII stay as they
are written. -/
def readCharacterNumber (letter : Char) (characters : List Char) : Escape :=
  let width := if letter = 'u' then 4 else 8
  let (code, rest) := readDigits 16 width 0 characters
  let shown := String.ofList ((characters.take width).map Char.toUpper)
  if characters.length < rest.length + width then .wrong missingDigits
  else if 0xD800 ≤ code && code < 0xE000 then
    .wrong ("invalid universal character name \\" ++ letter.toString ++ shown.map Char.toLower)
  else if code < 128 then .text [Char.ofNat code] rest
  else if code < 0x10000 then .text ("\\u" ++ (shown.takeEnd 4).toString).toList rest
  else .text ("\\U" ++ shown).toList rest

/-- Reads an escape after its backslash. -/
def readEscape (rules : EscapeRules) : List Char → Escape
  | [] => .text ['\\'] []
  | character :: rest =>
    if isOctal character then
      let more := if rules.leadingZero && character = '0' then 3 else 2
      let (code, rest) := readDigits 8 more (digitValue character) rest
      .text [Char.ofNat (code % 256)] rest
    else if rules.stops && character = 'c' then .stop
    else if rules.hexadecimal && character = 'x' then
      let (code, left) := readDigits 16 2 0 rest
      if left.length < rest.length then .text [Char.ofNat (code % 256)] left
      else if rules.isRich then .wrong missingDigits
      else .text ['\\', 'x'] rest
    else if rules.isRich && (character = 'u' || character = 'U') then
      readCharacterNumber character rest
    else if rules.isRich && character = '"' then .text ['"'] rest
    else
      match escapeLetter? character with
      | some meant => .text [meant] rest
      | none => .text ['\\', character] rest

/-- A text with its escapes replaced. -/
structure Expanded where
  text : String
  /-- Whether nothing more is to be written. -/
  stopped : Bool
  complaint? : Option String := none

/-- Replaces the escapes of a text. What has been written stands in reverse. -/
def expandWith (rules : EscapeRules) : Nat → List Char → List Char → Expanded
  | 0, written, _ | _, written, [] => ⟨String.ofList written.reverse, false, none⟩
  | fuel + 1, written, '\\' :: rest =>
    match readEscape rules rest with
    | .stop => ⟨String.ofList written.reverse, true, none⟩
    | .wrong complaint => ⟨String.ofList written.reverse, true, some complaint⟩
    | .text more rest => expandWith rules fuel (more.reverse ++ written) rest
  | fuel + 1, written, character :: rest =>
    expandWith rules fuel (character :: written) rest

/-- A text with the escapes of arguments replaced. -/
def expand (hexadecimal isRich : Bool) (text : String) : Expanded :=
  expandWith ⟨true, hexadecimal, true, isRich⟩ (text.length + 1) [] text.toList

/-! ## Words of the machine -/

/-- The bound of the numbers of one machine word. -/
def wordBound : Int := 0x10000000000000000

def greatestSigned : Int := 0x7FFFFFFFFFFFFFFF

def leastSigned : Int := -0x8000000000000000

/-- The nearest signed word. -/
def clampSigned (value : Int) : Int :=
  max leastSigned (min greatestSigned value)

/-- The word that an unsigned conversion shows. -/
def toUnsigned (value : Int) : Nat :=
  if wordBound ≤ value.natAbs then 0xFFFFFFFFFFFFFFFF else (value % wordBound).toNat

/-! ## Conversions -/

/-- A conversion: its flags, the width and the precision. -/
structure Layout where
  flags : List Char
  width : Nat
  precision : Option Nat
deriving Repr, DecidableEq

namespace Layout

def has (flag : Char) (layout : Layout) : Bool :=
  layout.flags.contains flag

/-- Fills a text up to the width. -/
def pad (text : String) (layout : Layout) : String :=
  let filling := String.ofList (List.replicate (layout.width - text.length) ' ')
  if layout.has '-' then text ++ filling else filling ++ text

/-- Fills digits up to the precision, or between their sign and the width. -/
def padNumber (sign digits : String) (layout : Layout) : String :=
  let zeros (count : Nat) : String := String.ofList (List.replicate count '0')
  match layout.precision with
  | some precision => layout.pad (sign ++ zeros (precision - digits.length) ++ digits)
  | none =>
    if layout.has '0' && !layout.has '-' then
      sign ++ zeros (layout.width - sign.length - digits.length) ++ digits
    else layout.pad (sign ++ digits)

def signed (value : Int) (layout : Layout) : String :=
  let sign :=
    if value < 0 then "-" else if layout.has '+' then "+" else if layout.has ' ' then " " else ""
  layout.padNumber sign (toString value.natAbs)

def unsigned (base : Nat) (mark : String) (upper : Bool) (value : Nat) (layout : Layout) :
    String :=
  let digits := String.ofList (Nat.toDigits base value)
  let shown := if upper then digits.map Char.toUpper else digits
  -- Zeros in front of octal digits are a mark already.
  let isMarked := base = 8 && digits.length < layout.precision.getD 0
  layout.padNumber (if layout.has '#' && value ≠ 0 && !isMarked then mark else "") shown

/-- A number with places, as its letter says. -/
def real (precision : Decimal.Precision) (letter : Char) (value : Signed) (layout : Layout) :
    String :=
  let sign :=
    if value.negative then "-"
    else if layout.has '+' then "+" else if layout.has ' ' then " " else ""
  let cased (text : String) : String := if letter.isUpper then text.map Char.toUpper else text
  let places := layout.precision.getD 6
  let free : Layout := { layout with precision := none }
  match value.magnitude, value.magnitude.ratio? with
  | .none, _ => layout.pad (sign ++ cased "nan")
  | .finite significand _ power, some ratio =>
    match letter.toLower with
    | 'a' =>
      free.padNumber (sign ++ cased "0x")
        (cased (precision.hexadecimal layout.precision (layout.has '#') significand power))
    | 'e' =>
      free.padNumber sign (cased (Decimal.scientificPlaces "e" places (layout.has '#') ratio))
    | 'f' => free.padNumber sign (Decimal.fixedPlaces places (layout.has '#') ratio)
    | _ => free.padNumber sign (cased (Decimal.generalDigits "e" places (layout.has '#') ratio))
  | _, _ => layout.pad (sign ++ cased "inf")

def text (held : String) (layout : Layout) : String :=
  layout.pad (match layout.precision with
    | some precision => (held.take precision).toString
    | none => held)

end Layout

/-! ## Formats -/

/-- A conversion before its values are known: its flags, whether it has nothing but a letter,
whether it has a precision, and the letter. -/
structure Directive where
  flags : List Char
  isBare : Bool
  isMeasured : Bool
  letter : Char

/-- The conversions to which a flag means nothing. -/
def barredBy : Char → List Char
  | '\'' | 'I' => ['a', 'A', 'c', 'e', 'E', 'o', 's', 'x', 'X']
  | '#' => ['c', 'd', 'i', 's', 'u']
  | '0' => ['c', 's']
  | _ => []

/-- Who formats: the shell or a program. -/
structure Dialect where
  /-- The escapes of formats. -/
  rules : EscapeRules
  /-- The format in which numbers with places are held. -/
  precision : Decimal.Precision
  flags : List Char
  /-- The letters before the one of a conversion that tell the size of a number. They mean
  nothing. -/
  sizes : List Char
  accepts : Directive → Bool
  notNumeric : String → String
  notWhole : String → String
  tooGreat : String → String
  invalid : String → String
  missing : String → String
  tooWide : String
  /-- The code after a format that makes no sense. -/
  refusal : Nat

/-- The command of the shell. -/
def Dialect.builtIn : Dialect where
  rules := ⟨false, false, false, false⟩
  precision := .double
  flags := ['#', '-', '+', ' ', '0']
  sizes := []
  accepts directive := "sbcdiuxXoaAeEfFgG".contains directive.letter
  notNumeric argument := argument ++ ": expected numeric value"
  notWhole argument := argument ++ ": not completely converted"
  tooGreat argument := argument ++ ": Numerical result out of range"
  invalid conversion := conversion ++ ": invalid directive"
  missing _ := "missing format character"
  tooWide := "xvsnprintf failed"
  refusal := 2

/-- The program. -/
def Dialect.program : Dialect where
  rules := ⟨false, true, true, true⟩
  precision := .extended
  flags := ['#', '-', '+', ' ', '0', '\'', 'I']
  sizes := ['h', 'j', 'l', 'L', 't', 'z']
  accepts directive :=
    let barred :=
      directive.flags.flatMap barredBy ++ (if directive.isMeasured then ['c'] else [])
    directive.isBare && "bq".contains directive.letter
      || "scdiuxXoaAeEfFgG".contains directive.letter && !barred.contains directive.letter
  notNumeric argument := Text.cited argument ++ ": expected a numeric value"
  notWhole argument := Text.cited argument ++ ": value not completely converted"
  tooGreat argument := Text.cited argument ++ ": Numerical result out of range"
  invalid conversion := conversion ++ ": invalid conversion specification"
  missing conversion := conversion ++ ": invalid conversion specification"
  tooWide := "write error"
  refusal := 1

/-- Output on its way. -/
structure Writer where
  written : String
  arguments : List String
  complaints : List String
  code : Nat
  /-- Whether nothing more is written. -/
  stopped : Bool

namespace Writer

def add (text : String) (writer : Writer) : Writer :=
  { writer with written := writer.written ++ text }

def complain (complaint : String) (writer : Writer) : Writer :=
  { writer with complaints := writer.complaints ++ [complaint], code := 1 }

/-- Complains about what does no harm. -/
def warn (complaint : String) (writer : Writer) : Writer :=
  { writer with complaints := writer.complaints ++ [complaint] }

/-- Gives up at a conversion that makes no sense. -/
def refuse (dialect : Dialect) (complaint : String) (writer : Writer) : Writer :=
  { writer.complain complaint with code := dialect.refusal, stopped := true }

/-- The next argument, if there is one, and what comes after it. -/
def next (writer : Writer) : String × Writer :=
  match writer.arguments with
  | argument :: rest => (argument, { writer with arguments := rest })
  | [] => ("", writer)

/-- The code of the character behind a quote. -/
def constant? (dialect : Dialect) (argument : String) (writer : Writer) :
    Option (Nat × Writer) :=
  match argument.toList with
  | quote :: characters =>
    if quote = '\'' || quote = '"' then
      match characters with
      | [] => if dialect.rules.isRich then none else some (0, writer)
      | character :: more =>
        let warning := "warning: " ++ String.ofList more
          ++ ": character(s) following character constant have been ignored"
        some (character.toNat,
          if dialect.rules.isRich && !more.isEmpty then writer.warn warning else writer)
    else none
  | [] => none

/-- The next argument as a number. -/
def nextNumber (dialect : Dialect) (writer : Writer) : Int × Writer :=
  let (argument, rest) := writer.next
  match constant? dialect argument rest with
  | some (code, rest) => (code, rest)
  | none =>
    match readNumber argument with
    | .whole value =>
      if value < -wordBound || wordBound ≤ value then
        (value, rest.complain (dialect.tooGreat argument))
      else (value, rest)
    | .partly value => (value, rest.complain (dialect.notWhole argument))
    | .nothing => (0, rest.complain (dialect.notNumeric argument))

/-- The next argument as a signed number. -/
def nextSigned (dialect : Dialect) (writer : Writer) : Int × Writer :=
  let (value, rest) := writer.nextNumber dialect
  let isTold := wordBound ≤ value.natAbs
  if clampSigned value = value || isTold then (clampSigned value, rest)
  else (clampSigned value, rest.complain (dialect.tooGreat writer.next.1))

/-- The next argument as a number that may have places. -/
def nextReal (dialect : Dialect) (writer : Writer) : Signed × Writer :=
  let (argument, rest) := writer.next
  let whole (value : Nat) : Signed := (Signed.rounded dialect.precision ⟨false, .finite value 2 0⟩).1
  if argument.isEmpty then (whole 0, rest)
  else
    match constant? dialect argument rest, readSigned? argument with
    | some (code, rest), _ => (whole code, rest)
    | none, none => (whole 0, rest.complain (dialect.notNumeric argument))
    | none, some (real, left) =>
      let (rounded, isLost) := real.rounded dialect.precision
      (rounded,
        if !left.isEmpty then rest.complain (dialect.notWhole argument)
        else if isLost then rest.complain (dialect.tooGreat argument)
        else rest)

/-- Carries out a conversion. -/
def convert (dialect : Dialect) (letter : Char) (layout : Layout) (writer : Writer) : Writer :=
  match letter with
  | 's' =>
    let (argument, rest) := writer.next
    rest.add (layout.text argument)
  | 'c' =>
    let (argument, rest) := writer.next
    rest.add (layout.pad (if argument.isEmpty then "\x00" else (argument.take 1).toString))
  | 'b' =>
    let (argument, rest) := writer.next
    let expanded := expand dialect.rules.hexadecimal dialect.rules.isRich argument
    let written := { rest.add (layout.text expanded.text) with stopped := expanded.stopped }
    match expanded.complaint? with
    | some complaint => written.refuse dialect complaint
    | none => written
  | 'q' =>
    let (argument, rest) := writer.next
    rest.add (Text.reusableIfNeeded argument)
  | 'd' | 'i' =>
    let (value, rest) := writer.nextSigned dialect
    rest.add (layout.signed value)
  | 'u' =>
    let (value, rest) := writer.nextNumber dialect
    rest.add (layout.unsigned 10 "" false (toUnsigned value))
  | 'x' =>
    let (value, rest) := writer.nextNumber dialect
    rest.add (layout.unsigned 16 "0x" false (toUnsigned value))
  | 'X' =>
    let (value, rest) := writer.nextNumber dialect
    rest.add (layout.unsigned 16 "0X" true (toUnsigned value))
  | 'o' =>
    let (value, rest) := writer.nextNumber dialect
    rest.add (layout.unsigned 8 "0" false (toUnsigned value))
  | _ =>
    let (value, rest) := writer.nextReal dialect
    rest.add (layout.real dialect.precision letter value)

/-- No width and no precision is as great as this. -/
def widthBound : Nat := 0x7FFFFFFF

/-- A number in a conversion: digits, or a star for the next argument. -/
def readCount (dialect : Dialect) (format : List Char) (writer : Writer) :
    Int × List Char × Writer :=
  match format with
  | '*' :: rest =>
    let (value, taken) := writer.nextSigned dialect
    (value, rest, taken)
  | _ =>
    let (value, rest) := readDigits 10 format.length 0 format
    (value, rest, writer)

/-- Reads a conversion after its percent sign and carries it out. -/
def conversion (dialect : Dialect) (format : List Char) (writer : Writer) :
    List Char × Writer :=
  let flags := format.takeWhile dialect.flags.contains
  let (width, afterWidth, sized) := readCount dialect (format.drop flags.length) writer
  let (precision, afterPrecision, measured) : Option Int × List Char × Writer :=
    match afterWidth with
    | '.' :: rest =>
      let (count, rest, taken) := readCount dialect rest sized
      (some count, rest, taken)
    | rest => (none, rest, sized)
  let told (rest : List Char) : String :=
    String.ofList ('%' :: format.take (format.length - rest.length))
  match afterPrecision.dropWhile dialect.sizes.contains with
  | [] => ([], measured.refuse dialect (dialect.missing (told [])))
  | letter :: rest =>
    let isBare := format.length = rest.length + 1
    let count := (precision.filter (0 ≤ ·)).map Int.toNat
    let layout : Layout :=
      ⟨if width < 0 then '-' :: flags else flags, width.natAbs, count⟩
    if !dialect.accepts ⟨flags, isBare, precision.isSome, letter⟩ then
      (rest, measured.refuse dialect (dialect.invalid (told rest)))
    else if widthBound ≤ layout.width || widthBound ≤ count.getD 0 then
      (rest, measured.refuse dialect dialect.tooWide)
    else (rest, measured.convert dialect letter layout)

/-- Uses a format once. -/
def once (dialect : Dialect) : Nat → List Char → Writer → Writer
  | 0, _, writer | _, [], writer => writer
  | fuel + 1, '\\' :: rest, writer =>
    match readEscape dialect.rules rest with
    | .stop => { writer with stopped := true }
    | .wrong complaint => writer.refuse dialect complaint
    | .text more rest => once dialect fuel rest (writer.add (String.ofList more))
  | fuel + 1, '%' :: '%' :: rest, writer => once dialect fuel rest (writer.add "%")
  | fuel + 1, '%' :: rest, writer =>
    let (rest, converted) := writer.conversion dialect rest
    if converted.stopped then converted else once dialect fuel rest converted
  | fuel + 1, character :: rest, writer =>
    once dialect fuel rest (writer.add character.toString)

/-- Uses a format as long as it takes arguments, so many times at the most. -/
def repeated (dialect : Dialect) (format : String) : Nat → Writer → Writer
  | 0, writer => writer
  | fuel + 1, writer =>
    let used := once dialect (format.length + 1) format.toList writer
    if used.stopped || used.arguments.isEmpty then used
    else if used.arguments.length = writer.arguments.length then
      match used.arguments with
      | first :: _ =>
        if dialect.rules.isRich then
          used.warn ("warning: ignoring excess arguments, starting with " ++ Text.reusable first)
        else used
      | [] => used
    else repeated dialect format fuel used

end Writer

/-- Formats arguments. -/
def render (dialect : Dialect) (format : String) (arguments : List String) : Writer :=
  Writer.repeated dialect format (arguments.length + 1) ⟨"", arguments, [], 0, false⟩

end RpcEndpoint.Printf
