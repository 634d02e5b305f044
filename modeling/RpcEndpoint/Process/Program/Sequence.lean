import RpcEndpoint.Process.Printf
import RpcEndpoint.Process.Program.Filter

/-!
# Numbers in a row

Numbers from a first one to a last one, each a step away from the one before. They are decimals, so
that no step is lost by rounding.
-/

namespace RpcEndpoint.Program

/-- A number in a call: its value, and how it was written. -/
structure Term where
  /-- `significand * 10 ^ -scale`; an infinite one has none. -/
  significand? : Option Int
  scale : Nat
  negative : Bool
  /-- How many places stand behind the point. -/
  places : Nat
  /-- How many characters were written. -/
  width : Nat
deriving Repr, DecidableEq

namespace Term

/-- What stands for a number that cannot be read. -/
def lament (kind written : String) : String :=
  "invalid " ++ kind ++ " argument: '" ++ written ++ "'"

/-- Reads a number. -/
def read (written : String) : Except String Term := do
  let noNumber := lament "floating point" written
  let (real, rest) ← ((Numeral.readSigned? written).map .ok).getD (.error noNumber)
  if !rest.isEmpty then .error noNumber
  let visible := written.toList.dropWhile fun one => Kind.isSpace one || one = '+'
  let part := ((visible.dropWhile (· ≠ '.')).drop 1).takeWhile Char.isDigit
  let term (significand : Int) (scale : Nat) : Term :=
    ⟨some (if real.negative then -significand else significand), scale, real.negative,
      part.length, visible.length⟩
  match real.magnitude with
  | .finite significand base exponent =>
    if Numeral.greatestPower < exponent.natAbs then .error noNumber
    else if 0 ≤ exponent then return term (significand * Nat.pow base exponent.toNat) 0
    else if base = 10 then return term significand exponent.natAbs
    else return term (significand * Nat.pow 5 exponent.natAbs) exponent.natAbs
  | .infinite => return ⟨none, 0, real.negative, 0, 0⟩
  | .none => .error (lament "'not-a-number'" written)

/-- The value in units of a finer scale. -/
def scaled? (scale : Nat) (term : Term) : Option Int :=
  term.significand?.map fun significand => significand * (Nat.pow 10 (scale - term.scale) : Nat)

end Term

/-- How the numbers of a row are written. -/
structure RowStyle where
  scale : Nat
  places : Nat
  /-- How wide they are at the least, with zeros in front. -/
  width : Nat
  separator : String
  format : Option String

namespace RowStyle

/-- The number that stands in a row. -/
def display (style : RowStyle) (value : Int) : String :=
  let sign := if value < 0 then "-" else ""
  let digits := Decimal.fixedPlaces style.places false ⟨value.natAbs, Nat.pow 10 style.scale⟩
  match style.format with
  | some format =>
    let exact := Decimal.fixedPlaces style.scale false ⟨value.natAbs, Nat.pow 10 style.scale⟩
    (Printf.render .program format [sign ++ exact]).written
  | none => Printf.Layout.padNumber sign digits ⟨['0'], style.width, none⟩

end RowStyle

/-- How many numbers are written at once. -/
def rowBlock : Nat := 500

/-- Some numbers of a row, and the first one behind them; none if the row has ended. -/
def rowPart (isOver : Int → Bool) (step : Int) (display : Int → String) :
    Nat → Int → List String → List String × Option Int
  | 0, current, texts => (texts.reverse, some current)
  | fuel + 1, current, texts =>
    if isOver current then (texts.reverse, none)
    else rowPart isOver step display fuel (current + step) (display current :: texts)

/-- Writes a row from a number on. -/
def writeRow (name : String) (style : RowStyle) (isOver : Int → Bool) (step : Int) :
    Nat → Bool → Int → Task
  | 0, _, _ => .exitWith 0
  | fuel + 1, isFirst, current =>
    let (texts, next?) := rowPart isOver step style.display rowBlock current []
    let text := (if isFirst || texts.isEmpty then "" else style.separator)
      ++ style.separator.intercalate texts
    match next? with
    | some next =>
      put name text (.pause fun _ => writeRow name style isOver step fuel false next)
    | none => putAndExit name (text ++ (if isFirst && texts.isEmpty then "" else "\n")) 0

/-- Writes the row of three numbers. -/
def displayRow (name : String) (call : Call) (first step last : Term) : Task :=
  let scale := max first.scale (max step.scale last.scale)
  let places := max first.places step.places
  let widthOf (term : Term) : Nat :=
    let bare := term.width - (if term.places = 0 then 0 else term.places + 1)
    bare + (if places = 0 then 0 else places + 1)
  let style : RowStyle :=
    ⟨scale, places, if call.has 'w' then max (widthOf first) (widthOf last) else 0,
      (call.argument? 's').getD "\n", call.argument? 'f'⟩
  match first.scaled? scale, step.scaled? scale with
  | some start, some step =>
    let isOver (value : Int) : Bool :=
      match last.scaled? scale with
      | some last => if step < 0 then value < last else last < value
      | none => last.negative != (step < 0)
    writeRow name style isOver step patience true start
  | _, _ => .exitWith 0

/-- The words of a call with a mark before a negative number that comes first, which is not an
option. -/
def guardNumber : List String → List String
  | [] => []
  | word :: rest =>
    match word.toList with
    | ['-', 's'] | ['-', 'f'] =>
      match rest with
      | argument :: rest => word :: argument :: guardNumber rest
      | [] => [word]
    | '-' :: first :: _ =>
      if first.isDigit || first = '.' then "--" :: word :: rest
      else if word = "--" then word :: rest
      else word :: guardNumber rest
    | _ => word :: rest

/-- The characters of a format from each of its directives on. A doubled mark is none. -/
def directives : List Char → List (List Char)
  | [] => []
  | '%' :: '%' :: rest => directives rest
  | '%' :: rest => rest :: directives rest
  | _ :: rest => directives rest

/-- What is wrong with the format of a call: it has to have one directive, for a number. -/
def formatComplaint? (call : Call) : Option String :=
  (call.argument? 'f').bind fun format =>
    let lament (text : String) : Option String := some ("format '" ++ format ++ "' " ++ text)
    match directives format.toList with
    | [] => lament "has no % directive"
    | first :: more =>
      let behind := (first.dropWhile fun one => "-+#0 '".contains one).dropWhile Char.isDigit
      let letter := match behind with
        | '.' :: rest => rest.dropWhile Char.isDigit
        | rest => rest
      match letter with
      | [] => lament "ends in %"
      | letter :: _ =>
        if !"efgaEFGA".contains letter then
          lament ("has unknown %" ++ letter.toString ++ " directive")
        else if !more.isEmpty then lament "has too many % directives"
        else none

def seq : Program := fun name arguments _ =>
  withCall name {
    plain := "w"
    taking := "sf"
    long := [("equal-width", 'w'), ("separator", 's'), ("format", 'f')]
    stopsEarly := true }
    (guardNumber arguments) fun call =>
    let one : Term := ⟨some 1, 0, false, 0, 1⟩
    let withTerm (written : String) (next : Term → Task) : Task :=
      match Term.read written with
      | .ok term => next term
      | .error complaint => failUse name complaint
    match call.operands, formatComplaint? call with
    | [], _ => failUse name "missing operand"
    | _ :: _ :: _ :: extra :: _, _ => failUse name ("extra operand '" ++ extra ++ "'")
    | _, some complaint => fail name complaint 1
    | [last], _ => withTerm last fun last => displayRow name call one one last
    | [first, last], _ =>
      withTerm first fun first => withTerm last fun last => displayRow name call first one last
    | [first, step, last], _ =>
      withTerm first fun first =>
        withTerm step fun increment =>
          if increment.significand? = some 0 then
            failUse name ("invalid Zero increment value: '" ++ step ++ "'")
          else withTerm last fun last => displayRow name call first increment last

end RpcEndpoint.Program
