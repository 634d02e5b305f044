import RpcEndpoint.Process.Expression.Reader
import RpcEndpoint.Process.Program.Count

/-!
# Numbered lines

A text has pages, and a page a header, a body and a footer, each of which begins with a line of
marks. Which lines get numbers is said for each of the three.
-/

namespace RpcEndpoint.Program.Numbering

/-- Which lines get a number. -/
inductive Choice where
  | every
  | nonEmpty
  | none
  | matching (expression : Expression)

/-- The three parts of a page. -/
inductive Section where
  | header
  | body
  | footer
deriving Repr, DecidableEq

/-- Where a number stands within its width. -/
inductive Alignment where
  | left
  | right
  /-- To the right, with zeros before it. -/
  | zeros
deriving Repr, DecidableEq

/-- How lines are numbered. -/
structure Style where
  choice : Section → Choice
  /-- The characters of the marks. -/
  marks : String
  start : Int
  step : Int
  /-- How many empty lines count as one. -/
  blanks : Nat
  alignment : Alignment
  width : Nat
  separator : String
  /-- Whether the numbers go on from part to part. -/
  goesOn : Bool

/-- Where numbering has come to. -/
structure State where
  part : Section := .body
  number : Int
  /-- How many empty lines have come in a row. -/
  blanks : Nat := 0

/-- A number as it is shown. -/
def Style.display (style : Style) (number : Int) : String :=
  let sign := if number < 0 then "-" else ""
  let digits := toString number.natAbs
  let missing := style.width - (sign ++ digits).length
  let fill (character : Char) : String := String.ofList (List.replicate missing character)
  match style.alignment with
  | .left => sign ++ digits ++ fill ' '
  | .right => fill ' ' ++ sign ++ digits
  | .zeros => sign ++ fill '0' ++ digits

/-- The part of a page that a line begins. -/
def Style.beginning? (style : Style) (line : String) : Option Section :=
  if style.marks.isEmpty then none
  else if line = style.marks ++ style.marks ++ style.marks then some .header
  else if line = style.marks ++ style.marks then some .body
  else if line = style.marks then some .footer
  else none

/-- Takes a line. -/
def Style.take (style : Style) (state : State) (line : String) : String × State :=
  match style.beginning? line with
  | some part =>
    ("\n", {
      part
      number := if style.goesOn then state.number else style.start })
  | none =>
    let blanks := if line.isEmpty then state.blanks + 1 else 0
    let isNumbered :=
      match style.choice state.part with
      | .every => !line.isEmpty || style.blanks ≤ blanks
      | .nonEmpty => !line.isEmpty
      | .none => false
      | .matching expression => expression.isIn line
    if isNumbered then
      (style.display state.number ++ style.separator ++ line ++ "\n",
        { state with number := state.number + style.step, blanks := 0 })
    else
      (String.ofList (List.replicate (style.width + style.separator.length) ' ') ++ line ++ "\n",
        { state with blanks })

/-- Reads a choice of lines. -/
def choice? (title name written : String) : Except String Choice :=
  match written.toList with
  | ['a'] => .ok .every
  | ['t'] => .ok .nonEmpty
  | ['n'] => .ok .none
  | 'p' :: pattern =>
    (Expression.read {} (String.ofList pattern)).map fun held => .matching held.1
  | _ => .error ("invalid " ++ title ++ " numbering style: '" ++ written ++ "'" ++ advice name)

/-- Reads a number for an option. -/
def integer? (written : String) : Option Int :=
  match written.toList with
  | '-' :: digits => if digits.all Char.isDigit then
      (String.ofList digits).toNat?.map fun number => -(number : Int) else none
  | '+' :: digits => if digits.all Char.isDigit then
      (String.ofList digits).toNat?.map Int.ofNat else none
  | digits => if digits.all Char.isDigit then written.toNat?.map Int.ofNat else none

/-- The style that a call asks for. -/
def styleOf (name : String) (call : Call) : Except String Style := do
  let choose (letter : Char) (title standard : String) : Except String Choice :=
    choice? title name ((call.argument? letter).getD standard)
  let header ← choose 'h' "header" "n"
  let body ← choose 'b' "body" "t"
  let footer ← choose 'f' "footer" "n"
  let integer (letter : Char) (standard : Int) (title : String) : Except String Int :=
    match call.argument? letter with
    | none => .ok standard
    | some written =>
      match integer? written with
      | some number => .ok number
      | none => .error ("invalid " ++ title ++ ": '" ++ written ++ "'")
  let positive (letter : Char) (standard : Nat) (title : String) : Except String Nat := do
    let number ← integer letter standard title
    if number < 1 then
      .error ("invalid " ++ title ++ ": '" ++ (call.argument? letter).getD ""
        ++ "': Numerical result out of range")
    else pure number.toNat
  let start ← integer 'v' 1 "starting line number"
  let step ← integer 'i' 1 "line number increment"
  let blanks ← positive 'l' 1 "line number of blank lines"
  let width ← positive 'w' 6 "line number field width"
  let alignment ← match (call.argument? 'n').getD "rn" with
    | "ln" => .ok .left
    | "rn" => .ok .right
    | "rz" => .ok .zeros
    | written => .error ("invalid line numbering format: '" ++ written ++ "'" ++ advice name)
  let marks := match ((call.argument? 'd').getD "\\:").toList with
    | [single] => String.ofList [single, ':']
    | other => String.ofList other
  pure {
    choice := fun
      | .header => header
      | .body => body
      | .footer => footer
    marks
    start
    step
    blanks
    alignment
    width
    separator := (call.argument? 's').getD "\t"
    goesOn := call.has 'p' }

def program : Program := fun name arguments surroundings =>
  withCall name {
    plain := "p"
    taking := "bdfhilnsvw"
    long := [("header-numbering", 'h'), ("body-numbering", 'b'), ("footer-numbering", 'f'),
      ("starting-line-number", 'v'), ("line-increment", 'i'), ("no-renumber", 'p'),
      ("join-blank-lines", 'l'), ("number-separator", 's'), ("number-width", 'w'),
      ("number-format", 'n'), ("section-delimiter", 'd')] }
    arguments fun call =>
    match styleOf name call with
    | .error complaint => fail name complaint 1
    | .ok style =>
      (lineFilter ({ number := style.start } : State) (fun state line _ => style.take state line)
        (fun _ => false) fun _ => "").run name plainLament surroundings.directory call.operands
        fun _ => 0

end RpcEndpoint.Program.Numbering
