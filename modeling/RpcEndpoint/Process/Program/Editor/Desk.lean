import RpcEndpoint.Process.Program.Basic
import RpcEndpoint.Process.Program.Editor.Reader
import RpcEndpoint.Process.Program.Editor.Script

/-!
# The desk of the editor

What an edit works on: the lines that come in, the pieces that take the place of others, and what is
remembered from one line to the next.
-/

namespace RpcEndpoint.Editor

/-! ## The lines that are edited

The lines of several files follow one another as if they were one file. They are read only as far as
they are asked for. -/

/-- The lines that have not been edited yet. -/
structure Input where
  base : Place
  /-- What ends a line. -/
  mark : String
  /-- The files that have not been opened. -/
  operands : List String
  /-- The file that is being read. -/
  file : Option Nat
  /-- The name of the file that is being read, or was the last one. -/
  current : String
  /-- How many bytes are read at once. -/
  piece : Nat
  lines : List String
  /-- The beginning of a line whose end has not been read. -/
  begun : String
  failed : Bool

namespace Input

/-- Reads on until there is a whole line, or the beginning of one if that is enough, or nothing
more to read. -/
def refill (name : String) (beginningIsEnough : Bool) (next : Input → Task) :
    Nat → Input → Task
  | 0, input => next input
  | fuel + 1, input =>
    let goOn := refill name beginningIsEnough next fuel
    if !input.lines.isEmpty || beginningIsEnough && !input.begun.isEmpty then next input
    else
      match input.file, input.operands with
      | some file, _ =>
        .read file input.piece fun
          | .ok [] =>
            if input.begun.isEmpty then goOn { input with file := none }
            else next { input with file := none }
          | .ok bytes =>
            let parts := (input.begun ++ Octets.ofBytes bytes).splitOn input.mark
            goOn { input with lines := parts.dropLast, begun := parts.getLast?.getD "" }
          | .error fault =>
            Program.fail name ("read error on " ++ input.current ++ ": " ++ fault.message) 4
      | none, operand :: operands =>
        if !input.begun.isEmpty then next input
        else
          Program.openOperand input.base operand fun
            | .ok file => goOn { input with file := some file, operands, current := operand }
            | .error fault =>
              Program.complain name ("can't read " ++ operand ++ ": " ++ fault.message)
                (goOn { input with operands, failed := true })
      | none, [] => next input

/-- The next line, and whether it has an end. -/
def takeLine (name : String) (next : Option (String × Bool) → Input → Task) (input : Input) :
    Task :=
  refill name false (fun input =>
    match input.lines with
    | line :: lines => next (some (line, true)) { input with lines }
    | [] =>
      if input.begun.isEmpty then next none input
      else next (some (input.begun, false)) { input with begun := "" }) Program.patience input

/-- Whether there are more lines. -/
def hasMore (name : String) (next : Bool → Input → Task) (input : Input) : Task :=
  refill name true (fun input => next (!input.lines.isEmpty || !input.begun.isEmpty) input)
    Program.patience input

end Input

/-! ## Replacements

What is found in a line is replaced by pieces of text and of what has been found. -/

/-- A replacement, with what groups have matched, so far: the text with its last character first,
and how letters are changed. -/
structure Building where
  text : List Char
  change : Char → Char
  changeNext : Option (Char → Char)

/-- Adds characters to a replacement. -/
def Building.add (characters : List Char) (building : Building) : Building :=
  characters.foldl (fun building character =>
    let changed := match building.changeNext with
      | some change => change character
      | none => building.change character
    { building with text := changed :: building.text, changeNext := none }) building

/-- The text that is put in the place of what has been found. -/
def replacementFor (pieces : List Piece) (found : Expression.Match) : List Char :=
  (pieces.foldl (fun building piece =>
    match piece with
    | .text text => building.add text.toList
    | .group number => building.add (found.group number)
    | .shift change => { building with change, changeNext := none }
    | .shiftNext change => { building with changeNext := some change })
    (⟨[], id, none⟩ : Building)).text.reverse

/-- A text in which what has been found is replaced. The first number is the position that has been
reached. -/
def replaceFound (pieces : List Piece) :
    Nat → List Char → List Expression.Match → List Char
  | _, rest, [] => rest
  | position, rest, found :: others =>
    rest.take (found.start - position) ++ replacementFor pieces found
      ++ replaceFound pieces found.stop (rest.drop (found.stop - position)) others

/-- The text after a substitution; nothing if there is nothing to replace. -/
def substituted? (expression : Expression) (substitution : Substitution) (text : String) :
    Option String :=
  let found := (expression.matchesIn text.toList).drop (substitution.number - 1)
  let replaced := if substitution.all then found else found.take 1
  if replaced.isEmpty then none
  else some (String.ofList (replaceFound substitution.replacement 0 text.toList replaced))

/-- The text up to the first line end, and what stands behind it. -/
def splitLine (mark text : String) : String × Option String :=
  match text.splitOn mark with
  | first :: second :: rest => (first, some (mark.intercalate (second :: rest)))
  | _ => (text, none)

/-! ### Texts that can be seen -/

/-- A character as it is shown when nothing may be invisible. -/
def revealedCharacter (character : Char) : String :=
  match character with
  | '\\' => "\\\\"
  | '\n' => "\\n"
  | '\t' => "\\t"
  | '\r' => "\\r"
  | '\x07' => "\\a"
  | '\x08' => "\\b"
  | '\x0b' => "\\v"
  | '\x0c' => "\\f"
  | _ =>
    if Kind.isVisible character || character = ' ' then character.toString
    else
      let code := character.toNat
      String.ofList ['\\', Nat.digitChar (code / 64), Nat.digitChar (code / 8 % 8),
        Nat.digitChar (code % 8)]

/-- A text without anything invisible, in lines of a width if one is given. -/
def revealed (width? : Option Nat) : Nat → List Char → String
  | _, [] => "$\n"
  | column, character :: rest =>
    let shown := revealedCharacter character
    if width?.any (· < column + shown.length) then
      "\\\n" ++ shown ++ revealed width? shown.length rest
    else shown ++ revealed width? (column + shown.length) rest

/-! ## The desk

On the desk lies the line that is being edited, with all that a script may remember from one line to
the next. -/

/-- What is put out behind a line. -/
inductive Queued where
  | text (text : String)
  /-- A whole file, if it can be read. -/
  | file (path : String)
  /-- The next line of a file. -/
  | line (path : String)

/-- What is known while a script is carried out. -/
structure Desk where
  text : String
  /-- Whether the line that the text comes from has an end. -/
  isEnded : Bool
  held : String
  /-- Whether the line that was held last has an end. -/
  isHeldEnded : Bool
  number : Nat
  isLast : Bool
  /-- What is put out behind the line, with the last first. -/
  queue : List Queued
  /-- Whether anything was replaced since the line was read or this was asked for. -/
  replaced : Bool
  /-- The edits whose ranges have begun, and the lines at which these end if they are known. -/
  ranges : List (Nat × Option Nat)
  /-- The expression that was used last. -/
  used : Option Expression
  /-- What has not been written yet. -/
  stored : String
  /-- The outputs whose last line had no end. -/
  lacking : List String
  /-- The lines of files that are read line by line. -/
  sources : List (String × List String)
  input : Input

/-- How a script is carried out. -/
structure Setting where
  name : String
  edits : List Edit
  /-- Whether lines are put out only if an edit does so. -/
  quiet : Bool
  prompt : Bool
  /-- What ends a line. -/
  mark : String
  /-- How wide lines are that show everything. -/
  width? : Option Nat
  /-- The files that edits write to, with the numbers under which they are open. -/
  files : List (String × Nat)
  /-- Whether what is put out is kept, and goes to the file that was read. -/
  isInPlace : Bool

/-- The name of the output among the files that edits write to. -/
def outputPath : String := "/dev/stdout"

namespace Desk

/-- Puts out a text that takes up lines of its own. -/
def emit (text : String) (desk : Desk) : Desk :=
  if text.isEmpty then desk
  else
    { desk with
      stored := desk.stored ++ (if desk.lacking.contains "" then "\n" else "") ++ text
      lacking := desk.lacking.erase "" }

/-- A line as it is written to an output, and the outputs that lack an end then. Only the last line
of the input may lack its end. -/
def written (setting : Setting) (output line : String) (desk : Desk) : String × List String :=
  let text := (if desk.lacking.contains output then setting.mark else "") ++ line
  if desk.isEnded then (text ++ setting.mark, desk.lacking.erase output)
  else (text, output :: desk.lacking.erase output)

/-- Puts out a line. -/
def emitLine (setting : Setting) (line : String) (desk : Desk) : Desk :=
  let (text, lacking) := desk.written setting "" line
  { desk with stored := desk.stored ++ text, lacking }

/-- Writes a line to a file. -/
def writeLine (setting : Setting) (path line : String) (next : Desk → Task) (desk : Desk) : Task :=
  let (text, lacking) := desk.written setting path line
  if path = outputPath && !setting.isInPlace then
    next { desk with stored := desk.stored ++ text, lacking }
  else
    .write ((setting.files.lookup path).getD 1) (Octets.toBytes text) fun
      | .ok () => next { desk with lacking }
      | .error fault =>
        let size := toString text.length
        Program.fail setting.name ("couldn't write " ++ size ++ " item"
          ++ (if text.length = 1 then "" else "s") ++ " to " ++ path ++ ": " ++ fault.message) 4

/-- Writes what has been put out. -/
def flush (setting : Setting) (next : Desk → Task) (desk : Desk) : Task :=
  if setting.isInPlace then next desk
  else if setting.prompt then
    Program.put setting.name desk.stored (next { desk with stored := "" })
  else Program.putBlocks setting.name desk.stored fun stored => next { desk with stored }

/-- The number under which files are open that are put out behind a line. -/
def sideFile : Nat := 4

/-- The content of a file; there is none if it cannot be read. -/
def withContent (base : Place) (path : String) (next : String → Task) : Task :=
  let file (path : String) (next : Called Nat → Task) : Task :=
    if path = "/dev/stdin" then next (.ok 0)
    else .openFile sideFile base path .read fun opened => next (opened.map fun _ => sideFile)
  file path fun
    | .error _ => next ""
    | .ok number =>
      Program.readAll number (fun content => next (content.toOption.getD "")) Program.patience ""

/-- Puts out what is to stand behind a line. -/
def emitQueue (setting : Setting) (next : Desk → Task) : List Queued → Desk → Task
  | [], desk => next desk
  | .text text :: rest, desk => emitQueue setting next rest (desk.emit text)
  | .file path :: rest, desk =>
    withContent desk.input.base path fun content => emitQueue setting next rest (desk.emit content)
  | .line path :: rest, desk =>
    let take (lines : List String) : Task :=
      let sources := (path, lines.drop 1) :: desk.sources.filter fun source => source.1 ≠ path
      emitQueue setting next rest ({ desk with sources }.emit (lines.headD ""))
    match desk.sources.lookup path with
    | some lines => take lines
    | none =>
      withContent desk.input.base path fun content =>
        let parts := content.splitOn setting.mark
        take (parts.dropLast.map (· ++ setting.mark)
          ++ (parts.getLast?.toList.filter fun part => !part.isEmpty))

/-- Puts out the line as it is, unless that is not wanted, and what is to stand behind it. -/
def close (setting : Setting) (prints : Bool) (next : Desk → Task) (desk : Desk) : Task :=
  let printed := if prints && !setting.quiet then desk.emitLine setting desk.text else desk
  emitQueue setting (fun desk => desk.flush setting next) desk.queue.reverse
    { printed with queue := [] }

/-! ### Addresses -/

/-- Whether an address means the line, and the expression that was used for that. -/
def isAt (desk : Desk) : Address → Bool × Option Expression
  | .line number => (desk.number = number, none)
  | .last => (desk.isLast, none)
  | .step first width =>
    (if width = 0 then desk.number = first
      else first ≤ desk.number && (desk.number - first) % width = 0, none)
  | .having expression =>
    match expression <|> desk.used with
    | some expression => (expression.isIn desk.text, some expression)
    | none => (false, none)

/-- Remembers the expression that was used. -/
def using? (expression : Option Expression) (desk : Desk) : Desk :=
  { desk with used := expression <|> desk.used }

/-- Whether a range that has begun before goes on at the line, and whether it ends there. -/
def isInside (desk : Desk) (limit : Limit) (stop : Option Nat) : Bool × Bool × Desk :=
  match limit, stop with
  | _, some stop => (desk.number ≤ stop, stop ≤ desk.number, desk)
  | .address address, none =>
    let (isEnd, expression) := desk.isAt address
    (true, isEnd, desk.using? expression)
  | _, none => (true, true, desk)

/-- The line at which a range that begins here ends, if it is known. -/
def stopOf (desk : Desk) : Limit → Option Nat
  | .address (.line number) => some number
  | .address _ => none
  | .count lines => some (desk.number + lines)
  | .multiple width =>
    some (if width = 0 then desk.number else (desk.number / width + 1) * width)

/-- Whether an edit is meant for the line, apart from a negation. -/
def selects (index : Nat) (edit : Edit) (desk : Desk) : Bool × Desk :=
  match edit.first, edit.limit with
  | none, _ => (true, desk)
  | some first, none =>
    let (isHere, expression) := desk.isAt first
    (isHere, desk.using? expression)
  | some first, some limit =>
    let without : List (Nat × Option Nat) := desk.ranges.filter fun range => range.1 ≠ index
    match desk.ranges.lookup index with
    | some stop =>
      let (isHere, isOver, desk) := desk.isInside limit stop
      (isHere, if isOver then { desk with ranges := without } else desk)
    | none =>
      let (isHere, expression) := desk.isAt first
      let desk := desk.using? expression
      if !isHere then (false, desk)
      else
        let stop := desk.stopOf limit
        if stop.any (· ≤ desk.number) then (true, desk)
        else (true, { desk with ranges := (index, stop) :: without })

/-- Whether the range of an edit ends at the line or there is none. -/
def isRangeOver (index : Nat) (edit : Edit) (desk : Desk) : Bool :=
  edit.limit.isNone || (desk.ranges.lookup index).isNone

/-- The ranges that begin before the first line. -/
def firstRanges (edits : List Edit) : List (Nat × Option Nat) :=
  edits.zipIdx.filterMap fun (edit, index) =>
    match edit.first, edit.limit with
    | some (.line 0), some _ => some (index, none)
    | _, _ => none

/-- The desk before the first line of some files. -/
def start (setting : Setting) (lacking : List String) (base : Place) (operands : List String) :
    Desk :=
  let piece := if setting.prompt then 1 else Program.pieceSize
  let input : Input := ⟨base, setting.mark, operands, none, "-", piece, [], "", false⟩
  ⟨"", true, "", true, 0, false, [], false, firstRanges setting.edits, none, "", lacking, [], input⟩

end Desk

end RpcEndpoint.Editor
