import RpcEndpoint.Process.Expression.Basic
import RpcEndpoint.Process.Program.Filter

/-!
# Lines that are found

Lines are chosen by what can be found in them. What is shown of a line, of the lines around it and
of the file is a matter of the manner in which is searched.
-/

namespace RpcEndpoint.Program.Search

/-- What is shown. -/
inductive Report where
  | lines
  /-- Only what has been found. -/
  | parts
  | count
  /-- The names of the files in which something is found, or nothing. -/
  | names (isFound : Bool)
  | nothing
deriving Repr, DecidableEq

/-- What becomes of files that are not texts. -/
inductive Strange where
  /-- It is only told that something has been found. -/
  | told
  | skipped
  /-- They are texts all the same. -/
  | shown
deriving Repr, DecidableEq

/-- How is searched. -/
structure Manner where
  expression : Expression
  /-- Whether the lines are wanted in which nothing is found. -/
  inverts : Bool
  report : Report
  /-- What ends a line. -/
  mark : Char
  /-- How many lines are wanted at the most. -/
  limit? : Option Nat
  /-- How many lines are shown in front of those that are found, and behind them. -/
  before : Nat
  after : Nat
  /-- What stands between groups of lines. -/
  divider? : Option String
  hasNumbers : Bool
  hasOffsets : Bool
  /-- Whether lines begin at a tab stop. -/
  isAligned : Bool
  /-- Whether a zero byte stands behind names. -/
  endsNames : Bool
  isColoured : Bool
  strange : Strange

/-- How far a file has been searched. -/
structure Progress where
  /-- How many lines have been read, and how many bytes. -/
  number : Nat
  offset : Nat
  /-- How many lines have been chosen. -/
  chosen : Nat
  /-- How many lines are still to be shown behind the last one that was chosen. -/
  pending : Nat
  /-- The last lines that were not shown, from the last to the first, with their numbers and
  offsets. -/
  recent : List (Nat × Nat × String)
  /-- Whether these lines follow one that was shown. -/
  isAdjacent : Bool
  /-- Whether any line was chosen before, perhaps in another file. -/
  isUsed : Bool
  /-- Whether a zero byte has shown that the file is no text. -/
  isStrange : Bool

namespace Manner

/-- A text in a colour. -/
def paint (manner : Manner) (colour text : String) : String :=
  if manner.isColoured then "\x1b[" ++ colour ++ "m\x1b[K" ++ text ++ "\x1b[m\x1b[K" else text

/-- A name with what stands behind it. -/
def name (manner : Manner) (sign : String) (title : String) : String :=
  manner.paint "35" title
    ++ (if manner.endsNames then "\x00" else manner.paint "36" sign)

/-- What stands in front of a line. -/
def head (manner : Manner) (title? : Option String) (sign : String) (number offset : Nat)
    (isEmpty : Bool) : String :=
  let figure (isShown : Bool) (value : Nat) : String :=
    let digits := toString value
    let blanks := if manner.isAligned then 19 - digits.length else 0
    if isShown then
      manner.paint "32" (String.ofList (List.replicate blanks ' ') ++ digits)
        ++ manner.paint "36" sign
    else ""
  let parts := ((title?.map (manner.name sign)).getD "")
    ++ figure manner.hasNumbers number ++ figure manner.hasOffsets offset
  parts ++ (if manner.isAligned && !parts.isEmpty && !isEmpty then "\t" else "")

/-- What has been found in a line; nothing that is empty. -/
def found (manner : Manner) (line : String) : List Expression.Match :=
  (manner.expression.matchesIn line.toList).filter fun found => !found.text.isEmpty

/-- A line in which everything that has been found is painted. -/
def painted (manner : Manner) (line : String) : String :=
  let characters := line.toList
  let rec painting (position : Nat) : List Expression.Match → String
    | [] => String.ofList (characters.drop position)
    | one :: rest =>
      String.ofList ((characters.drop position).take (one.start - position))
        ++ manner.paint "01;31" (String.ofList one.text) ++ painting one.stop rest
  if manner.isColoured then painting 0 (manner.found line) else line

/-- How a line is shown that was chosen, or one around it. -/
def line (manner : Manner) (title? : Option String) (isChosen : Bool)
    (number offset : Nat) (line : String) : String :=
  let sign := if isChosen then ":" else "-"
  let isMatch := isChosen != manner.inverts
  match manner.report with
  | .parts =>
    if isMatch && isChosen then
      String.join ((manner.found line).map fun found =>
        manner.head title? sign number (offset + found.start) false
          ++ manner.paint "01;31" (String.ofList found.text) ++ manner.mark.toString)
    else ""
  | _ =>
    manner.head title? sign number offset line.isEmpty
      ++ (if isMatch then manner.painted line else line) ++ manner.mark.toString

/-- Whether lines are shown. -/
def showsLines (manner : Manner) (isStrange : Bool) : Bool :=
  (manner.report = .lines || manner.report = .parts) && !isStrange

/-- Whether so many lines are enough. -/
def isEnough (manner : Manner) (chosen : Nat) : Bool :=
  manner.limit?.any (· ≤ chosen)

/-- Takes the next line. -/
def take (manner : Manner) (title? : Option String) (text : String) (progress : Progress) :
    String × Progress :=
  let number := progress.number + 1
  let offset := progress.offset
  let next := { progress with number, offset := offset + text.length + 1 }
  let shows := manner.showsLines progress.isStrange
  if !manner.isEnough progress.chosen && manner.expression.isIn text != manner.inverts then
    let divider :=
      match manner.divider?, progress.isUsed && !progress.isAdjacent with
      | some divider, true => manner.paint "36" divider ++ "\n"
      | _, _ => ""
    let context := String.join (progress.recent.reverse.map fun (number, offset, text) =>
      manner.line title? false number offset text)
    (if shows then divider ++ context ++ manner.line title? true number offset text else "",
      { next with
        chosen := progress.chosen + 1
        pending := if shows then manner.after else 0
        recent := []
        isAdjacent := true
        isUsed := true })
  else if 0 < progress.pending then
    (manner.line title? false number offset text, { next with pending := progress.pending - 1 })
  else
    let recent := (number, offset, text) :: progress.recent
    ("", { next with
      recent := recent.take manner.before
      isAdjacent := progress.isAdjacent && recent.length ≤ manner.before })

/-- Takes some lines one by one. -/
def takeAll (manner : Manner) (title? : Option String) :
    List String → Progress → String → String × Progress
  | [], progress, output => (output, progress)
  | line :: rest, progress, output =>
    let (more, progress) := manner.take title? line progress
    manner.takeAll title? rest progress (output ++ more)

/-- Whether nothing more has to be read. -/
def isDone (manner : Manner) (progress : Progress) : Bool :=
  let isFound := 0 < progress.chosen
  match manner.report with
  | .nothing | .names _ => isFound
  | .count => manner.isEnough progress.chosen
  | .lines | .parts =>
    isFound && progress.isStrange || manner.isEnough progress.chosen && progress.pending = 0

/-- Whether a file that is no text is not searched. -/
def isSkipped (manner : Manner) (progress : Progress) : Bool :=
  progress.isStrange && manner.strange = .skipped

/-- The lines of a part of a file. In one that is no text a zero byte ends a line too. -/
def linesOf (isStrange : Bool) (parts : List String) : List String :=
  if isStrange then parts.flatMap fun part => part.splitOn "\x00" else parts

/-- The filter that searches a file. -/
def filter (manner : Manner) (title? : Option String) (isUsed isPrompt : Bool) :
    Filter (LineState Progress) where
  start := ⟨⟨0, 0, 0, 0, [], false, isUsed, false⟩, ""⟩
  take held piece :=
    let isStrange := held.state.isStrange
      || (manner.mark = '\n' && manner.strange ≠ .shown && piece.contains '\x00')
    let parts := (held.line ++ piece).splitOn manner.mark.toString
    let lines := linesOf isStrange parts.dropLast
    let (output, progress) := manner.takeAll title? lines { held.state with isStrange } ""
    if manner.isSkipped progress then ("", ⟨{ progress with chosen := 0 }, ""⟩)
    else (output, ⟨progress, parts.getLast?.getD ""⟩)
  isDone held := manner.isDone held.state || manner.isSkipped held.state
  finish _ := ""
  isPrompt

/-- What is left when a file has been read: a last line without an end is one too. -/
def finish (manner : Manner) (title? : Option String) (held : LineState Progress) :
    String × Progress :=
  if held.line.isEmpty || manner.isDone held.state then ("", held.state)
  else manner.takeAll title? (linesOf held.state.isStrange [held.line]) held.state ""

/-- What is told about a file as a whole. -/
def summary (manner : Manner) (title? : Option String) (label : String) (progress : Progress) :
    String :=
  match manner.report with
  | .count => ((title?.map (manner.name ":")).getD "") ++ toString progress.chosen ++ "\n"
  | .names isFound =>
    if (0 < progress.chosen) = isFound then
      manner.paint "35" label ++ (if manner.endsNames then "\x00" else "\n")
    else ""
  | _ => ""

end Manner

end RpcEndpoint.Program.Search
