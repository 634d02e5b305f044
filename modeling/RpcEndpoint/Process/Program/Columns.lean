import RpcEndpoint.Process.Printf
import RpcEndpoint.Process.Program.Filter

/-!
# Lines side by side

The lines of several files are put together: one of each in a row, or by what they have in common.
-/

namespace RpcEndpoint.Program.Columns

/-! ## In rows -/

/-- The delimiters of a list; a letter behind a backslash may stand for something. -/
def delimiterList : List Char → Option (List String)
  | [] => some []
  | ['\\'] => none
  | '\\' :: '0' :: rest => ("" :: ·) <$> delimiterList rest
  | '\\' :: letter :: rest =>
    (((Printf.escapeLetter? letter).getD letter).toString :: ·) <$> delimiterList rest
  | character :: rest => (character.toString :: ·) <$> delimiterList rest

/-- Lines joined by delimiters, which are used in turn. -/
def joined (delimiters : List String) : Nat → List String → String
  | _, [] => ""
  | _, [line] => line
  | index, line :: rest =>
    line ++ delimiters.getD (index % max 1 delimiters.length) ""
      ++ joined delimiters (index + 1) rest

/-- What is left of the lines of files, which are known by numbers. -/
abbrev Stacks := List (Nat × List String)

/-- Takes one line of each of some files for a row, and tells whether there was any. -/
def takeRow : List Nat → Stacks → List String × Stacks × Bool
  | [], piles => ([], piles, false)
  | number :: rest, piles =>
    let lines := (piles.lookup number).getD []
    let left := piles.map fun held => if held.1 = number then (number, lines.drop 1) else held
    let (row, last, isThere) := takeRow rest left
    (lines.headD "" :: row, last, isThere || !lines.isEmpty)

/-- The rows of files, so many at the most. -/
def rowsOf (numbers : List Nat) : Nat → Stacks → List (List String)
  | 0, _ => []
  | fuel + 1, piles =>
    let (row, left, isThere) := takeRow numbers piles
    if isThere then row :: rowsOf numbers fuel left else []

/-- Puts each of some files in a row of its own. -/
def writeSerial (name mark : String) (delimiters : List String) (base : Place) :
    List String → Nat → Task
  | [], code => .exitWith code
  | operand :: rest, code =>
    let lament (fault : SystemFault) : Task :=
      complain name (plainLament (quotedIfNeeded operand) fault)
        (writeSerial name mark delimiters base rest 1)
    openOperand base operand fun
      | .error fault => lament fault
      | .ok file =>
        readAll file (fun
          | .error fault => lament fault
          | .ok text =>
            put name (joined delimiters 0 (linesOf mark text) ++ mark)
              (writeSerial name mark delimiters base rest code)) patience ""

def paste : Program := fun name arguments surroundings =>
  withCall name {
    plain := "sz"
    taking := "d"
    long := [("serial", 's'), ("delimiters", 'd'), ("zero-terminated", 'z')] }
    arguments fun call =>
    let base := surroundings.directory
    let mark := recordMark (call.has 'z')
    let written := (call.argument? 'd').getD "\t"
    let files := if call.operands.isEmpty then ["-"] else call.operands
    match delimiterList written.toList with
    | none =>
      fail name ("delimiter list ends with an unescaped backslash: " ++ quotedIfNeeded written) 1
    | some delimiters =>
      if call.has 's' then writeSerial name mark delimiters base files 0
      else
        withTexts base (fun operand fault =>
          fail name (plainLament (quotedIfNeeded operand) fault) 1)
          (fun texts =>
            -- The input has the number zero however often it is named.
            let numbers := files.zipIdx.map fun (file, index) =>
              if file = "-" then 0 else index + 1
            let piles := (numbers.zip (texts.map fun text? => linesOf mark (text?.getD ""))).filter
              fun held => held.1 ≠ 0 || !held.2.isEmpty
            let total := (piles.map fun held => held.2.length).foldl (· + ·) 0
            let rows := rowsOf numbers (total + 1) piles
            putAndExit name
              (String.join (rows.map fun row => joined delimiters 0 row ++ mark)) 0)
          files []

/-! ## In common -/

/-- Where a line of two sorted files belongs. -/
inductive Column where
  | first
  | second
  | both
deriving Repr, DecidableEq

/-- What is found when two files are compared. -/
inductive Finding where
  | line (column : Column) (text : String)
  /-- A file is not in order. -/
  | disorder (isFirst : Bool)
deriving Repr, DecidableEq

/-- One of two files as far as it has been read. -/
structure Side where
  isFirst : Bool
  /-- The line before the one that is compared. -/
  before? : Option String
  /-- The line that is compared and those behind it. -/
  ahead : List String
  /-- Whether the file was found not to be in order. -/
  isLate : Bool

/-- Goes on to the next line of a file and looks at the order, if that is asked for. At the end of
the file the last two lines are looked at once more, since it may not have been asked before. -/
def Side.next (side : Side) (isChecked : Bool) : Side × List Finding :=
  match side.ahead with
  | [] => (side, [])
  | current :: rest =>
    let isLate := isChecked && !side.isLate && match rest with
      | following :: _ => decide (following < current)
      | [] => side.before?.any fun before => current < before
    (⟨side.isFirst, some current, rest, side.isLate || isLate⟩,
      if isLate then [.disorder side.isFirst] else [])

/-- Compares two files. The order is looked at from the first line without a partner on, or always,
or never. -/
def compared (isChecked : Bool → Bool) : Nat → Bool → Side → Side → List Finding
  | 0, _, _, _ => []
  | fuel + 1, isUnpaired, left, right =>
    let stepLeft (line : String) : List Finding :=
      let (left, found) := left.next (isChecked true)
      .line .first line :: found ++ compared isChecked fuel true left right
    let stepRight (line : String) : List Finding :=
      let (right, found) := right.next (isChecked true)
      .line .second line :: found ++ compared isChecked fuel true left right
    match left.ahead, right.ahead with
    | [], [] => []
    | line :: _, [] => stepLeft line
    | [], line :: _ => stepRight line
    | first :: _, second :: _ =>
      if first < second then stepLeft first
      else if second < first then stepRight second
      else
        let (left, foundLeft) := left.next (isChecked isUnpaired)
        let (right, foundRight) := right.next (isChecked isUnpaired)
        .line .both second :: foundLeft ++ foundRight
          ++ compared isChecked fuel isUnpaired left right

/-- The findings up to the first disorder. -/
def untilDisorder (findings : List Finding) : List Finding :=
  findings.takeWhile fun
    | .line _ _ => true
    | .disorder _ => false

def comm : Program := fun name arguments surroundings =>
  withCall name {
    plain := "123z"
    named := "o"
    long := [("check-order", 'c'), ("nocheck-order", 'n'), ("output-delimiter", 'o'),
      ("total", 'T'), ("zero-terminated", 'z')] }
    arguments fun call =>
    let base := surroundings.directory
    let mark := recordMark (call.has 'z')
    match call.operands with
    | [] => failUse name "missing operand"
    | [first] => failUse name ("missing operand after '" ++ first ++ "'")
    | _ :: _ :: extra :: _ => failUse name ("extra operand '" ++ extra ++ "'")
    | [first, second] =>
      withTexts base (fun operand fault =>
        fail name (plainLament (quotedIfNeeded operand) fault) 1)
        (fun texts =>
          let lines (index : Nat) : List String := linesOf mark ((texts.getD index none).getD "")
          let lefts := lines 0
          let rights := lines 1
          let joint := match call.argument? 'o' with
            | none => "\t"
            | some "" => "\x00"
            | some joint => joint
          let isChecked (isUnpaired : Bool) : Bool := !call.has 'n' && (call.has 'c' || isUnpaired)
          let found := compared isChecked (lefts.length + rights.length + 1) false
            ⟨true, none, lefts, false⟩ ⟨false, none, rights, false⟩
          let indent (columns : List Char) : String :=
            String.join ((columns.filter fun column => !call.has column).map fun _ => joint)
          let text (finding : Finding) : String :=
            match finding with
            | .line .first line => if call.has '1' then "" else line ++ mark
            | .line .second line => if call.has '2' then "" else indent ['1'] ++ line ++ mark
            | .line .both line => if call.has '3' then "" else indent ['1', '2'] ++ line ++ mark
            | .disorder _ => ""
          let count (wanted : Column) : String :=
            toString (found.filter fun
              | .line column _ => column = wanted
              | .disorder _ => false).length
          let total :=
            if call.has 'T' then
              joint.intercalate [count .first, count .second, count .both, "total"] ++ mark
            else ""
          let disorders := found.filterMap fun
            | .line _ _ => none
            | .disorder isFirst =>
              some ("file " ++ (if isFirst then "1" else "2") ++ " is not in sorted order")
          match call.has 'c', disorders with
          | _, [] => putAndExit name (String.join (found.map text) ++ total) 0
          | true, disorder :: _ =>
            complain name disorder
              (putAndExit name (String.join ((untilDisorder found).map text)) 1)
          | false, disorders => disorders.foldr (complain name)
            (put name (String.join (found.map text) ++ total)
              (fail name "input is not in sorted order" 1)))
        [first, second] []

end RpcEndpoint.Program.Columns
