import RpcEndpoint.Process.Expression.Reader
import RpcEndpoint.Process.Program.Filter

/-!
# Programs that pass on their input
-/

namespace RpcEndpoint.Program

/-- Copies a file to the output piece by piece, without any delay. -/
def copy (name : String) (file : Nat) (next : Called Unit → Task) : Nat → Task
  | 0 => next (.ok ())
  | fuel + 1 =>
    .read file 131072 fun
      | .error fault => next (.error fault)
      | .ok [] => next (.ok ())
      | .ok bytes => put name (Octets.ofBytes bytes) (copy name file next fuel)

/-- Copies the files of some operands. -/
def copyAll (name : String) (base : Place) : List String → Nat → Task
  | [], code => .exitWith code
  | operand :: rest, code =>
    openOperand base operand fun
      | .error fault =>
        complain name (plainLament (quotedIfNeeded operand) fault) (copyAll name base rest 1)
      | .ok file =>
        copy name file (fun
          | .ok () => copyAll name base rest code
          | .error fault =>
            let closing : Task → Task :=
              if fault = .badFile then complain name ("closing standard input: " ++ fault.message)
              else id
            complain name (plainLament (quotedIfNeeded operand) fault)
              (closing (copyAll name base rest 1))) patience

/-- A character of a line as it is shown when nothing may be invisible. -/
def shown (marksTabs showsAll : Bool) (character : Char) : String :=
  let code := character.toNat
  let plain (code : Nat) : String :=
    if code < 32 then "^" ++ (Char.ofNat (code + 64)).toString
    else if code = 127 then "^?"
    else (Char.ofNat code).toString
  if character = '\t' then if marksTabs then "^I" else "\t"
  else if !showsAll then character.toString
  else if code < 128 then plain code
  else "M-" ++ plain (code - 128)

/-- What has been seen of the lines that are shown: the number of the next one, and whether the
last one was empty. -/
abbrev Shown := Nat × Bool

/-- A filter that shows lines in the way that options ask for. -/
def showing (call : Call) : Filter (LineState Shown) :=
  let marksTabs := call.has 'T' || call.has 't' || call.has 'A'
  let marksEnds := call.has 'E' || call.has 'e' || call.has 'A'
  let showsAll := call.has 'v' || call.has 'e' || call.has 't' || call.has 'A'
  let prefixed (number : Nat) : String :=
    String.ofList (List.replicate (6 - (toString number).length) ' ') ++ toString number ++ "\t"
  lineFilter (1, false) (fun (number, wasEmpty) line isEnded =>
    if call.has 's' && wasEmpty && line.isEmpty then ("", (number, true))
    else
      let isNumbered := call.has 'b' && !line.isEmpty || call.has 'n' && !call.has 'b'
      let body := String.join (line.toList.map (shown marksTabs showsAll))
      -- What stands before a marked end may not hide the mark.
      let shownBody :=
        if marksEnds && isEnded && body.endsWith "\r" then (body.dropEnd 1).toString ++ "^M"
        else body
      let ending := if !isEnded then "" else if marksEnds then "$\n" else "\n"
      ((if isNumbered then prefixed number else "") ++ shownBody ++ ending,
        (if isNumbered then number + 1 else number, line.isEmpty)))
    (fun _ => false) fun _ => ""

def cat : Program := fun name arguments surroundings =>
  withCall name {
    plain := "uAbeEnstTv"
    long := [("number-nonblank", 'b'), ("number", 'n'), ("squeeze-blank", 's'),
      ("show-nonprinting", 'v'), ("show-ends", 'E'), ("show-tabs", 'T'), ("show-all", 'A')] }
    arguments fun call =>
    let operands := if call.operands.isEmpty then ["-"] else call.operands
    withOutput name <|
      if call.options.any fun given => given.1 ≠ 'u' then
        (showing call).run name plainLament surroundings.directory operands fun _ => 0
      else copyAll name surroundings.directory operands 0

/-- A file that `tee` writes: its number, and its name. -/
abbrev Target := Nat × String

/-- Writes a piece to some files; one that cannot be written gets no more. -/
def teePiece (name : String) (bytes : List UInt8) (next : List Target → Nat → Task) :
    List Target → List Target → Nat → Task
  | [], kept, code => next kept.reverse code
  | target :: rest, kept, code =>
    .write target.1 bytes fun
      | .ok () => teePiece name bytes next rest (target :: kept) code
      | .error fault =>
        complain name (plainLament (quotedIfNeeded target.2) fault)
          (teePiece name bytes next rest kept 1)

/-- Passes the input on to the output and to files. -/
def teeLoop (name : String) : Nat → List Target → Nat → Task
  | 0, _, code => .exitWith code
  | fuel + 1, targets, code =>
    .read 0 pieceSize fun
      | .error fault =>
        let closing : Task → Task :=
          if fault = .badFile then complain name ("standard input: " ++ fault.message) else id
        complain name ("read error: " ++ fault.message) (closing (.exitWith 1))
      | .ok [] => .exitWith code
      | .ok bytes => teePiece name bytes (teeLoop name fuel) targets [] code

/-- Opens files for output under numbers from one on. -/
def openTargets (name : String) (base : Place) (access : Access)
    (next : List Target → Nat → Task) : Nat → List String → List Target → Nat → Task
  | _, [], opened, code => next opened.reverse code
  | number, operand :: rest, opened, code =>
    .openFile number base operand access fun
      | .ok () =>
        openTargets name base access next (number + 1) rest ((number, operand) :: opened) code
      | .error fault =>
        complain name (plainLament (quotedIfNeeded operand) fault)
          (openTargets name base access next number rest opened 1)

def tee : Program := fun name arguments surroundings =>
  withCall name {
    plain := "aip"
    mayTake := "o"
    long := [("append", 'a'), ("ignore-interrupts", 'i'), ("output-error", 'o')] }
    arguments fun call =>
    let access : Access := if call.has 'a' then .append else .write
    openTargets name surroundings.directory access
      (fun targets => teeLoop name patience ((1, "standard output") :: targets))
      operandFile call.operands [] 0

/-- Repeats a line until nobody reads it. -/
def yesLoop (name block : String) : Nat → Task
  | 0 => .exitWith 0
  | fuel + 1 => .pause fun _ => put name block (yesLoop name block fuel)

def yes : Program := fun name arguments _ =>
  withOperands name arguments fun words =>
    let line := (if words.isEmpty then "y" else " ".intercalate words) ++ "\n"
    let block := String.join (List.replicate (blockSize * 2 / line.length + 1) line)
    yesLoop name block patience

/-! ## Reversal

The characters of each line, or the lines of each file, from the last to the first. -/

def rev : Program := fun name arguments surroundings =>
  withOperands name arguments fun operands =>
    (lineFilter () (fun _ line isEnded =>
      (String.ofList line.toList.reverse ++ (if isEnded then "\n" else ""), ()))
      (fun _ => false) fun _ => "").run name
      (fun operand fault => "cannot open " ++ (if operand = "./-" then "-" else operand) ++ ": " ++ fault.message)
      surroundings.directory (operands.map fun path => if path = "-" then "./-" else path)
      fun _ => 0

/-! ### Lines -/

/-- What stands between records. -/
inductive Separator where
  | text (text : String)
  | expression (expression : Expression)

/-- A text in the pieces between separators, each with the separator behind it. -/
def Separator.pieces (separator : Separator) (text : String) : List (String × String) :=
  match separator with
  | .text separator =>
    let parts := text.splitOn separator
    parts.zipIdx.map fun (part, index) =>
      (part, if index + 1 = parts.length then "" else separator)
  | .expression wanted =>
    let all := text.toList
    let found := (wanted.matchesIn all).filter (!·.text.isEmpty)
    let starts := 0 :: found.map Expression.Match.stop
    starts.zipIdx.map fun (start, index) =>
      match found[index]? with
      | some one => (String.ofList ((all.drop start).take (one.start - start)),
          String.ofList one.text)
      | none => (String.ofList (all.drop start), "")

/-- The records of a text from the last to the first. With the flag a separator belongs to what
comes behind it. -/
def reversed (separator : Separator) (isBefore : Bool) (text : String) : String :=
  let pieces := separator.pieces text
  if isBefore then
    let marks := "" :: pieces.map Prod.snd
    String.join (List.zipWith (· ++ ·) marks (pieces.map Prod.fst)).reverse
  else String.join (pieces.map fun piece => piece.1 ++ piece.2).reverse

/-- Writes the records of each of some files from the last to the first. -/
def reverseAll (name : String) (base : Place) (separator : Separator) (isBefore : Bool) :
    List String → Nat → Task
  | [], code => .exitWith code
  | operand :: rest, code =>
    let shown := if operand = "-" then "standard input" else operand
    openOperand base operand fun
      | .error fault =>
        complain name ("failed to open '" ++ shown ++ "' for reading: " ++ fault.message)
          (reverseAll name base separator isBefore rest 1)
      | .ok file =>
        readAll file (fun
          | .error fault =>
            complain name (shown ++ ": read error: " ++ fault.message)
              (reverseAll name base separator isBefore rest 1)
          | .ok text => put name (reversed separator isBefore text)
              (reverseAll name base separator isBefore rest code)) patience ""

def tac : Program := fun name arguments surroundings =>
  withCall name {
    plain := "br"
    taking := "s"
    long := [("before", 'b'), ("regex", 'r'), ("separator", 's')] }
    arguments fun call =>
    let separator := (call.argument? 's').getD "\n"
    let separator? : Except String Separator :=
      if call.has 'r' then
        if separator.isEmpty then .error "separator cannot be empty"
        else (Expression.read {} separator).map fun held => .expression held.1
      else .ok (.text (if separator.isEmpty then "\x00" else separator))
    match separator? with
    | .error complaint => fail name complaint 1
    | .ok separator =>
      reverseAll name surroundings.directory separator (call.has 'b')
        (if call.operands.isEmpty then ["-"] else call.operands) 0

end RpcEndpoint.Program
