import RpcEndpoint.Process.Program.Filter
import RpcEndpoint.Text.Kind

/-!
# Counting

Lines, words, bytes and the width of the longest line are counted for each file and for all of
them.
-/

namespace RpcEndpoint.Program

/-- A number with blanks before it. -/
def aligned (width number : Nat) : String :=
  let digits := toString number
  String.ofList (List.replicate (width - digits.length) ' ') ++ digits

namespace Count

/-- What has been counted. -/
structure Tally where
  lines : Nat := 0
  words : Nat := 0
  bytes : Nat := 0
  /-- The width of the longest line. -/
  longest : Nat := 0
  /-- The width of the line so far. -/
  width : Nat := 0
  /-- Whether the last character belongs to a word. -/
  inWord : Bool := false
deriving Repr, DecidableEq

namespace Tally

/-- The width of a line behind a character. -/
def widthBehind (width : Nat) (character : Char) : Nat :=
  if character = '\n' || character = '\r' || character = '\x0c' then 0
  else if character = '\t' then (width / 8 + 1) * 8
  else if character = ' ' || Kind.isVisible character then width + 1
  else width

def take (tally : Tally) (character : Char) : Tally :=
  let inWord := !Kind.isSpace character
  let width := widthBehind tally.width character
  ⟨if character = '\n' then tally.lines + 1 else tally.lines,
    if inWord && !tally.inWord then tally.words + 1 else tally.words,
    tally.bytes + 1, max tally.longest width, width, inWord⟩

/-- What has been counted in two files. -/
def plus (left right : Tally) : Tally :=
  ⟨left.lines + right.lines, left.words + right.words, left.bytes + right.bytes,
    max left.longest right.longest, 0, false⟩

end Tally

/-- Counts what a file holds. What has been counted before an error counts too. -/
def countFile (file : Nat) (next : Option SystemFault → Tally → Task) : Nat → Tally → Task
  | 0, tally => next none tally
  | fuel + 1, tally =>
    .read file pieceSize fun
      | .error fault => next (some fault) tally
      | .ok [] => next none tally
      | .ok bytes =>
        countFile file next fuel
          ((bytes.map fun byte => Char.ofNat byte.toNat).foldl Tally.take tally)

/-- When the counts of all files are told. -/
inductive Totals where
  | auto
  | always
  | only
  | never
deriving Repr, DecidableEq

/-- How counts are shown. -/
structure Style where
  /-- The counts that are wanted. -/
  chosen : Tally → List Nat
  width : Nat
  totals : Totals

/-- The line of a file, which may have no name. -/
def Style.line (style : Style) (tally : Tally) (title : Option String) : String :=
  " ".intercalate ((style.chosen tally).map (aligned style.width))
    ++ (match title with
      | some title => " " ++ title
      | none => "") ++ "\n"

/-- Counts the files of some operands and writes a line for each. -/
def countAll (name : String) (base : Place) (style : Style) (isNamed : Bool) :
    List String → Nat → Tally → Nat → Task
  | [], count, total, code =>
    let last :=
      match style.totals with
      | .only => style.line total none
      | .never => ""
      | .always => style.line total (some "total")
      | .auto => if 1 < count then style.line total (some "total") else ""
    putAndExit name last code
  | operand :: rest, count, total, code =>
    let title := if isNamed then some operand else none
    let lament (fault : SystemFault) : String :=
      (if isNamed then plainLament (quotedIfNeeded operand) fault
      else plainLament "'standard input'" fault)
    openOperand base operand fun
      | .error fault =>
        complain name (lament fault)
          (countAll name base style isNamed rest (count + 1) total 1)
      | .ok file =>
        countFile file (fun fault? tally =>
          let line := if style.totals = .only then "" else style.line tally title
          let goOn (code : Nat) : Task :=
            put name line
              (countAll name base style isNamed rest (count + 1) (total.plus tally) code)
          match fault? with
          | some fault => complain name (lament fault) (goOn 1)
          | none => goOn code) patience {}

/-- Goes on with the sizes of files: nothing for what is no plain file. -/
def withSizes (base : Place) (next : List (Option Nat) → Task) :
    List String → List (Option Nat) → Task
  | [], sizes => next sizes
  | operand :: rest, sizes =>
    .look base (if operand = "-" then "/dev/stdin" else operand) fun
      | .error _ => withSizes base next rest sizes
      | .ok (_, .plain content) =>
        withSizes base next rest (some content.length :: sizes)
      | .ok _ => withSizes base next rest (none :: sizes)

/-- How wide numbers are shown: as wide as the size of all files, or as wide as usual if one of
them has no size. -/
def widthFor (sizes : List (Option Nat)) : Nat :=
  let digits := (toString ((sizes.filterMap id).foldl (· + ·) 0)).length
  if sizes.any Option.isNone then max 7 digits else digits

/-- The words of the option for totals. -/
def totalNames : List (String × Totals) :=
  [("auto", .auto), ("always", .always), ("only", .only), ("never", .never)]

end Count

def wc : Program := fun name arguments surroundings =>
  withCall name {
    plain := "lwcmL"
    named := "FT"
    long := [("bytes", 'c'), ("chars", 'm'), ("lines", 'l'), ("words", 'w'),
      ("files0-from", 'F'), ("max-line-length", 'L'), ("total", 'T')] }
    arguments fun call =>
    let isPlain := !(['l', 'w', 'c', 'm', 'L'].any fun letter => call.has letter)
    let choose (isChosen : Bool) (number : Nat) : List Nat := if isChosen then [number] else []
    let chosen (tally : Count.Tally) : List Nat :=
      choose (isPlain || call.has 'l') tally.lines ++ choose (isPlain || call.has 'w') tally.words
        ++ choose (call.has 'm') tally.bytes ++ choose (isPlain || call.has 'c') tally.bytes
        ++ choose (call.has 'L') tally.longest
    let base := surroundings.directory
    let isNamed := !call.operands.isEmpty
    let files := if isNamed then call.operands else ["-"]
    let wanted := (call.argument? 'T').getD "auto"
    match Count.totalNames.lookup wanted with
    | none =>
      failUse name ("invalid argument '" ++ wanted ++ "' for '--total'\nValid arguments are:\n"
        ++ "  - 'auto'\n  - 'always'\n  - 'only'\n  - 'never'")
    | some totals =>
      let isAlone := files.length = 1 && (chosen {}).length = 1
      Count.withSizes base (fun sizes =>
        let width := if totals = .only || isAlone then 1 else Count.widthFor sizes
        Count.countAll name base ⟨chosen, width, totals⟩ isNamed files 0 {} 0) files []

end RpcEndpoint.Program
