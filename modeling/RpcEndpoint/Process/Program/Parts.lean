import RpcEndpoint.Process.Program.Filter
import RpcEndpoint.Process.Numeral

/-!
# Beginnings and ends

Programs that pass on a part of each of their files, which is counted in lines or bytes from the
beginning or from the end.
-/

namespace RpcEndpoint.Program

/-! ## Parts -/

/-- A filter that passes on so many bytes, and reads no more of them. -/
def firstBytes (count : Nat) : Filter Nat where
  start := count
  take left piece := ((piece.take left).toString, left - piece.length)
  isDone left := left = 0
  finish _ := ""
  appetite left := min left pieceSize

/-- A record with its mark, if there is one behind it. -/
def marked (mark line : String) (isEnded : Bool) : String :=
  if isEnded then line ++ mark else line

/-- A filter that passes on so many records. -/
def firstLines (mark : String) (count : Nat) : Filter (LineState Nat) :=
  recordFilter mark count (fun left line isEnded =>
    if left = 0 then ("", 0) else (marked mark line isEnded, left - 1))
    (fun left => left = 0) fun _ => ""

/-- A filter that passes on everything up to so many bytes from the end. -/
def allButLastBytes (count : Nat) : Filter String where
  start := ""
  take held piece :=
    let all := held ++ piece
    let known := all.length - count
    ((all.take known).toString, (all.drop known).toString)
  isDone _ := false
  finish _ := ""

/-- A filter that passes on everything up to so many records from the end. -/
def allButLastLines (mark : String) (count : Nat) : Filter (LineState (List String)) :=
  recordFilter mark [] (fun lines line isEnded => ("", marked mark line isEnded :: lines))
    (fun _ => false) fun lines => String.join (lines.drop count).reverse

/-- A filter that passes on the last bytes. -/
def lastBytes (count : Nat) : Filter String where
  start := ""
  take held piece :=
    let all := held ++ piece
    ("", (all.drop (all.length - count)).toString)
  isDone _ := false
  finish held := held

/-- A filter that passes on the last records. -/
def lastLines (mark : String) (count : Nat) : Filter (LineState (List String)) :=
  recordFilter mark [] (fun lines line isEnded =>
    ("", (marked mark line isEnded :: lines).take count))
    (fun _ => false) fun lines => String.join lines.reverse

/-- A filter that passes on everything from a record on. -/
def fromLine (mark : String) (first : Nat) : Filter (LineState Nat) :=
  recordFilter mark 1 (fun number line isEnded =>
    (if first ≤ number then marked mark line isEnded else "", number + 1))
    (fun _ => false) fun _ => ""

/-- A filter that passes on everything from a byte on. -/
def fromByte (first : Nat) : Filter Nat where
  start := first - 1
  take left piece := ((piece.drop left).toString, left - piece.length)
  isDone _ := false
  finish _ := ""

/-! ## Files one by one -/

/-- How an input is called in titles and complaints. -/
def inputTitle (operand : String) : String :=
  if operand = "-" then "standard input" else operand

/-- Passes on a part of each of some files, under titles if these are wanted. -/
def passParts {σ : Type} (filter : Filter σ) (name : String) (titled : Bool) (base : Place)
    (next : String → Nat → Task) : List String → Bool → String → Nat → Task
  | [], _, stored, code => next stored code
  | operand :: rest, isFirst, stored, code =>
    let shown := inputTitle operand
    openOperand base operand fun
      | .error fault =>
        complain name ("cannot open '" ++ operand ++ "' for reading: " ++ fault.message)
          (passParts filter name titled base next rest isFirst stored 1)
      | .ok file =>
        let title :=
          if titled then (if isFirst then "" else "\n") ++ "==> " ++ shown ++ " <==\n" else ""
        filter.feed name file (fun outcome state stored =>
          match outcome with
          | .ok () =>
            putBlocks name (stored ++ filter.finish state) fun stored =>
              passParts filter name titled base next rest false stored code
          | .error fault =>
            complain name ("error reading '" ++ shown ++ "': " ++ fault.message)
              (passParts filter name titled base next rest false stored 1))
          patience filter.start (stored ++ title)

/-- What such a program is asked for. -/
structure PartRequest where
  /-- Whether bytes are counted. -/
  inBytes : Bool
  sign : Option Char
  count : Nat

/-- Reads the count of a call; without any there are ten lines. -/
def partRequest (call : Call) : Except String PartRequest :=
  let (letter, written) :=
    (call.options.reverse.find? fun given => given.1 = 'c' || given.1 = 'n').getD ('n', "10")
  let inBytes : Bool := letter = 'c'
  let sign := written.toList.head?.filter ['+', '-'].contains
  let bare := if sign = some '-' then (written.drop 1).toString else written
  let lament := "invalid number of " ++ (if inBytes then "bytes" else "lines") ++ ": '" ++ bare
    ++ "'"
  match Quantity.read Quantity.usualUnits false bare with
  | .ok count => .ok ⟨inBytes, sign, count⟩
  | .error .tooLarge => .error (lament ++ ": Value too large for defined data type")
  | .error _ => .error lament

/-- Whether there are titles above the parts. -/
def hasTitles (call : Call) : Bool :=
  match call.options.reverse.find? fun given => given.1 = 'q' || given.1 = 'v' with
  | some (letter, _) => letter = 'v'
  | none => 1 < call.operands.length

/-- The options that the programs share. -/
def partOptions : Options where
  plain := "qvz"
  taking := "nc"
  long := [("bytes", 'c'), ("lines", 'n'), ("quiet", 'q'), ("silent", 'q'), ("verbose", 'v'),
    ("zero-terminated", 'z')]

/-- The files of a call, or the input. -/
def filesOf (call : Call) : List String :=
  if call.operands.isEmpty then ["-"] else call.operands

/-! ## The beginning -/

/-- The options that the letters behind a bare count stand for: the unit, and others. -/
def countOptions (digits : String) : List Char → Bool → String → Except String (List String)
  | [], inBytes, unit => .ok [(if inBytes then "-c" else "-n") ++ digits ++ unit]
  | letter :: rest, inBytes, unit =>
    if letter = 'c' then countOptions digits rest true ""
    else if ['b', 'k', 'm'].contains letter then countOptions digits rest true letter.toString
    else if letter = 'l' then countOptions digits rest false unit
    else if ['q', 'v', 'z'].contains letter then do
      let options ← countOptions digits rest inBytes unit
      pure (options ++ ["-" ++ letter.toString])
    else .error ("invalid trailing option -- " ++ letter.toString)

/-- The words of a call whose first one may be a count by itself. -/
def spellCount (words : List String) : Except String (List String) :=
  match words with
  | word :: rest => do
    let digits := (word.toList.drop 1).takeWhile Char.isDigit
    if word.startsWith "-" && !digits.isEmpty then
      let options ← countOptions (String.ofList digits) (word.toList.drop (1 + digits.length))
        false ""
      pure (options ++ rest)
    else pure words
  | [] => pure []

def head : Program := fun name arguments surroundings =>
  match spellCount arguments with
  | .error complaint => failUse name complaint
  | .ok arguments =>
    withCall name partOptions arguments fun call =>
      let mark := recordMark (call.has 'z')
      let run {σ : Type} (filter : Filter σ) : Task :=
        passParts filter name (hasTitles call) surroundings.directory (putAndExit name)
          (filesOf call) true "" 0
      match partRequest call with
      | .error complaint => fail name complaint 1
      | .ok ⟨true, some '-', count⟩ => run (allButLastBytes count)
      | .ok ⟨true, _, count⟩ => run (firstBytes count)
      | .ok ⟨false, some '-', count⟩ => run (allButLastLines mark count)
      | .ok ⟨false, _, count⟩ => run (firstLines mark count)

/-! ## The end -/

/-- The words of a call whose first one may be a count by itself, or a place to begin at. -/
def spellStart (words : List String) : List String :=
  match words with
  | word :: rest =>
    let digits := (word.toList.drop 1).takeWhile Char.isDigit
    let letters := word.toList.drop (1 + digits.length)
    let (units, others) := match letters with
      | 'b' :: others => (some 'b', others)
      | 'c' :: others => (some 'c', others)
      | 'l' :: others => (none, others)
      | others => (none, others)
    let isCount := (word.startsWith "+" || word.startsWith "-" && !digits.isEmpty)
      && (others.isEmpty || others = ['f'])
      && (rest.length ≤ 1 || rest.length = 2 && rest.head? = some "--")
      && !(rest.any fun word => rest.length = 1 && word.startsWith "-" && word ≠ "-")
    if !isCount then words
    else
      let sign := (word.take 1).toString
      let number := if digits.isEmpty then "10" else String.ofList digits
      let option := if units.isSome then "-c" else "-n"
      let unit := if units = some 'b' then "b" else ""
      (option ++ sign ++ number ++ unit) :: (if others.isEmpty then rest else "-f" :: rest)
  | [] => []

def tail : Program := fun name arguments surroundings =>
  withCall name {
    partOptions with
    plain := "fFqvz0123456789"
    taking := "ncs"
    long := ("follow", 'f') :: ("retry", 'F') :: ("sleep-interval", 's') :: partOptions.long }
    (spellStart arguments) fun call =>
    let mark := recordMark (call.has 'z')
    let follows := (call.has 'f' || call.has 'F') && call.operands.any (· ≠ "-")
    let finish (stored : String) (code : Nat) : Task :=
      if follows then put name stored (.sleep .greatest (.exitWith code))
      else putAndExit name stored code
    let run {σ : Type} (filter : Filter σ) : Task :=
      passParts filter name (hasTitles call) surroundings.directory finish (filesOf call) true "" 0
    let stray? := call.options.find? fun given => given.1.isDigit
    match stray?, partRequest call with
    | some (letter, _), _ =>
      fail name ("option used in invalid context -- " ++ letter.toString) 1
    | none, .error complaint => fail name complaint 1
    | none, .ok ⟨true, some '+', count⟩ => run (fromByte count)
    | none, .ok ⟨false, some '+', count⟩ => run (fromLine mark count)
    | none, .ok ⟨inBytes, _, count⟩ =>
      if count = 0 && !follows then .exitWith 0
      else if inBytes then run (lastBytes count)
      else run (lastLines mark count)

end RpcEndpoint.Program
