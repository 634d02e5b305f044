import RpcEndpoint.Process.Program.Filter
import RpcEndpoint.Process.Numeral

/-!
# Parts of lines

Bytes or fields at the positions of a list are cut out of each line.
-/

namespace RpcEndpoint.Program.Fields

/-! ## Lists of positions -/

/-- A range of positions; without an end it goes on. -/
structure Span where
  first : Nat
  last : Option Nat
deriving Repr, DecidableEq

def Span.covers (position : Nat) (span : Span) : Bool :=
  span.first ≤ position && span.last.all (position ≤ ·)

/-- What the positions of a list are called when something is wrong with them. -/
structure Names where
  wrong : String
  zero : String
  range : String
  large : String

def fieldNames : Names :=
  ⟨"invalid field value", "fields are numbered from 1", "invalid field range", "field number"⟩

def byteNames : Names :=
  ⟨"invalid byte/character position", "byte/character positions are numbered from 1",
    "invalid byte or character range", "byte/character offset"⟩

/-- What has been read of a range: the number before the dash, whether there is a dash, and the
number behind it. -/
structure Draft where
  low : Option Nat := none
  isRange : Bool := false
  high : Option Nat := none

/-- The range that a draft is. -/
def Draft.finish (names : Names) (draft : Draft) : Except String Span :=
  match draft.isRange, draft.low, draft.high with
  | false, some position, _ => if position = 0 then .error names.zero
    else .ok ⟨position, some position⟩
  | false, none, _ => .error names.zero
  | true, none, none => .error "invalid range with no endpoint: -"
  | true, low?, none => .ok ⟨low?.getD 1, none⟩
  | true, low?, some high =>
    if high < low?.getD 1 then .error "invalid decreasing range" else .ok ⟨low?.getD 1, some high⟩

/-- Reads the ranges of a list. Blanks separate them as commas do. -/
def readSpans (names : Names) : Nat → List Char → Draft → Except String (List Span)
  | 0, _, draft | _, [], draft => do pure [← draft.finish names]
  | fuel + 1, character :: rest, draft =>
    if character = '-' then
      if draft.isRange then .error names.range
      else if draft.low = some 0 then .error names.zero
      else readSpans names fuel rest { draft with isRange := true }
    else if [',', ' ', '\t'].contains character then do
      let span ← draft.finish names
      pure (span :: (← readSpans names fuel rest {}))
    else if character.isDigit then
      let digits := (character :: rest).takeWhile Char.isDigit
      let number := (String.ofList digits).toNat?.getD 0
      if Quantity.limit ≤ number then
        .error (names.large ++ " '" ++ String.ofList digits ++ "' is too large")
      else
        readSpans names fuel ((character :: rest).drop digits.length)
          (if draft.isRange then { draft with high := some number }
          else { draft with low := some number })
    else .error (names.wrong ++ " '" ++ String.ofList (character :: rest) ++ "'")

/-- Ranges in order, those that overlap as one. -/
def merged : List Span → List Span
  | first :: second :: rest =>
    if first.last.all (second.first ≤ ·) then
      let last := match first.last, second.last with
        | some left, some right => some (max left right)
        | _, _ => none
      merged (⟨first.first, last⟩ :: rest)
    else first :: merged (second :: rest)
  | spans => spans
termination_by spans => spans.length

/-- The ranges between those of a list, from a position on. -/
def gaps (next : Nat) : List Span → List Span
  | [] => [⟨next, none⟩]
  | span :: rest =>
    let before := if next < span.first then [⟨next, some (span.first - 1)⟩] else []
    match span.last with
    | some last => before ++ gaps (last + 1) rest
    | none => before

/-- The ranges of a list in order, or those that it leaves out. -/
def spans (names : Names) (complement : Bool) (written : String) : Except String (List Span) := do
  let given ← readSpans names (written.length + 1) written.toList {}
  let ordered := merged (given.mergeSort fun left right => left.first ≤ right.first)
  pure (if complement then gaps 1 ordered else ordered)

/-! ## Cutting -/

/-- The things that ranges cover, those of each range by themselves. -/
def chosen {α : Type} (spans : List Span) (things : List α) : List (List α) :=
  (spans.map fun span =>
    let rest := things.drop (span.first - 1)
    match span.last with
    | some last => rest.take (last + 1 - span.first)
    | none => rest).filter (!·.isEmpty)

/-- What is cut out of a line. -/
inductive Cutting where
  /-- Bytes, with something between those of different ranges. -/
  | bytes (spans : List Span) (joint : String)
  /-- Fields between delimiters, which get others. Lines without any may be left out. -/
  | fields (spans : List Span) (delimiter joint : String) (onlyDelimited : Bool)

def Cutting.line : Cutting → String → Option String
  | .bytes spans joint, line =>
    some (joint.intercalate ((chosen spans line.toList).map String.ofList))
  | .fields spans delimiter joint onlyDelimited, line =>
    match line.splitOn delimiter with
    | [_] => if onlyDelimited then none else some line
    | parts => some (joint.intercalate (chosen spans parts).flatten)

/-- The options; the last ones have no letters of their own. -/
def options : Options where
  plain := "snz"
  taking := "bcfd"
  named := "o"
  long := [("bytes", 'b'), ("characters", 'c'), ("fields", 'f'), ("delimiter", 'd'),
    ("only-delimited", 's'), ("output-delimiter", 'o'), ("complement", 'C'),
    ("zero-terminated", 'z')]

/-- What a call asks for. -/
def cuttingOf (call : Call) : Except String Cutting := do
  let lists := call.options.filter fun given => ['b', 'c', 'f'].contains given.1
  let delimiter? := call.argument? 'd'
  let orZero (text : String) : String := if text.isEmpty then "\x00" else text
  let joint? := (call.argument? 'o').map orZero
  if 1 < (delimiter?.getD "").length then .error "the delimiter must be a single character"
  else
    match lists with
    | [] => .error "you must specify a list of bytes, characters, or fields"
    | _ :: _ :: _ => .error "only one list may be specified"
    | [('f', list)] => do
      let spans ← spans fieldNames (call.has 'C') list
      let delimiter := orZero (delimiter?.getD "\t")
      pure (.fields spans delimiter (joint?.getD delimiter) (call.has 's'))
    | [(_, list)] =>
      if delimiter?.isSome then
        .error "an input delimiter may be specified only when operating on fields"
      else if call.has 's' then
        .error "suppressing non-delimited lines makes sense\n\tonly when operating on fields"
      else do
        let spans ← spans byteNames (call.has 'C') list
        pure (.bytes spans (joint?.getD ""))

def program : Program := fun name arguments surroundings =>
  withCall name options arguments fun call =>
    match cuttingOf call with
    | .error complaint => failUse name complaint
    | .ok cutting =>
      let mark := recordMark (call.has 'z')
      (recordFilter mark () (fun _ line _ =>
        (match cutting.line line with
          | some part => part ++ mark
          | none => "", ())) (fun _ => false) fun _ => "").run name plainLament
        surroundings.directory call.operands fun _ => 0

end RpcEndpoint.Program.Fields
