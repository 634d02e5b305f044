import RpcEndpoint.Process.Printf
import RpcEndpoint.Process.Program.Filter

/-!
# Exchanging characters

A set names characters one after another: by themselves, as ranges, by a kind or as repeats of one.
The characters of a first set are exchanged for those at the same places of a second one, deleted,
or squeezed into one where they stand in a row.
-/

namespace RpcEndpoint.Program.Characters

/-! ## Sets -/

/-- A part of a set. -/
inductive Part where
  | single (character : Char)
  | range (low high : Char)
  /-- The characters of a kind, by its name. -/
  | category (name : String)
  /-- A character with those that count as the same, which is itself. -/
  | equal (character : Char)
  /-- A character so many times, or as often as needed. -/
  | repeated (character : Char) (count : Option Nat)
deriving Repr, DecidableEq

/-- The characters of one byte. -/
def all : List Char :=
  (List.range 256).map Char.ofNat

/-- The characters of a part. -/
def Part.members : Part → List Char
  | .single character | .equal character => [character]
  | .range low high => all.filter fun character => low ≤ character && character ≤ high
  | .category name => all.filter ((Kind.named? name).getD fun _ => false)
  | .repeated character count => List.replicate (count.getD 0) character

/-- The characters of a set. -/
def members (parts : List Part) : List Char :=
  parts.flatMap Part.members

/-! ## Reading a set -/

/-- A character, and whether it stood behind a backslash. -/
abbrev Mark := Char × Bool

/-- Reads the escapes of a set. Some of them are worth a warning. -/
def unescape : Nat → List Char → List Mark × List String
  | 0, _ | _, [] => ([], [])
  | fuel + 1, '\\' :: rest =>
    match rest with
    | [] =>
      ([('\\', false)], ["warning: an unescaped backslash at end of string is not portable"])
    | letter :: after =>
      if Numeral.isOctal letter then
        let (code, left) := Numeral.readDigits 8 3 0 rest
        if code < 256 then
          let (marks, warnings) := unescape fuel left
          ((Char.ofNat code, true) :: marks, warnings)
        else
          let digits := String.ofList (rest.take 3)
          let (marks, warnings) := unescape fuel (rest.drop 2)
          ((Char.ofNat (code / 8), true) :: marks,
            ("warning: the ambiguous octal escape \\" ++ digits
              ++ " is being\n\tinterpreted as the 2-byte sequence \\0" ++ (digits.take 2).toString
              ++ ", " ++ (digits.drop 2).toString) :: warnings)
      else
        let (marks, warnings) := unescape fuel after
        (((Printf.escapeLetter? letter).getD letter, true) :: marks, warnings)
  | fuel + 1, character :: rest =>
    let (marks, warnings) := unescape fuel rest
    ((character, false) :: marks, warnings)

/-- The marks up to two given characters, and those behind them. -/
def upTo (delimiter : Char) : List Mark → Option (List Char × List Mark)
  | first :: second :: rest =>
    if first = (delimiter, false) && second = (']', false) then some ([], rest)
    else (upTo delimiter (second :: rest)).map fun found => (first.1 :: found.1, found.2)
  | _ => none

/-- Whether a star, digits and a bracket come. -/
def isRepeatEnd (marks : List Mark) : Bool :=
  match marks with
  | ('*', false) :: rest =>
    (rest.dropWhile fun mark => mark.1.isDigit).head? = some (']', false)
  | _ => false

/-- Reads a repeat behind its bracket. -/
def readRepeat? : List Mark → Except String (Option (Part × List Mark))
  | (character, _) :: ('*', false) :: rest =>
    let inside := rest.takeWhile fun mark => mark ≠ (']', false)
    if inside.length = rest.length then .ok none
    else
      let after := rest.drop (inside.length + 1)
      let digits := inside.map Prod.fst
      let base := if digits.head? = some '0' then 8 else 10
      let (count, left) := Numeral.readDigits base digits.length 0 digits
      if !left.isEmpty then
        .error ("invalid repeat count '" ++ String.ofList digits ++ "' in [c*n] construct")
      else .ok (some (.repeated character (if count = 0 then none else some count), after))
  | _ => .ok none

/-- How a character is named in a complaint about a range. -/
def rangeName (character : Char) : String :=
  if 32 ≤ character.toNat && character.toNat < 127 then character.toString
  else
    let digits := String.ofList (Nat.toDigits 8 character.toNat)
    "\\" ++ String.ofList (List.replicate (3 - digits.length) '0') ++ digits

/-- Reads the parts of a set. -/
def readParts : Nat → List Mark → Except String (List Part)
  | 0, _ | _, [] => .ok []
  | fuel + 1, first :: second :: third :: rest => do
    let plain : Except String (List Part) := do
      if second = ('-', false) then
        if third.1 < first.1 then
          .error ("range-endpoints of '" ++ rangeName first.1 ++ "-" ++ rangeName third.1
            ++ "' are in reverse collating sequence order")
        else pure (.range first.1 third.1 :: (← readParts fuel rest))
      else pure (.single first.1 :: (← readParts fuel (second :: third :: rest)))
    let bracketed : Except String (List Part) := do
      match ← readRepeat? (second :: third :: rest) with
      | some (part, after) => pure (part :: (← readParts fuel after))
      | none => plain
    if first ≠ ('[', false) then plain
    else
      let inside := third :: rest
      match if second.2 then none else (upTo second.1 inside).map fun found => (second.1, found) with
      | some (':', name, after) =>
        if name.isEmpty then .error "missing character class name '[::]'"
        else if (Kind.named? (String.ofList name)).isSome then
          pure (.category (String.ofList name) :: (← readParts fuel after))
        else if isRepeatEnd inside then bracketed
        else .error ("invalid character class '" ++ String.ofList name ++ "'")
      | some ('=', name, after) =>
        match name with
        | [] => .error "missing equivalence class character '[==]'"
        | [character] => pure (.equal character :: (← readParts fuel after))
        | _ =>
          if isRepeatEnd inside then bracketed
          else
            .error (String.ofList name
              ++ ": equivalence class operand must be a single character")
      | _ => bracketed
  | _, few => .ok (few.map fun mark => .single mark.1)

/-- A set as it is written: its parts, and what is worth a warning. -/
def readSet (written : String) : Except String (List Part) × List String :=
  let (marks, warnings) := unescape (written.length + 1) written.toList
  (readParts (written.length + 1) marks, warnings)

/-! ## Exchange -/

/-- Whether letters are meant without regard to their order. -/
inductive Case where
  | lower
  | upper
deriving Repr, DecidableEq

def Part.case? : Part → Option Case
  | .category "lower" => some .lower
  | .category "upper" => some .upper
  | _ => none

/-- A character of a set: which part it belongs to, and whether it is the first one of it. -/
structure Place where
  character : Char
  part : Nat
  isFirst : Bool
  case? : Option Case

/-- The characters of a set with what is known about them. -/
def places (parts : List Part) : List Place :=
  parts.zipIdx.flatMap fun (part, index) =>
    part.members.zipIdx.map fun (character, position) =>
      ⟨character, index, position = 0, part.case?⟩

/-- What is left behind the part that a character belongs to. -/
def behind (place : Place) (rest : List Place) : List Place :=
  rest.dropWhile fun other => other.part = place.part

/-- Whether the letters of one case in the second set stand against letters in the first one. -/
def isAligned : Nat → List Place → List Place → Bool
  | _, _, [] | 0, _, _ => true
  | _, [], second :: _ => !(second.isFirst && second.case?.isSome)
  | fuel + 1, first :: sources, second :: targets =>
    if second.case?.isNone then isAligned fuel sources targets
    else if second.isFirst && !(first.isFirst && first.case?.isSome) then false
    else isAligned fuel (behind first sources) (behind second targets)

/-- Which characters are exchanged for which. -/
def exchanges : Nat → List Place → List Place → List (Char × Char)
  | fuel + 1, first :: sources, second :: targets =>
    let goOn : List (Char × Char) :=
      if second.case?.isSome then exchanges fuel (behind first sources) (behind second targets)
      else exchanges fuel sources targets
    match first.case?, second.case? with
    | some .lower, some .upper =>
      ((all.filter Char.isLower).map fun letter => (letter, letter.toUpper)) ++ goOn
    | some .upper, some .lower =>
      ((all.filter Char.isUpper).map fun letter => (letter, letter.toLower)) ++ goOn
    | _, _ => (first.character, second.character) :: goOn
  | _, _, _ => []

/-- A table of what becomes of each character. Of several exchanges of one the last one counts. -/
def table (exchanges : List (Char × Char)) : Array Char :=
  exchanges.foldl (fun table exchange => table.setIfInBounds exchange.1.toNat exchange.2)
    all.toArray

/-- The second set with an open repeat made as long as needed. -/
def filled (length : Nat) (parts : List Part) : List Part :=
  let missing := length - (members parts).length
  parts.map fun
    | .repeated character none => .repeated character (some missing)
    | part => part

/-- The last character of a set, which fills it up. -/
def filler? (parts : List Part) : Except String Char :=
  match parts.getLast? with
  | some (.category _) =>
    .error ("when translating with string1 longer than string2,\n"
      ++ "the latter string must not end with a character class")
  | some (.single character) | some (.equal character) | some (.repeated character _)
  | some (.range _ character) => .ok character
  | none => .error "when not truncating set1, string2 must be non-empty"

/-- What is asked for. -/
structure Request where
  complement : Bool
  deletes : Bool
  squeezes : Bool
  truncates : Bool

/-- What is done with the characters of the input. -/
structure Work where
  /-- What becomes of a character. -/
  change : Char → Option Char
  /-- Which characters are squeezed. -/
  squeezed : Char → Bool

/-- Whether a repeat has no count. -/
def isOpen : Part → Bool
  | .repeated _ none => true
  | _ => false

/-- The exchange of the characters of two sets. -/
def exchange (request : Request) (source target : List Part) : Except String Work := do
  let sources := members source
  let isIn : Array Bool := (all.map sources.contains).toArray
  let others := all.filter fun character => !(isIn.getD character.toNat false)
  let length := if request.complement then others.length else sources.length
  let hasCategory (parts : List Part) : Bool := parts.any fun part => part matches .category _
  if 1 < (target.filter isOpen).length then
    .error "only one [c*] repeat construct may appear in string2"
  else if target.any fun part => part matches .equal _ then
    .error "[=c=] expressions may not appear in string2 when translating"
  else if target.any fun part => hasCategory [part] && part.case?.isNone then
    .error ("when translating, the only character classes that may appear in\n"
      ++ "string2 are 'upper' and 'lower'")
  else
    let target := filled length target
    let size := (members target).length
    if !request.complement && hasCategory target
        && !isAligned (length + size + 1) (places source) (places target) then
      .error "misaligned [:upper:] and/or [:lower:] construct"
    else
      let target ←
        if length ≤ size || request.truncates then pure target
        else do
          let last ← filler? target
          pure (target ++ [.repeated last (some (length - size))])
      let targets := members target
      if request.complement && hasCategory source
          && !(targets.length = length && targets.all (some · = targets.head?)) then
        .error ("when translating with complemented character classes,\n"
          ++ "string2 must map all characters in the domain to one")
      else
        let pairs :=
          if request.complement then others.zip targets
          else exchanges (sources.length + targets.length + 1) (places source) (places target)
        let table := table pairs
        let squeezable : Array Bool := (all.map targets.contains).toArray
        pure {
          change := fun character => some (table.getD character.toNat character)
          squeezed := fun character =>
            request.squeezes && squeezable.getD character.toNat false }

/-- What is done for a request with one or two sets. -/
def plan (request : Request) (source : List Part) (target? : Option (List Part)) :
    Except String Work := do
  let sources := members source
  let isIn : Array Bool := (all.map fun character =>
    sources.contains character != request.complement).toArray
  let isMeant (character : Char) : Bool := isIn.getD character.toNat false
  if source.any isOpen then .error "the [c*] repeat construct may not appear in string1"
  else
    match target? with
    | none =>
      if request.deletes then
        pure ⟨fun character => if isMeant character then none else some character, fun _ => false⟩
      else pure ⟨some, isMeant⟩
    | some target =>
      if !request.deletes then exchange request source target
      else if target.any isOpen then
        .error "the [c*] construct may appear in string2 only when translating"
      else
        let targets := members target
        pure ⟨fun character => if isMeant character then none else some character,
          targets.contains⟩

/-! ## The program -/

/-- A filter of characters that knows the last one it has put out. -/
def filter (work : Work) : Filter (Option Char) where
  start := none
  take last piece :=
    let (output, last) := (piece.toList.filterMap work.change).foldl
      (fun (output, last) character =>
        if work.squeezed character && last = some character then (output, last)
        else (character :: output, some character)) ([], last)
    (String.ofList output.reverse, last)
  isDone _ := false
  finish _ := ""

/-- How a wrong number of operands is refused. -/
def operandLament? (request : Request) (operands : List String) : Option String :=
  let least := if request.deletes = request.squeezes then 2 else 1
  let most := if request.deletes && !request.squeezes then 1 else 2
  match operands with
  | [] => some "missing operand"
  | first :: rest =>
    if operands.length < least then
      some ("missing operand after '" ++ first ++ "'\n" ++ (if request.squeezes then
        "Two strings must be given when both deleting and squeezing repeats."
        else "Two strings must be given when translating."))
    else if operands.length ≤ most then none
    else
      some ("extra operand '" ++ rest.getD (most - 1) "" ++ "'" ++ (if operands.length = 2 then
        "\nOnly one string may be given when deleting without squeezing repeats." else ""))

def program : Program := fun name arguments surroundings =>
  withCall name {
    plain := "cCdst"
    long := [("complement", 'c'), ("delete", 'd'), ("squeeze-repeats", 's'), ("truncate-set1", 't')]
    stopsEarly := true }
    arguments fun call =>
    let request : Request :=
      ⟨call.has 'c' || call.has 'C', call.has 'd', call.has 's', call.has 't'⟩
    match operandLament? request call.operands with
    | some complaint => failUse name complaint
    | none =>
      let (source, warnings) := readSet (call.operands.headD "")
      let target? := call.operands[1]?.map readSet
      let allWarnings := warnings ++ match source, target? with
        | .ok _, some (_, more) => more
        | _, _ => []
      allWarnings.foldr (complain name)
        (match (do plan request (← source) (← target?.mapM Prod.fst)) with
        | .error complaint => fail name complaint 1
        | .ok work =>
          (filter work).run name (fun _ fault => "read error: " ++ fault.message)
            surroundings.directory [] fun _ => 0)

end RpcEndpoint.Program.Characters
