import RpcEndpoint.Text.Kind

/-!
# Regular expressions

An expression matches parts of a text. From a place in the text it leads to the places where such a
part may end; they are listed from the farthest to the nearest, each one once. The first place from
which it leads anywhere counts, and then the farthest end.
-/

namespace RpcEndpoint

/-- What a text is searched for. -/
inductive Expression where
  | nothing
  | one (test : Char → Bool)
  | beginning
  | ending
  /-- Between two characters, either of which may be missing. -/
  | between (test : Option Char → Option Char → Bool)
  /-- Whether something can be matched from here on. -/
  | ahead (isWanted : Bool) (inside : Expression)
  /-- What a group has matched before. -/
  | again (number : Nat)
  | group (number : Nat) (inside : Expression)
  | both (first second : Expression)
  | either (first second : Expression)
  | repeated (least : Nat) (most : Option Nat) (inside : Expression)

namespace Expression

/-- A place in a text, and what the groups have matched on the way to it. -/
structure Place where
  before : Option Char
  rest : List Char
  position : Nat
  /-- What the groups have matched; what came last stands first. -/
  groups : List (Nat × List Char)

namespace Place

/-- The place behind the next character. -/
def advance (place : Place) : Place :=
  match place.rest with
  | [] => place
  | character :: rest =>
    { place with before := some character, rest, position := place.position + 1 }

/-- The place so many characters farther. -/
def skip (place : Place) : Nat → Place
  | 0 => place
  | count + 1 => place.advance.skip count

/-- The text from a place to a later one. -/
def textTo (place later : Place) : List Char :=
  place.rest.take (later.position - place.position)

/-- The places from the farthest to the nearest, each one once. -/
def inOrder (places : List Place) : List Place :=
  let sorted := places.mergeSort fun left right => right.position ≤ left.position
  let rec once : List Place → List Place
    | first :: second :: rest =>
      if first.position = second.position then once (first :: rest)
      else first :: once (second :: rest)
    | places => places
  termination_by places => places.length
  once sorted

end Place

/-- Repeats a step, so many times at the most. The places that have been reached before lead to
nothing new once the step has been repeated often enough. -/
def iterate (step : Place → List Place) :
    Nat → Nat → Option Nat → List Nat → List Place → List Place
  | 0, _, _, _, _ => []
  | fuel + 1, least, most, seen, places =>
    let found := if least = 0 then places else []
    if places.isEmpty || most = some 0 then found
    else
      let known := if least = 0 then places.map Place.position ++ seen else seen
      let reached := Place.inOrder (places.flatMap step)
      let fresh := if least ≤ 1 then
        reached.filter fun place => !known.contains place.position else reached
      found ++ iterate step fuel (least - 1) (most.map (· - 1)) known fresh

/-- Where a part that the expression matches from a place on may end. -/
def ends : Expression → Place → List Place
  | .nothing, place => [place]
  | .one test, place =>
    match place.rest with
    | [] => []
    | character :: _ => if test character then [place.advance] else []
  | .beginning, place => if place.position = 0 then [place] else []
  | .ending, place => if place.rest.isEmpty then [place] else []
  | .between test, place => if test place.before place.rest.head? then [place] else []
  | .ahead isWanted inside, place =>
    if (inside.ends place).isEmpty = isWanted then [] else [place]
  | .again number, place =>
    match place.groups.lookup number with
    | none => []
    | some text =>
      if text.isPrefixOf place.rest then [place.skip text.length] else []
  | .group number inside, place =>
    (inside.ends place).map fun later =>
      { later with groups := (number, place.textTo later) :: later.groups }
  | .both first second, place =>
    Place.inOrder ((first.ends place).flatMap second.ends)
  | .either first second, place =>
    Place.inOrder (first.ends place ++ second.ends place)
  | .repeated least most inside, place =>
    Place.inOrder (iterate inside.ends (place.rest.length + least + 2) least most [] [place])

/-- A part of a text that an expression matches. -/
structure Match where
  start : Nat
  stop : Nat
  text : List Char
  groups : List (Nat × List Char)

/-- What a group has matched. -/
def Match.group (number : Nat) (found : Match) : List Char :=
  if number = 0 then found.text else (found.groups.lookup number).getD []

/-- Searches for the expression from a place on, so many places at the most. -/
def searchFrom (expression : Expression) : Nat → Place → Option Match
  | 0, _ => none
  | fuel + 1, place =>
    match expression.ends place with
    | farthest :: _ =>
      some ⟨place.position, farthest.position, place.textTo farthest, farthest.groups⟩
    | [] => if place.rest.isEmpty then none else expression.searchFrom fuel place.advance

/-- Searches for the expression in a text from a position on. -/
def search (expression : Expression) (text : List Char) (position : Nat) : Option Match :=
  let start := (Place.mk none text 0 []).skip (min position text.length)
  expression.searchFrom (text.length + 1) start

/-- Whether the expression matches a part of a text. -/
def isIn (expression : Expression) (text : String) : Bool :=
  (expression.search text.toList 0).isSome

/-- All parts of a text that the expression matches, none of which begins before the last one
ends. An empty part does not stand directly behind another one. -/
def searchAll (expression : Expression) (text : List Char) : Nat → Nat → Option Nat → List Match
  | 0, _, _ => []
  | fuel + 1, position, last =>
    if text.length < position then []
    else
      match expression.search text position with
      | none => []
      | some found =>
        if found.stop = found.start then
          let rest := expression.searchAll text fuel (found.stop + 1) none
          if last = some found.start then rest else found :: rest
        else found :: expression.searchAll text fuel found.stop (some found.stop)

/-- All parts of a text that the expression matches. -/
def matchesIn (expression : Expression) (text : List Char) : List Match :=
  expression.searchAll text (text.length + 2) 0 none

end Expression

end RpcEndpoint
