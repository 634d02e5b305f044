import RpcEndpoint.Process.Task
import RpcEndpoint.Text.Bytes
import RpcEndpoint.Text.Kind

/-!
# Patterns of the shell

What a pattern stands for, as a text and among the paths.
-/

namespace RpcEndpoint.Shell.Pattern

/-! ## Patterns

A star stands for any text, a question mark for one character and brackets for one of several
characters. What is quoted in a pattern stands for itself. -/

/-- A text as a pattern is made of it: its characters, and whether they are quoted. -/
abbrev Marked := List (Char × Bool)

/-- A character of some kind. -/
inductive Choice where
  | range (low high : Char)
  | kind (test : Char → Bool)

/-- What a pattern is made of. -/
inductive Element where
  | anything
  | anyone
  | exactly (character : Char)
  | oneOf (negated : Bool) (choices : List Choice)

def Choice.covers (character : Char) : Choice → Bool
  | .range low high => low ≤ character && character ≤ high
  | .kind test => test character

/-- Reads the name of a kind of characters behind a bracket and a colon. -/
def readKind? (marked : Marked) : Option (Choice × Marked) :=
  match marked with
  | ('[', false) :: (':', _) :: rest =>
    let name := rest.takeWhile fun one => one.1.isAlpha
    match rest.drop name.length with
    | (':', _) :: (']', _) :: rest =>
      (Kind.named? (String.ofList (name.map Prod.fst))).map fun test => (.kind test, rest)
    | _ => none
  | _ => none

/-- Reads the choices between brackets, through the closing one; nothing if there is none. -/
def readChoices : Nat → Bool → Marked → List Choice → Option (List Choice × Marked)
  | 0, _, _, _ | _, _, [], _ => none
  | fuel + 1, isFirst, (character, quoted) :: rest, choices =>
    if character = ']' && !quoted && !isFirst then some (choices, rest)
    else
      match readKind? ((character, quoted) :: rest) with
      | some (choice, rest) => readChoices fuel false rest (choice :: choices)
      | none =>
        match rest with
        | ('-', false) :: (high, highQuoted) :: after =>
          if high = ']' && !highQuoted then
            readChoices fuel false rest (.range character character :: choices)
          else readChoices fuel false after (.range character high :: choices)
        | _ => readChoices fuel false rest (.range character character :: choices)

/-- The elements of a pattern, so many at the most. -/
def elements : Nat → Marked → List Element
  | 0, _ | _, [] => []
  | fuel + 1, (character, true) :: rest => .exactly character :: elements fuel rest
  | fuel + 1, ('*', false) :: rest => .anything :: elements fuel rest
  | fuel + 1, ('?', false) :: rest => .anyone :: elements fuel rest
  | fuel + 1, ('[', false) :: rest =>
    let (negated, inside) := match rest with
      | ('!', false) :: inside | ('^', false) :: inside => (true, inside)
      | inside => (false, inside)
    match readChoices (inside.length + 1) true inside [] with
    | some (choices, rest) => .oneOf negated choices :: elements fuel rest
    | none => .exactly '[' :: elements fuel rest
  | fuel + 1, (character, false) :: rest => .exactly character :: elements fuel rest

def ofMarked (marked : Marked) : List Element :=
  elements marked.length marked

/-- Whether one of the ends of a text satisfies a test. -/
def anyEnd (test : List Char → Bool) : List Char → Bool
  | [] => test []
  | character :: rest => test (character :: rest) || anyEnd test rest

/-- The ends of a text, from the whole of it to nothing. -/
def endingsOf : List Char → List (List Char)
  | [] => [[]]
  | character :: rest => (character :: rest) :: endingsOf rest

/-- Whether a text is one of those that elements stand for. -/
def covers : List Element → List Char → Bool
  | [], text => text.isEmpty
  | .anything :: rest, text => anyEnd (covers rest) text
  | _ :: _, [] => false
  | .anyone :: rest, _ :: text => covers rest text
  | .exactly wanted :: rest, character :: text => wanted = character && covers rest text
  | .oneOf negated choices :: rest, character :: text =>
    (choices.any (Choice.covers character)) != negated && covers rest text

/-- A text without a beginning that the elements stand for. -/
def dropBeginning (longest : Bool) (pattern : List Element) (text : String) : String :=
  let characters := text.toList
  let lengths := List.range (characters.length + 1)
  let candidates := if longest then lengths.reverse else lengths
  match candidates.find? fun length => covers pattern (characters.take length) with
  | some length => String.ofList (characters.drop length)
  | none => text

/-- A text without an end that the elements stand for. -/
def dropEnding (longest : Bool) (pattern : List Element) (text : String) : String :=
  let characters := text.toList
  let endings := endingsOf characters
  let candidates := if longest then endings else endings.reverse
  match candidates.find? (covers pattern) with
  | some ending => String.ofList (characters.take (characters.length - ending.length))
  | none => text

end RpcEndpoint.Shell.Pattern

namespace RpcEndpoint.Shell.Paths

/-! ## Patterns of paths

A field that is a pattern stands for the paths that it covers, in ascending order. It is walked name
by name; a name that begins with a point is covered only by a pattern that begins with one too. A
pattern that covers no path stands for itself. -/

open Pattern (Marked)

/-- The text of a field. -/
def textOf (field : Marked) : String :=
  String.ofList (field.map Prod.fst)

/-- Whether an element covers more than one character. -/
def isOpen : Pattern.Element → Bool
  | .exactly _ => false
  | _ => true

/-- Whether there is a pattern in a text. -/
def isPattern (marked : Marked) : Bool :=
  marked.any (fun one => !one.2 && ['*', '?', '['].contains one.1)
    && (Pattern.ofMarked marked).any isOpen

/-- The names in a path, which has slashes between them. -/
def names : Marked → List Marked
  | [] => [[]]
  | one :: rest =>
    if one.1 = '/' then [] :: names rest
    else
      match names rest with
      | name :: others => (one :: name) :: others
      | [] => [[one]]

/-- Whether a name in a directory is one of those that a pattern stands for. -/
def coversName (pattern : Marked) (name : String) : Bool :=
  (!name.startsWith "." || pattern.head?.any fun one => one.1 = '.')
    && Pattern.covers (Pattern.ofMarked pattern) name.toList

/-- Goes on with those paths that lead somewhere, in ascending order. -/
def keepThere (base : Place) (next : List String → Task) : List String → List String → Task
  | [], kept => next (kept.mergeSort fun left right => !(right < left))
  | path :: rest, kept =>
    .look base path fun
      | .ok _ => keepThere base next rest (path :: kept)
      | .error _ => keepThere base next rest kept

/-- Goes on with what a name adds to the beginnings of paths. -/
def addName (base : Place) (name : Marked) (ending : String) (next : List String → Task) :
    List String → List String → Task
  | [], found => next found
  | beginning :: rest, found =>
    .list base (if beginning.isEmpty then "." else beginning) fun held =>
      let covered := held.filter (coversName name)
      addName base name ending next rest
        (found ++ covered.map fun one => beginning ++ one ++ ending)

/-- Goes on with the paths that begin in one of some ways and go on with some names. -/
def follow (base : Place) (next : List String → Task) : List Marked → List String → Task
  | [], found => keepThere base next found []
  | name :: rest, beginnings =>
    let ending := if rest.isEmpty then "" else "/"
    if isPattern name then addName base name ending (follow base next rest) beginnings []
    else follow base next rest (beginnings.map fun beginning => beginning ++ textOf name ++ ending)

/-- Goes on with what a field stands for, seen from a place. -/
def expand (base : Place) (field : Marked) (next : List String → Task) : Task :=
  if isPattern field then
    follow base (fun found => next (if found.isEmpty then [textOf field] else found))
      (names field) [""]
  else next [textOf field]

/-- Goes on with what some fields stand for. -/
def expandAll (base : Place) (next : List String → Task) : List Marked → List String → Task
  | [], before => next before
  | field :: rest, before =>
    expand base field fun found => expandAll base next rest (before ++ found)

end RpcEndpoint.Shell.Paths
