import RpcEndpoint.Process.Expression.Basic

/-!
# Written regular expressions

How regular expressions are read, and what may be said about those that were read.
-/

namespace RpcEndpoint.Expression

/-! ## How regular expressions are written

There are two ways. In the basic one the signs for groups, counts and choices have their meaning
behind a backslash, and in the extended one without it; apart from that they are read alike. -/

/-- How an expression is written. -/
structure Style where
  extended : Bool := false
  /-- Whether capital and small letters are the same. -/
  folds : Bool := false
  /-- Whether a sign that lacks what it needs is wrong. Otherwise it is a letter or nothing. -/
  isStrict : Bool := false
  /-- Whether more letters stand for something, and groups may be looked at without being kept. -/
  isRich : Bool := false
  /-- Whether each line of a text has a beginning and an end of its own. -/
  isByLine : Bool := false
deriving Repr, DecidableEq

/-- The smallest units of a written expression. -/
inductive Mark where
  | letter (character : Char)
  | anyone
  | bracket
  | openGroup
  | closeGroup
  | choice
  | star
  | plus
  | optional
  | count
  | lineStart
  | lineEnd
  /-- A letter behind a backslash that stands for something. -/
  | escape (letter : Char)
  | reference (number : Nat)
deriving Repr, DecidableEq

/-- The sign that has its meaning in one way as it is, and in the other one behind a backslash. -/
def sign? (character : Char) : Option Mark :=
  match character with
  | '(' => some .openGroup
  | ')' => some .closeGroup
  | '|' => some .choice
  | '+' => some .plus
  | '?' => some .optional
  | '{' => some .count
  | _ => none

/-- The letters that stand for something behind a backslash. -/
def escapes : List Char :=
  ['w', 'W', 's', 'S', 'b', 'B', '<', '>', '\'', Char.ofNat 0x60]

/-- Further ones that a rich style has. -/
def richEscapes : List Char :=
  ['d', 'D', 'h']

/-- Reads a mark. -/
def readMark (style : Style) : List Char → Except String (Option (Mark × List Char))
  | [] => .ok none
  | '\\' :: [] => .error "Trailing backslash"
  | '\\' :: character :: rest =>
    if let some sign := sign? character then
      .ok (some (if style.extended then .letter character else sign, rest))
    else if '1' ≤ character && character ≤ '9' then
      .ok (some (.reference (character.toNat - '0'.toNat), rest))
    else if escapes.contains character || style.isRich && richEscapes.contains character then .ok (some (.escape character, rest))
    else .ok (some (.letter (if character = 'n' then '\n' else character), rest))
  | character :: rest =>
    let mark :=
      match character with
      | '.' => Mark.anyone
      | '[' => .bracket
      | '*' => .star
      | '^' => .lineStart
      | '$' => .lineEnd
      | _ => ((sign? character).filter fun _ => style.extended).getD (.letter character)
    .ok (some (mark, rest))

/-! ### Characters -/

/-- A test that makes no difference between capital and small letters. -/
def withoutCase (test : Char → Bool) (character : Char) : Bool :=
  test character || test character.toLower || test character.toUpper

/-- A single character that satisfies a test. -/
def character (style : Style) (test : Char → Bool) : Expression :=
  .one (if style.folds then withoutCase test else test)

/-- Reads a character in brackets, which may be between brackets and points of its own. -/
def readMember : List Char → Option (Char × List Char)
  | '[' :: '.' :: member :: '.' :: ']' :: rest => some (member, rest)
  | '[' :: '=' :: member :: '=' :: ']' :: rest => some (member, rest)
  | member :: rest => some (member, rest)
  | [] => none

/-- The complaint about brackets without an end. -/
def openBracket : String := "Unmatched [, [^, [:, [., or [="

/-- Reads the members between brackets, through the closing one. -/
def readMembers : Nat → Bool → List Char → List (Char → Bool) →
    Except String (List (Char → Bool) × List Char)
  | 0, _, _, _ | _, _, [], _ => .error openBracket
  | fuel + 1, isFirst, characters, tests =>
    let name := (characters.drop 2).takeWhile Char.isAlpha
    match characters, characters.drop (2 + name.length) with
    | '[' :: ':' :: _, ':' :: ']' :: rest =>
      match Kind.named? (String.ofList name) with
      | some test => readMembers fuel false rest (test :: tests)
      | none => .error "Invalid character class name"
    | ']' :: rest, _ =>
      if isFirst then readRange fuel ']' rest tests else .ok (tests, rest)
    | _, _ =>
      match readMember characters with
      | none => .error openBracket
      | some (low, rest) => readRange fuel low rest tests
where
  readRange (fuel : Nat) (low : Char) (rest : List Char) (tests : List (Char → Bool)) :
      Except String (List (Char → Bool) × List Char) :=
    match rest with
    | '-' :: ']' :: _ => readMembers fuel false rest ((· == low) :: tests)
    | '-' :: after =>
      match readMember after with
      | none => .error openBracket
      | some (high, left) =>
        if high < low then .error "Invalid range end"
        else
          readMembers fuel false left
            ((fun character => low ≤ character && character ≤ high) :: tests)
    | _ => readMembers fuel false rest ((· == low) :: tests)

/-- Reads what stands behind an opening bracket. -/
def readBracket (style : Style) (characters : List Char) :
    Except String (Expression × List Char) := do
  let (isNegated, inside) := match characters with
    | '^' :: inside => (true, inside)
    | inside => (false, inside)
  if inside.isEmpty then .error "Invalid regular expression"
  let (tests, rest) ← readMembers (inside.length + 1) true inside []
  let isMember (one : Char) : Bool :=
    let test (character : Char) : Bool := tests.any fun test => test character
    if style.folds then withoutCase test one else test one
  let excludes (one : Char) : Bool := isNegated && style.isByLine && one = '\n'
  pure (.one fun one => isMember one != isNegated && !excludes one, rest)

/-- What a letter behind a backslash stands for. -/
def escaped (letter : Char) : Expression :=
  let isWord (character : Option Char) : Bool := character.any Kind.isWord
  match letter with
  | 'w' => .one Kind.isWord
  | 'W' => .one fun character => !Kind.isWord character
  | 's' => .one Kind.isSpace
  | 'S' => .one fun character => !Kind.isSpace character
  | 'd' => .one Char.isDigit
  | 'D' => .one fun character => !character.isDigit
  | 'h' => .one fun character => character = ' ' || character = '\t'
  | 'b' => .between fun before after => isWord before != isWord after
  | 'B' => .between fun before after => isWord before == isWord after
  | '<' => .between fun before after => !isWord before && isWord after
  | '>' => .between fun before after => isWord before && !isWord after
  | '\'' => .ending
  | _ => .beginning

/-- Whether a letter behind a backslash stands for a place between characters. -/
def isPlace (letter : Char) : Bool :=
  !(['w', 'W', 's', 'S'].contains letter) && !richEscapes.contains letter

/-! ### Counts -/

/-- The most repetitions that can be asked for. -/
def mostRepeats : Nat := 32767

/-- What ends a number in a count. -/
inductive CountMark where
  | comma
  | close
  /-- There is no more text. -/
  | nothing
deriving Repr, DecidableEq

/-- A number in a count. -/
inductive CountNumber where
  | missing
  | wrong
  | number (value : Nat)
deriving Repr, DecidableEq

/-- Reads a number in a count, through the mark behind it. -/
def readCountNumber (style : Style) :
    List Char → CountNumber → CountNumber × CountMark × List Char
  | [], _ => (.wrong, .nothing, [])
  | ',' :: rest, number => (number, .comma, rest)
  | '\\' :: '}' :: rest, number =>
    if style.extended then readCountNumber style rest .wrong else (number, .close, rest)
  | '\\' :: _ :: rest, _ => readCountNumber style rest .wrong
  | character :: rest, number =>
    if style.extended && character = '}' then (number, .close, rest)
    else
      let digit := character.toNat - '0'.toNat
      readCountNumber style rest (match character.isDigit, number with
        | true, .missing => .number digit
        | true, .number value => .number (min (value * 10 + digit) (mostRepeats + 1))
        | _, _ => .wrong)

/-- Reads a count of repetitions, through the closing brace. There is none if the brace stands for
itself, which it may do in a style that is extended but not strict. -/
def readCount (style : Style) (characters : List Char) :
    Except String (Option ((Nat × Option Nat) × List Char)) := do
  let wrong := "Invalid content of \\\x7b\\\x7d"
  let isNoCount (mark : CountMark) : Except String (Option ((Nat × Option Nat) × List Char)) :=
    if style.extended && !style.isStrict then pure none
    else .error (if mark = .nothing then "Unmatched \\\x7b" else wrong)
  let check (least : Nat) (most : Option Nat) (rest : List Char) :
      Except String (Option ((Nat × Option Nat) × List Char)) :=
    if most.any (· < least) then .error wrong
    else if mostRepeats < most.getD least then .error "Regular expression too big"
    else pure (some ((least, most), rest))
  match readCountNumber style characters .missing with
  | (.missing, .close, _) => .error wrong
  | (.number value, .close, rest) => check value (some value) rest
  | (.wrong, mark, _) | (_, mark@.nothing, _) => isNoCount mark
  | (least, .comma, rest) =>
    let least := match least with
      | .number value => value
      | _ => 0
    match readCountNumber style rest .missing with
    | (.wrong, mark, _) => isNoCount mark
    | (.missing, .close, rest) => check least none rest
    | (.number value, .close, rest) => check least (some value) rest
    | _ => .error wrong

/-! ### Places -/

/-- Where a text begins, or a line of it. -/
def lineStart (style : Style) : Expression :=
  if style.isByLine then .between fun before _ => before.all (· = '\n') else .beginning

/-- Where a text ends, or a line of it. -/
def lineEnd (style : Style) : Expression :=
  if style.isByLine then .between fun _ after => after.all (· = '\n') else .ending

/-! ### Expressions -/

/-- An expression on its way. -/
structure Draft where
  rest : List Char
  /-- How many groups have been opened. -/
  groups : Nat

abbrev Drafting := StateT Draft (Except String)

/-- The next mark, which is not taken. -/
def peek (style : Style) : Drafting (Option (Mark × List Char)) := do
  readMark style (← get).rest

/-- Goes on behind something that has been read. -/
def goOn (rest : List Char) : Drafting Unit :=
  modify fun draft => { draft with rest }

/-- Whether nothing of a branch is left. -/
def isBranchEnd (style : Style) (rest : List Char) : Bool :=
  match readMark style rest with
  | .ok none | .ok (some (.closeGroup, _)) | .ok (some (.choice, _)) => true
  | _ => false

/-- Reads the counts behind something. -/
def readRepeats (style : Style) : Nat → Expression → Drafting Expression
  | 0, inside => return inside
  | fuel + 1, inside => do
    let again (rest : List Char) (least : Nat) (most : Option Nat) : Drafting Expression := do
      goOn rest
      readRepeats style fuel (.repeated least most inside)
    match ← peek style with
    | some (.star, rest) => again rest 0 none
    | some (.plus, rest) => again rest 1 none
    | some (.optional, rest) => again rest 0 (some 1)
    | some (.count, rest) =>
      match ← readCount style rest with
      | some ((least, most), rest) => again rest least most
      | none => return inside
    | _ => return inside

mutual

/-- Reads the branches of a choice; how deep inside groups they are, is known. -/
def readBranches (style : Style) (depth : Nat) : Nat → Drafting Expression
  | 0 => return .nothing
  | fuel + 1 => do
    let first ← readBranch style depth fuel true .nothing
    match ← peek style with
    | some (.choice, rest) =>
      goOn rest
      return .either first (← readBranches style depth fuel)
    | _ => return first

/-- Reads what follows something in a branch. -/
def readBranch (style : Style) (depth : Nat) : Nat → Bool → Expression → Drafting Expression
  | 0, _, before => return before
  | fuel + 1, isFirst, before => do
    let add (part : Expression) : Drafting Expression :=
      readBranch style depth fuel false (.both before part)
    let literally (wanted : Char) : Drafting Expression := do
      add (← readRepeats style fuel (character style (· == wanted)))
    -- A sign for a repetition of nothing.
    let repeatNothing (wanted : Char) : Drafting Expression := do
      if !style.extended then literally wanted
      else if style.isStrict then throw "Invalid preceding regular expression"
      else readBranch style depth fuel isFirst before
    match ← peek style with
    | none | some (.choice, _) => return before
    | some (mark, rest) =>
      if mark = .closeGroup then
        if 0 < depth then return before
        if style.isStrict || !style.extended then throw "Unmatched ) or \\)"
      goOn rest
      match mark with
      | .letter wanted => literally wanted
      | .anyone =>
        add (← readRepeats style fuel (.one fun one => !style.isByLine || one ≠ '\n'))
      | .bracket =>
        let (expression, rest) ← readBracket style rest
        goOn rest
        add (← readRepeats style fuel expression)
      | .openGroup =>
        let unkept? : Option ((Expression → Expression) × List Char) :=
          match style.isRich, rest with
          | true, '?' :: ':' :: rest => some (id, rest)
          | true, '?' :: '=' :: rest => some (.ahead true, rest)
          | true, '?' :: '!' :: rest => some (.ahead false, rest)
          | _, _ => none
        if let some (wrap, rest) := unkept? then
          goOn rest
          let inside ← readBranches style (depth + 1) fuel
          match ← peek style with
          | some (.closeGroup, rest) =>
            goOn rest
            return ← add (← readRepeats style fuel (wrap inside))
          | _ => throw "Unmatched ( or \\("
        let number := (← get).groups + 1
        modify fun draft => { draft with groups := number }
        let inside ← readBranches style (depth + 1) fuel
        match ← peek style with
        | some (.closeGroup, rest) =>
          goOn rest
          add (← readRepeats style fuel (.group number inside))
        | _ => throw "Unmatched ( or \\("
      | .lineStart =>
        if style.extended || isFirst then
          readBranch style depth fuel isFirst (.both before (lineStart style))
        else literally '^'
      | .lineEnd =>
        if style.extended || isBranchEnd style rest then add (lineEnd style) else literally '$'
      | .escape letter =>
        if isPlace letter then add (escaped letter)
        else add (← readRepeats style fuel (escaped letter))
      | .reference number =>
        if (← get).groups < number then throw "Invalid back reference"
        add (← readRepeats style fuel (.again number))
      | .star => repeatNothing '*'
      | .plus => repeatNothing '+'
      | .optional => repeatNothing '?'
      | .count =>
        if style.isStrict then throw "Invalid preceding regular expression"
        -- Behind something a brace is a letter if no count follows it.
        else if style.extended && isFirst then readBranch style depth fuel isFirst before
        else literally '\x7b'
      | .closeGroup => literally ')'
      | .choice => return before

end

/-- The expression that is written in some style, and how many groups it has. -/
def read (style : Style) (written : String) : Except String (Expression × Nat) := do
  let draft := Draft.mk written.toList 0
  let (expression, draft) ← (readBranches style 0 (2 * written.length + 4)).run draft
  pure (expression, draft.groups)

/-- The expression of a text that stands for itself. -/
def literal (style : Style) (written : String) : Expression :=
  written.toList.foldl (fun before wanted =>
    .both before (character style (· == wanted))) .nothing

/-! ## Remarks on written expressions

Some expressions can be read and are still unlikely to be what was meant. A program may say so. -/

/-- What is between brackets, if there is neither a range nor a name in it, and what stands behind
them. The characters in front are known, from the last to the first. -/
def bracketBody : List Char → List Char → Option (List Char) × List Char
  | [], _ => (none, [])
  | '[' :: sign :: rest, body =>
    if sign = ':' || sign = '.' || sign = '=' then
      (none, ((rest.dropWhile (· ≠ ']')).drop 1).dropWhile (· ≠ ']') |>.drop 1)
    else bracketBody (sign :: rest) ('[' :: body)
  | ']' :: rest, body =>
    if body.isEmpty then bracketBody rest [']']
    else (some body.reverse, rest)
  | '-' :: rest, body =>
    if body.isEmpty || rest.head? = some ']' then bracketBody rest ('-' :: body)
    else
      let (_, rest) := bracketBody rest ('-' :: body)
      (none, rest)
  | member :: rest, body => bracketBody rest (member :: body)

/-- Whether brackets hold what should stand in two pairs of them: a name between colons. -/
def isBareName (body : List Char) : Bool :=
  body.head? = some ':' && body.getLast? = some ':' && body.any (· ≠ ':')

/-- Whether some brackets of an expression hold only a name, through so many marks. -/
def hasBareName (style : Style) : Nat → List Char → Bool
  | 0, _ => false
  | fuel + 1, characters =>
    match readMark style characters with
    | .ok (some (.bracket, rest)) =>
      let inside := if rest.head? = some '^' then rest.drop 1 else rest
      let (body?, rest) := bracketBody inside []
      body?.any isBareName || hasBareName style fuel rest
    | .ok (some (_, rest)) => hasBareName style fuel rest
    | _ => false

/-- The signs for repetitions with nothing in front that could be repeated, through so many marks.
Whether nothing stands in front is known. -/
def idleRepeats (style : Style) : Nat → Bool → List Char → List String
  | 0, _, _ => []
  | fuel + 1, isFirst, characters =>
    let idle (sign : String) (rest : List Char) : List String :=
      (if isFirst then [sign] else []) ++ idleRepeats style fuel isFirst rest
    match readMark style characters with
    | .error _ | .ok none => []
    | .ok (some (mark, rest)) =>
      match mark with
      | .star => idle "*" rest
      | .plus => idle "+" rest
      | .optional => idle "?" rest
      | .count =>
        match readCount style rest with
        | .ok (some (_, rest)) => idle "\x7b...\x7d" rest
        | _ => idleRepeats style fuel false rest
      | .lineStart => idleRepeats style fuel isFirst rest
      | .lineEnd => idleRepeats style fuel isFirst rest
      | .escape letter => idleRepeats style fuel (isFirst && isPlace letter) rest
      | .openGroup | .choice => idleRepeats style fuel true rest
      | .bracket =>
        let inside := if rest.head? = some '^' then rest.drop 1 else rest
        idleRepeats style fuel false (bracketBody inside []).2
      | .letter _ | .anyone | .closeGroup | .reference _ => idleRepeats style fuel false rest

/-- What is to be said about an expression: remarks, or a complaint. Repetitions of nothing have
their meaning in the extended style only. -/
def remarks (style : Style) (written : String) : Except String (List String) :=
  let characters := written.toList
  if hasBareName style characters.length characters then
    .error "character class syntax is [[:space:]], not [:space:]"
  else if style.extended then
    .ok ((idleRepeats style characters.length true characters).map fun sign =>
      sign ++ " at start of expression")
  else .ok []

end RpcEndpoint.Expression
