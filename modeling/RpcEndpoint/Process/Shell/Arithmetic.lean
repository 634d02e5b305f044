import RpcEndpoint.Process.Printf
import RpcEndpoint.Process.Shell.Session

/-!
# Arithmetic

Expressions of whole numbers in one signed machine word. A part that does not count, because of what
stands before it, is read but neither divided nor assigned.
-/

namespace RpcEndpoint.Shell.Arithmetic

/-! ## Machine words -/

def wordSize : Int := 0x10000000000000000

/-- The signed word that a number leaves. -/
def wrap (value : Int) : Int :=
  Int.bmod value 0x10000000000000000

/-- The word without its sign. -/
def unsigned (value : Int) : Nat :=
  (value % wordSize).toNat

/-- The signed word of the bits of a number. -/
def ofBits (bits : Nat) : Int :=
  wrap bits

/-- How far a word is shifted. -/
def distance (value : Int) : Nat :=
  (value % 64).toNat

/-! ## Tokens -/

/-- The smallest units of expressions. -/
inductive Lexeme where
  | number (value : Int)
  | name (name : String)
  | sign (text : String)
  | nonsense
deriving Repr, DecidableEq

/-- The signs; those that consist of more characters come first. -/
def signs : List String :=
  ["<<=", ">>=", "&&", "||", "==", "!=", "<=", ">=", "<<", ">>", "+=", "-=", "*=", "/=", "%=", "&=",
    "^=", "|=", "=", "<", ">", "+", "-", "*", "/", "%", "&", "|", "^", "!", "~", "?", ":", "(", ")"]

/-- Divides an expression into its smallest units, so many at the most. -/
def lexemes : Nat → List Char → List Lexeme
  | 0, _ | _, [] => []
  | fuel + 1, character :: rest =>
    if [' ', '\t', '\n'].contains character then lexemes fuel rest
    else if character.isDigit then
      match Numeral.readMagnitude (character :: rest) with
      | some (value, rest) =>
        .number (min (value : Int) Printf.greatestSigned) :: lexemes fuel rest
      | none => [.nonsense]
    else if isNameStart character then
      let name := (character :: rest).takeWhile isNameCharacter
      .name (String.ofList name) :: lexemes fuel ((character :: rest).drop name.length)
    else
      match signs.find? fun sign => sign.toList.isPrefixOf (character :: rest) with
      | some sign => .sign sign :: lexemes fuel ((character :: rest).drop sign.length)
      | none => [.nonsense]

/-! ## Evaluation -/

/-- Why there is no value. -/
inductive Failure where
  /-- With the whole expression behind it. -/
  | expression (complaint : String)
  | other (complaint : String)
deriving Repr, DecidableEq

/-- What is left of an expression, and the variables. -/
structure Evaluation where
  rest : List Lexeme
  session : Session

abbrev Evaluating := StateT Evaluation (Except Failure)

def refuse {α : Type} (complaint : String) : Evaluating α :=
  throw (.expression complaint)

/-- Takes a sign if it is one of these. -/
def accept (wanted : List String) : Evaluating (Option String) := do
  let state ← get
  match state.rest with
  | .sign sign :: rest =>
    if wanted.contains sign then
      set { state with rest }
      return some sign
    return none
  | _ => return none

def expect (wanted : String) : Evaluating Unit := do
  match ← accept [wanted] with
  | some _ => return
  | none => refuse ("expecting '" ++ wanted ++ "'")

/-- The number that a text is. -/
def integer? (text : String) : Option Int :=
  let visible := text.trimAscii.toString
  if visible.isEmpty then some 0
  else
    match Numeral.readNumber visible with
    | .whole value => some (Printf.clampSigned value)
    | _ => none

/-- The number that a variable holds. -/
def valueOf (name : String) : Evaluating Int := do
  let session := (← get).session
  match session.parameter? name with
  | none =>
    if session.has 'u' then throw (.other (name ++ ": parameter not set"))
    return 0
  | some text =>
    match integer? text with
    | some value => return value
    | none => throw (.other ("Illegal number: " ++ text))

/-- The outcome of a sign between two numbers. -/
def combine (sign : String) (left right : Int) : Evaluating Int := do
  let truth (holds : Bool) : Int := if holds then 1 else 0
  match sign with
  | "+" => return wrap (left + right)
  | "-" => return wrap (left - right)
  | "*" => return wrap (left * right)
  | "/" => if right = 0 then refuse "division by zero" else return wrap (left.tdiv right)
  | "%" => if right = 0 then refuse "division by zero" else return wrap (left.tmod right)
  | "<<" => return ofBits (unsigned left <<< distance right)
  | ">>" => return left >>> distance right
  | "<" => return truth (left < right)
  | ">" => return truth (left > right)
  | "<=" => return truth (left ≤ right)
  | ">=" => return truth (left ≥ right)
  | "==" => return truth (left = right)
  | "!=" => return truth (left ≠ right)
  | "&" => return ofBits (unsigned left &&& unsigned right)
  | "^" => return ofBits (unsigned left ^^^ unsigned right)
  | _ => return ofBits (unsigned left ||| unsigned right)

/-- The signs between two numbers, from those that bind least. -/
def levels : List (List String) :=
  [["|"], ["^"], ["&"], ["==", "!="], ["<", ">", "<=", ">="], ["<<", ">>"], ["+", "-"],
    ["*", "/", "%"]]

/-- The signs that change a variable. -/
def changes : List String :=
  ["=", "+=", "-=", "*=", "/=", "%=", "&=", "^=", "|=", "<<=", ">>="]

/-- Goes on with further operands behind signs of one level, so many at the most. -/
def chain (operand : Evaluating Int) (counts : Bool) (signs : List String) :
    Nat → Int → Evaluating Int
  | 0, left => return left
  | fuel + 1, left => do
    match ← accept signs with
    | none => return left
    | some sign =>
      let right ← operand
      chain operand counts signs fuel (← if counts then combine sign left right else pure left)

/-- How far the evaluation has come down to what binds most. -/
inductive Stage where
  | assignment
  | condition
  | disjunction
  | conjunction
  | between (signs : List String) (tighter : List (List String))
  | single

/-- What binds more than the signs of some levels. -/
def Stage.ofLevels : List (List String) → Stage
  | [] => .single
  | signs :: tighter => .between signs tighter

/-- Evaluates what comes next. A part that does not count has no effect. -/
def evaluate : Nat → Bool → Stage → Evaluating Int
  | 0, _, _ => refuse "expecting primary"
  | fuel + 1, counts, stage =>
    match stage with
    | .assignment => do
      let state ← get
      match state.rest with
      | .name name :: .sign sign :: rest =>
        if changes.contains sign then
          set { state with rest }
          let right ← evaluate fuel counts .assignment
          if !counts then return right
          let value ←
            if sign = "=" then pure right
            else combine (sign.dropEnd 1).toString (← valueOf name) right
          let session := (← get).session
          match session.assign name (toString value) with
          | .ok session =>
            modify fun state => { state with session }
            return value
          | .error complaint => throw (.other complaint)
        else evaluate fuel counts .condition
      | _ => evaluate fuel counts .condition
    | .condition => do
      let test ← evaluate fuel counts .disjunction
      match ← accept ["?"] with
      | none => return test
      | some _ =>
        let chosen ← evaluate fuel (counts && test ≠ 0) .assignment
        expect ":"
        let otherwise ← evaluate fuel (counts && test = 0) .condition
        return if test ≠ 0 then chosen else otherwise
    | .disjunction => do
      let left ← evaluate fuel counts .conjunction
      match ← accept ["||"] with
      | none => return left
      | some _ =>
        let right ← evaluate fuel (counts && left = 0) .disjunction
        return if left ≠ 0 || right ≠ 0 then 1 else 0
    | .conjunction => do
      let left ← evaluate fuel counts (.ofLevels levels)
      match ← accept ["&&"] with
      | none => return left
      | some _ =>
        let right ← evaluate fuel (counts && left ≠ 0) .conjunction
        return if left ≠ 0 && right ≠ 0 then 1 else 0
    | .between signs tighter => do
      let operand := evaluate fuel counts (.ofLevels tighter)
      let first ← operand
      chain operand counts signs ((← get).rest.length + 1) first
    | .single => do
      let state ← get
      match state.rest with
      | .number value :: rest =>
        set { state with rest }
        return value
      | .name name :: rest =>
        set { state with rest }
        if counts then valueOf name else return 0
      | .sign "(" :: rest =>
        set { state with rest }
        let value ← evaluate fuel counts .assignment
        expect ")"
        return value
      | .sign "!" :: rest =>
        set { state with rest }
        return if (← evaluate fuel counts .single) = 0 then 1 else 0
      | .sign "~" :: rest =>
        set { state with rest }
        return wrap (-1 - (← evaluate fuel counts .single))
      | .sign "-" :: rest =>
        set { state with rest }
        return wrap (-(← evaluate fuel counts .single))
      | .sign "+" :: rest =>
        set { state with rest }
        evaluate fuel counts .single
      | _ => refuse "expecting primary"

/-- The value of a whole expression, and what is known then. -/
def value (expression : String) (session : Session) : Except String (Int × Session) :=
  let rest := lexemes (expression.length + 1) expression.toList
  let reading : Evaluating Int := do
    let value ← evaluate (16 * rest.length + 32) true .assignment
    match (← get).rest with
    | [] => return value
    | _ => refuse "expecting EOF"
  match reading.run ⟨rest, session⟩ with
  | .ok (value, state) => .ok (value, state.session)
  | .error (.other complaint) => .error complaint
  | .error (.expression complaint) =>
    .error ("arithmetic expression: " ++ complaint ++ ": \"" ++ expression ++ "\"")

end RpcEndpoint.Shell.Arithmetic
