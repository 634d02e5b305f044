import RpcEndpoint.Process.Expression.Reader
import RpcEndpoint.Process.Program.Basic

/-!
# Evaluating formulas

A formula stands in the arguments of a call, each sign of it in one. Its parts are texts, some of
which are whole numbers.
-/

namespace RpcEndpoint.Program

/-- A formula. -/
inductive Formula where
  | constant (text : String)
  | binary (sign : String) (left right : Formula)
  | lengthOf (text : Formula)
  | indexOf (text characters : Formula)
  | partOf (text first length : Formula)

namespace Formula

/-! ## Reading -/

/-- What is left of the arguments, and the one that was read last. -/
structure Draft where
  rest : List String
  last : String

abbrev Drafting := StateT Draft (Except String)

/-- Takes an argument, or complains that there is none. -/
def take : Drafting String := do
  match (← get).rest with
  | word :: rest =>
    set (⟨rest, word⟩ : Draft)
    return word
  | [] => throw ("syntax error: missing argument after '" ++ (← get).last ++ "'")

/-- The signs that stand between two formulas, those that bind least first. -/
def signs : List (List String) :=
  [["|"], ["&"], ["<", "<=", "=", "==", "!=", ">=", ">"], ["+", "-"], ["*", "/", "%"], [":"]]

mutual

/-- Reads a formula in which only signs of some levels stand outside of parentheses. -/
def readLevel : Nat → List (List String) → Drafting Formula
  | 0, _ => throw "nested too deeply"
  | fuel + 1, [] => readSimple fuel
  | fuel + 1, level :: levels => do
    let first ← readLevel fuel levels
    readFurther fuel level levels first

/-- Reads what signs of a level connect with a formula. -/
def readFurther : Nat → List String → List (List String) → Formula → Drafting Formula
  | 0, _, _, before => return before
  | fuel + 1, level, levels, before => do
    match (← get).rest with
    | sign :: _ =>
      if !level.contains sign then return before
      let _ ← take
      let second ← readLevel fuel levels
      readFurther fuel level levels (.binary sign before second)
    | [] => return before

/-- Reads a formula without signs between its parts. -/
def readSimple : Nat → Drafting Formula
  | 0 => throw "nested too deeply"
  | fuel + 1 => do
    match ← take with
    | "+" => return .constant (← take)
    | "(" =>
      let inside ← readLevel fuel signs
      let draft ← get
      match draft.rest with
      | ")" :: _ =>
        let _ ← take
        return inside
      | found :: _ =>
        throw ("syntax error: expecting ')' instead of '" ++ found ++ "'")
      | [] => throw ("syntax error: expecting ')' after '" ++ draft.last ++ "'")
    | ")" => throw "syntax error: unexpected ')'"
    | "length" => return .lengthOf (← readSimple fuel)
    | "match" =>
      let text ← readSimple fuel
      return .binary ":" text (← readSimple fuel)
    | "index" =>
      let text ← readSimple fuel
      return .indexOf text (← readSimple fuel)
    | "substr" =>
      let text ← readSimple fuel
      let first ← readSimple fuel
      return .partOf text first (← readSimple fuel)
    | word => return .constant word

end

/-- The formula of some arguments. -/
def read (arguments : List String) : Except String Formula := do
  let draft := Draft.mk arguments ""
  let (formula, draft) ← (readLevel (12 * arguments.length + 12) signs).run draft
  match draft.rest with
  | [] => pure formula
  | extra :: _ => .error ("syntax error: unexpected argument '" ++ extra ++ "'")

/-! ## Evaluation -/

/-- The number that a text is. -/
def number? (text : String) : Option Int :=
  match text.toList with
  | '-' :: digits =>
    if digits.all Char.isDigit then (String.ofList digits).toNat?.map fun number => -(number : Int)
    else none
  | digits => if digits.all Char.isDigit then text.toNat?.map Int.ofNat else none

/-- Whether a text counts as nothing. -/
def isNothing (text : String) : Bool :=
  text.isEmpty || number? text = some 0

/-- A truth value as a text. -/
def truth (holds : Bool) : String := if holds then "1" else "0"

/-- Whether a comparison holds. -/
def compared (sign : String) (order : Ordering) : Bool :=
  match sign with
  | "<" => order.isLT
  | "<=" => order.isLE
  | ">" => order.isGT
  | ">=" => order.isGE
  | "!=" => order.isNe
  | _ => order.isEq

/-- What an expression finds at the beginning of a text: its first group, or how long it is. -/
def found (text pattern : String) : Except String String := do
  let (expression, groups) ← Expression.read {} pattern
  let found? := Expression.search (.both .beginning expression) text.toList 0
  pure (match found? with
    | some found =>
      if groups = 0 then toString found.text.length else String.ofList (found.group 1)
    | none => if groups = 0 then "0" else "")

/-- The value of a sign between two values. -/
def apply (sign left right : String) : Except String String := do
  let numbers (operate : Int → Int → Except String Int) : Except String String :=
    match number? left, number? right with
    | some left, some right => (operate left right).map toString
    | _, _ => .error "non-integer argument"
  let nonzero (operate : Int → Int → Int) (left right : Int) : Except String Int :=
    if right = 0 then .error "division by zero" else .ok (operate left right)
  match sign with
  | "+" => numbers fun left right => pure (left + right)
  | "-" => numbers fun left right => pure (left - right)
  | "*" => numbers fun left right => pure (left * right)
  | "/" => numbers (nonzero Int.tdiv)
  | "%" => numbers (nonzero Int.tmod)
  | ":" => found left right
  | "&" => pure (if isNothing left || isNothing right then "0" else left)
  | _ =>
    let order := match number? left, number? right with
      | some left, some right => compare left right
      | _, _ => compare left right
    pure (truth (compared sign order))

/-- The value of a formula. The second part of a choice counts only if the first one is nothing. -/
def value : Formula → Except String String
  | .constant text => .ok text
  | .binary sign left right => do
    let first ← left.value
    if sign = "|" then
      if isNothing first then
        let second ← right.value
        pure (if isNothing second then "0" else second)
      else pure first
    else if sign = "&" && isNothing first then pure "0"
    else apply sign first (← right.value)
  | .lengthOf text => do
    pure (toString (← text.value).length)
  | .indexOf text characters => do
    let wanted := (← characters.value).toList
    match (← text.value).toList.findIdx? wanted.contains with
    | some index => pure (toString (index + 1))
    | none => pure "0"
  | .partOf text first length => do
    let characters := (← text.value).toList
    match number? (← first.value), number? (← length.value) with
    | some first, some length =>
      pure (if first ≤ 0 || length ≤ 0 then ""
        else String.ofList ((characters.drop (first.toNat - 1)).take length.toNat))
    | _, _ => pure ""

end Formula

/-- Evaluates a formula; the code tells whether its value is nothing. -/
def expr : Program := fun name arguments _ =>
  let words := if arguments.head? = some "--" then arguments.drop 1 else arguments
  if words.isEmpty then fail name ("missing operand" ++ advice name) 2
  else
    match Formula.read words >>= Formula.value with
    | .error complaint => fail name complaint 2
    | .ok value => putAndExit name (value ++ "\n") (if Formula.isNothing value then 1 else 0)

end RpcEndpoint.Program
