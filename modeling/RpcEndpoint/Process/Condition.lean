import RpcEndpoint.Process.Printf
import RpcEndpoint.Process.Task

/-!
# Conditions

The expressions of the `test` command: texts, numbers and files, joined by signs. With few arguments
their number decides what they mean.
-/

namespace RpcEndpoint.Condition

/-- A sign and how many operands it has. -/
inductive Sign where
  | unary
  | binary
  | negation
  | conjunction
  | disjunction
  | opening
  | closing
deriving Repr, DecidableEq

/-- The signs that ask for a file. -/
def fileSigns : List String :=
  ["-b", "-c", "-d", "-e", "-f", "-g", "-h", "-k", "-p", "-r", "-s", "-u", "-w", "-x", "-L", "-O",
    "-G", "-S"]

def binarySigns : List String :=
  ["=", "==", "!=", "<", ">", "-eq", "-ne", "-ge", "-gt", "-le", "-lt", "-nt", "-ot", "-ef"]

def sign? (word : String) : Option Sign :=
  if fileSigns.contains word || ["-z", "-n", "-t"].contains word then some .unary
  else if binarySigns.contains word && word ≠ "==" then some .binary
  else
    match word with
    | "!" => some .negation
    | "-a" => some .conjunction
    | "-o" => some .disjunction
    | "(" => some .opening
    | ")" => some .closing
    | _ => none

/-- What is known of a file: what its path leads to, and whether that path names a link. -/
structure Finding where
  target : Called (Place × Node)
  isLink : Bool

/-- What is known of files by their paths. -/
abbrev Files := String → Finding

/-- Words that are being read: those that are left. -/
abbrev Reading := StateT (List String) (Except String)

/-- How a word counts that stands before others. -/
def classify : List String → Option Sign
  | [] => none
  | word :: rest =>
    match sign? word with
    | some .unary =>
      -- A sign with nothing behind it, or with one between two operands, is an operand.
      match rest with
      | [] => none
      | second :: third :: _ =>
        if sign? second = some .binary && third ≠ ")" then none else some .unary
      | [_] => some .unary
    | some .opening => if rest.isEmpty then none else some .opening
    | sign => sign

/-- The number that an operand must be. -/
def number (word : String) : Except String Int :=
  let visible := word.trimAscii.toString
  let digits := if visible.startsWith "-" || visible.startsWith "+" then visible.drop 1 |>.toString
    else visible
  match digits.toNat? with
  | some value =>
    if digits.toList.all Char.isDigit && value ≤ 0x7FFFFFFFFFFFFFFF then
      .ok (if visible.startsWith "-" then -(value : Int) else value)
    else .error ("Illegal number: " ++ word)
  | none => .error ("Illegal number: " ++ word)

/-- Whether a node is what a sign asks for. -/
def holdsOfNode (sign : String) (node : Node) : Bool :=
  match sign, node with
  | "-d", .directory => true
  | "-f", .plain _ | "-f", .program _ => true
  | "-p", .device (.opened _) => true
  | "-c", .device (.opened _) => false
  | "-c", .device _ => true
  | "-s", .plain content => !content.isEmpty
  | "-s", .program _ | "-s", .directory => true
  | "-x", .program _ | "-x", .directory => true
  | sign, _ => ["-e", "-r", "-w", "-O", "-G"].contains sign

/-- Whether a file is what a sign asks for. -/
def holdsOfFile (files : Files) (sign path : String) : Bool :=
  if sign = "-h" || sign = "-L" then (files path).isLink
  else
    match (files path).target with
    | .error _ => false
    | .ok (_, node) => holdsOfNode sign node

/-- Whether a sign with one operand holds. -/
def unary (files : Files) (sign operand : String) : Except String Bool :=
  match sign with
  | "-z" => .ok operand.isEmpty
  | "-n" => .ok !operand.isEmpty
  | "-t" => do
    let _ ← number operand
    pure false
  | _ => .ok (holdsOfFile files sign operand)

/-- Whether a sign between two operands holds. -/
def binary (files : Files) (sign left right : String) : Except String Bool :=
  let compare (holds : Int → Int → Bool) : Except String Bool := do
    let left ← number left
    let right ← number right
    pure (holds left right)
  match sign with
  | "=" => .ok (left = right)
  | "!=" => .ok (left ≠ right)
  | "<" => .ok (left < right)
  | ">" => .ok (right < left)
  | "-eq" => compare (· = ·)
  | "-ne" => compare (· ≠ ·)
  | "-ge" => compare (· ≥ ·)
  | "-gt" => compare (· > ·)
  | "-le" => compare (· ≤ ·)
  | "-lt" => compare (· < ·)
  | "-ef" =>
    .ok (match (files left).target, (files right).target with
      | .ok (first, _), .ok (second, _) => first = second
      | _, _ => false)
  | _ => .ok false

/-- Which part of an expression is read. -/
inductive Stage where
  | disjunction
  | conjunction
  | negation
  | single

/-- Takes the next word. -/
def take : Reading String := do
  match ← get with
  | word :: rest =>
    set rest
    return word
  | [] => throw "argument expected"

/-- Reads an expression. The sign is that of the first word. -/
def read (files : Files) : Nat → Stage → Option Sign → Reading Bool
  | 0, _, _ => return false
  | fuel + 1, .disjunction, first => do
    let left ← read files fuel .conjunction first
    if classify (← get) = some .disjunction then
      let _ ← take
      let right ← read files fuel .disjunction (classify (← get))
      return left || right
    return left
  | fuel + 1, .conjunction, first => do
    let left ← read files fuel .negation first
    if classify (← get) = some .conjunction then
      let _ ← take
      let right ← read files fuel .conjunction (classify (← get))
      return left && right
    return left
  | fuel + 1, .negation, first => do
    if first = some .negation then
      let _ ← take
      return !(← read files fuel .negation (classify (← get)))
    read files fuel .single first
  | fuel + 1, .single, first => do
    match ← get, first with
    | [], _ => return false
    | _ :: rest, some .opening =>
      set rest
      if classify rest = some .closing then
        let _ ← take
        return false
      let inside ← read files fuel .disjunction (classify rest)
      match ← get with
      | ")" :: rest =>
        set rest
        return inside
      | _ => throw "closing paren expected"
    | sign :: rest, some .unary =>
      match rest with
      | operand :: rest =>
        set rest
        unary files sign operand
      | [] => throw (sign ++ ": argument expected")
    | left :: rest, _ =>
      set rest
      match rest with
      | sign :: after =>
        if classify rest = some .binary then
          match after with
          | right :: after =>
            set after
            binary files sign left right
          | [] => throw (sign ++ ": argument expected")
        else return !left.isEmpty
      | [] => return !left.isEmpty

/-- The arguments without the parentheses around all of them, and the sign of the first one. -/
def prepare (words : List String) : List String × Option Sign :=
  let inside := (words.drop 1).dropLast
  let isEnclosed := words.head? = some "(" && words.getLast? = some ")"
  match words with
  | [_, second, _] =>
    if sign? second = some .binary then (words, none)
    else if isEnclosed then (inside, classify inside)
    else if words.head? = some "!" then (words, some .negation)
    else (words, classify words)
  | [_, _, _, _] =>
    if isEnclosed then (inside, classify inside)
    else if words.head? = some "!" then (words, some .negation)
    else (words, classify words)
  | _ => (words, classify words)

/-- Whether an expression holds. -/
def holds (files : Files) (words : List String) : Except String Bool :=
  if words.isEmpty then .ok false
  else
    let (words, first) := prepare words
    match (read files (4 * words.length + 8) .disjunction first).run words with
    | .error complaint => .error complaint
    | .ok (outcome, []) => .ok outcome
    | .ok (_, left) =>
      let held := words.drop (words.length - left.length - 1)
      .error ((held.headD "") ++ ": unexpected operator")

/-- Looks up paths one after another. -/
def lookAll (base : Place) (next : Files → Task) : List String → Files → Task
  | [], files => next files
  | path :: rest, files =>
    .look base path fun target =>
      .lookForLink base path fun isLink =>
        lookAll base next rest fun asked =>
          if asked = path then ⟨target, isLink⟩ else files asked

/-- Finds out whether an expression holds. Files are looked at if it may ask for them. -/
def decide (base : Place) (words : List String) (next : Except String Bool → Task) : Task :=
  let asks := words.any fun word => fileSigns.contains word || word = "-ef"
  lookAll base (fun files => next (holds files words)) (if asks then words else [])
    fun _ => ⟨.error .missing, false⟩

end RpcEndpoint.Condition
