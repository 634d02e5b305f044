import RpcEndpoint.Text.Bytes

/-!
# The syntax of scripts

A script is made of commands, and a command of words. A word is a row of parts, each of which stands
for a text once the script runs.
-/

namespace RpcEndpoint.Shell

/-- What is made of the value of a parameter. -/
inductive Use where
  | value
  | length
  /-- Another text if there is no value; with the flag, also if the value is empty. -/
  | instead (orEmpty : Bool)
  /-- The same, and the parameter gets that text as its value. -/
  | assigned (orEmpty : Bool)
  /-- Without a value the script ends with a complaint. -/
  | required (orEmpty : Bool)
  /-- Another text if there is a value. -/
  | replaced (orEmpty : Bool)
  /-- The value without what a pattern matches at its beginning. -/
  | withoutBeginning (longest : Bool)
  /-- The value without what a pattern matches at its end. -/
  | withoutEnd (longest : Bool)
  /-- Nothing that makes sense. -/
  | senseless
deriving Repr, DecidableEq

/-- What a redirection opens. -/
inductive Direction where
  | fromFile
  | toFile
  | toFileAnyway
  | toEnd
  | bothWays
  /-- The file of another number, or none. -/
  | toNumber
deriving Repr, DecidableEq

mutual

/-- A part of a word. What is quoted is neither split nor a pattern. -/
inductive Part where
  | text (text : String) (quoted : Bool)
  | parameter (name : String) (use : Use) (operand : List Part) (quoted : Bool)
  | commands (body : Command) (quoted : Bool)
  | arithmetic (expression : List Part)

/-- A change of the open files for the time of a command. -/
inductive Redirection where
  | file (number : Nat) (direction : Direction) (target : List Part)
  /-- The content of a document in the script, which is known by its number. -/
  | document (number : Nat) (document : Nat)

inductive Command where
  | nothing
  | simple (line : Nat) (assignments : List (String × List Part)) (words : List (List Part))
      (redirections : List Redirection)
  | pipeline (stages : List Command)
  | negated (command : Command)
  | both (first second : Command)
  | either (first second : Command)
  | sequence (first second : Command)
  | background (command : Command)
  | subshell (line : Nat) (body : Command)
  | redirected (line : Nat) (body : Command) (redirections : List Redirection)
  | choice (condition chosen otherwise : Command)
  /-- The body again and again, while the condition fails or while it does not. -/
  | loop (onFailure : Bool) (condition body : Command)
  /-- The body for each of some words, or for each argument. -/
  | each (line : Nat) (name : String) (words : Option (List (List Part))) (body : Command)
  | select (line : Nat) (word : List Part) (branches : List (List (List Part) × Command))
  | function (line : Nat) (name : String) (body : Command)

end

/-- A word of a script. -/
abbrev Word := List Part

instance : Inhabited Command := ⟨.nothing⟩

/-- A word that is one text without any quotes. -/
def plain? : Word → Option String
  | [.text text false] => some text
  | _ => none

/-! ## Names -/

def isNameStart (character : Char) : Bool :=
  character.isAlpha || character = '_'

def isNameCharacter (character : Char) : Bool :=
  character.isAlphanum || character = '_'

/-- Whether a text can be the name of a variable. -/
def isName (text : String) : Bool :=
  (text.toList.head?.any isNameStart) && text.toList.all isNameCharacter

/-- A word that begins with a name and a sign of equality, as an assignment. -/
def assignment? : Word → Option (String × Word)
  | .text text false :: rest =>
    match text.splitOn "=" with
    | name :: second :: more =>
      if isName name then
        let value := "=".intercalate (second :: more)
        some (name, if value.isEmpty then rest else .text value false :: rest)
      else none
    | _ => none
  | _ => none

end RpcEndpoint.Shell
