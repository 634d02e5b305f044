import RpcEndpoint.Process.Program.Basic
import RpcEndpoint.Process.Shell.Reader

/-!
# Sessions

What a shell knows while it carries out a script: its variables, arguments and functions, and what
it is about to do.
-/

namespace RpcEndpoint.Shell

/-- A variable. -/
structure Binding where
  name : String
  value : Option String
  exported : Bool
  readOnly : Bool
deriving Repr, DecidableEq

/-- What is to be left without carrying out the rest of it. -/
inductive Jump where
  /-- So many loops. -/
  | out (loops : Nat)
  /-- So many loops but the last, which goes on. -/
  | again (loops : Nat)
  /-- The function. -/
  | back
deriving Repr, DecidableEq

/-- How a command is to be carried out. -/
structure Manner where
  /-- Whether somebody looks at its outcome, so that a failure is no reason to end. -/
  tested : Bool
  /-- Whether nothing comes after it, so that the process may become its program. -/
  last : Bool
deriving Repr, DecidableEq

/-- How many places there are in which names are kept. -/
def buckets : Nat := 39

/-- Where a name is kept: names are listed in the order of these places. -/
def bucket (name : String) : Nat :=
  let first := (name.toList.head?.map Char.toNat).getD 0
  (name.toList.foldl (fun sum character => sum + character.toNat) (first * 16)) % buckets

/-- What a shell knows. -/
structure Session where
  /-- The name that it complains under. -/
  name : String
  arguments : List String
  bindings : List Binding
  functions : List (String × Command)
  /-- The texts that names of commands stand for. -/
  aliases : List (String × String)
  documents : List (Nat × Word)
  /-- The number of the next document. -/
  fresh : Nat
  /-- The outcome of the last command. -/
  status : Nat
  /-- The outcome of the last command whose output became part of a word. -/
  substituted : Nat
  line : Nat
  jump : Option Jump
  /-- How many loops are being carried out. -/
  loops : Nat
  /-- The variables to be restored, for each function that is being carried out. -/
  locals : List (List (String × Option Binding))
  options : List Char
  traps : List (Signal × String)
  /-- The process that was put aside last. -/
  aside : Option Nat
  number : Nat
  parent : Nat
  /-- Where the shell is. -/
  place : Place
  /-- The path that it takes this to be. -/
  path : String
  /-- The rights that are taken from new files. -/
  mask : Nat
  limits : Limits
  /-- The command of the shell itself that is being carried out. -/
  command : Option String
  /-- Whether a mistake in it is passed over even if it is a special one. -/
  lenient : Bool
  /-- The outcomes of processes that were put aside. -/
  ended : List (Nat × Nat)
  /-- How far the options of the arguments have been read within a word. -/
  optionOffset : Nat

/-- Carries out a command and goes on with what is known then. -/
abbrev Runner := Manner → Command → Session → (Session → Task) → Task

namespace Session

def has (option : Char) (session : Session) : Bool :=
  session.options.contains option

def withStatus (status : Nat) (session : Session) : Session :=
  { session with status }

/-! ## Variables -/

def binding? (name : String) (session : Session) : Option Binding :=
  session.bindings.find? fun binding => binding.name = name

def value? (name : String) (session : Session) : Option String :=
  (session.binding? name).bind Binding.value

/-- Puts a variable in the place of the one of the same name. -/
def setBinding (binding : Binding) (session : Session) : Session :=
  if (session.binding? binding.name).isSome then
    { session with
      bindings := session.bindings.map fun held =>
        if held.name = binding.name then binding else held }
  else { session with bindings := session.bindings ++ [binding] }

def removeBinding (name : String) (session : Session) : Session :=
  { session with bindings := session.bindings.filter fun held => held.name ≠ name }

/-- Gives a variable a value, unless it may not be changed. -/
def assign (name value : String) (session : Session) : Except String Session :=
  match session.binding? name with
  | some binding =>
    if binding.readOnly then .error (name ++ ": is read only")
    else .ok (session.setBinding { binding with
      value := some value
      exported := binding.exported || session.has 'a' })
  | none => .ok (session.setBinding ⟨name, some value, session.has 'a', false⟩)

/-- Gives a variable a value, whatever it is. -/
def set (name value : String) (session : Session) : Session :=
  match session.binding? name with
  | some binding => session.setBinding { binding with value := some value }
  | none => session.setBinding ⟨name, some value, false, false⟩

/-- The variables that programs get. -/
def environment (session : Session) : List (String × String) :=
  let exported := session.bindings.filter Binding.exported
  (List.range buckets).flatMap fun place =>
    (exported.filter fun binding => bucket binding.name = place).filterMap fun binding =>
      binding.value.map fun value => (binding.name, value)

def surroundings (session : Session) : Surroundings :=
  ⟨session.environment, session.place, session.mask, session.limits⟩

/-- The characters that separate fields. -/
def separators (session : Session) : String :=
  (session.value? "IFS").getD " \t\n"

/-- What stands between arguments that become one text. -/
def joint (session : Session) : String :=
  match session.value? "IFS" with
  | none => " "
  | some separators => (separators.take 1).toString

/-- The letters of the options that are set. -/
def flags (session : Session) : String :=
  String.ofList (['u', 'b', 'a', 'C', 'E', 'V', 'v', 'x', 's', 'n', 'm', 'i', 'I', 'f', 'e'].filter
    session.options.contains)

/-- The value of a parameter that is no list. -/
def parameter? (name : String) (session : Session) : Option String :=
  match name with
  | "?" => some (toString session.status)
  | "#" => some (toString session.arguments.length)
  | "$" => some (toString session.number)
  | "!" => session.aside.map toString
  | "-" => some session.flags
  | _ =>
    if name.toList.all Char.isDigit then
      match name.toNat? with
      | some 0 => some session.name
      | some (index + 1) => session.arguments[index]?
      | none => none
    else session.value? name

/-! ## Complaints -/

/-- How a complaint begins. -/
def title (session : Session) : String :=
  let command := match session.command with
    | some command => command ++ ": "
    | none => ""
  session.name ++ ": " ++ toString session.line ++ ": " ++ command

/-- Complains and goes on. -/
def complain (complaint : String) (session : Session) (next : Task) : Task :=
  Program.tell (session.title ++ complaint ++ "\n") next

/-! ## Scripts -/

/-- Carries out a script line by line, so many lines at the most. -/
def runLines (run : Runner) (last : Bool) (next : Session → Task) (abort : Session → Task) :
    Nat → Source → Session → Task
  | 0, _, session => next session
  | fuel + 1, source, session =>
    match Source.nextLine
        { source with fresh := session.fresh, aliases := session.aliases } with
    | .error blunder =>
      let session := { session with line := blunder.line }
      session.complain ("Syntax error: " ++ blunder.message) (abort (session.withStatus 2))
    | .ok (none, _) => next session
    | .ok (some command, rest) =>
      let known := { session with
        documents := rest.documents ++ session.documents
        fresh := rest.fresh }
      let isLast := last && rest.rest.isEmpty
      run ⟨false, isLast⟩ command known fun session =>
        if session.jump.isSome then next session
        else runLines run last next abort fuel { rest with documents := [] } session

end Session

/-- Carries out the text of a script. -/
def evaluate (run : Runner) (abort : Session → Task) (text : String) (session : Session)
    (next : Session → Task) : Task :=
  session.runLines run false next abort (text.length + 2) (.ofText text 1 session.fresh)

/-- Ends a shell. What was to be done at the end is done before. -/
def finish (run : Runner) (session : Session) : Task :=
  let ending (session : Session) : Task := .exitWith session.status
  match session.traps.lookup 0 with
  | some action =>
    let left := { session with
      traps := session.traps.filter fun trap => trap.1 ≠ 0
      command := none
      jump := none }
    evaluate run ending action left fun _ => ending session
  | none => ending session

/-- Complains and ends. -/
def abort (run : Runner) (complaint : String) (session : Session) : Task :=
  session.complain complaint (finish run (session.withStatus 2))

end RpcEndpoint.Shell
