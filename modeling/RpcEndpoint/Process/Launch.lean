import RpcEndpoint.Config
import RpcEndpoint.Process.Child.Work
import RpcEndpoint.Process.FileSystem
import RpcEndpoint.Process.Program.Table

/-!
# Launching a child

A configuration names a program, which is looked for among the files of the system. What is not
there is told from what is there and cannot be run.
-/

namespace RpcEndpoint.Launch

/-- Why a program cannot be run. -/
inductive Obstacle where
  /-- There is no such file or directory. -/
  | missing
  /-- The system refuses for another reason. -/
  | refused
deriving Repr, DecidableEq

def Obstacle.ofFault : SystemFault → Obstacle
  | .missing => .missing
  | _ => .refused

/-! ## What is handed to the system -/

/-- Whether a text can be handed to the system. -/
def isPlain (text : String) : Bool :=
  !text.contains (Char.ofNat 0)

/-- Whether all that is handed to the system can be. -/
def isSound (config : Config) : Bool :=
  isPlain config.command && config.arguments.all isPlain
    && (config.environment.getD []).all (fun held => isPlain held.1 && isPlain held.2)
    && isPlain (config.workingDirectory.getD "")

/-- A variable as a program sees it: its name goes up to the first sign of equality. -/
def variableOf (name value : String) : Option (String × String) :=
  match (Octets.ofText (name ++ "=" ++ value)).splitOn "=" with
  | name :: rest => some (name, "=".intercalate rest)
  | [] => none

/-- The environment of a parent that says nothing about it. -/
def inherited : List (String × String) :=
  [("HOME", "/root"), ("PATH", "/usr/local/sbin:/usr/local/bin:/usr/sbin:/usr/bin:/sbin:/bin")]

def environment (config : Config) : List (String × String) :=
  match config.environment with
  | some held => held.filterMap fun (name, value) => variableOf name value
  | none => inherited

/-- Where a parent is that says nothing about it. -/
def home : Place := ["root"]

/-- How many bytes an argument or a variable may have. -/
def argumentLimit : Nat := 131071

/-- How many bytes all of them may have, with the references to them. -/
def totalLimit : Nat := 2097152

/-- Whether the system takes arguments of such lengths. -/
def isBearable (lengths : List Nat) : Bool :=
  lengths.all (· ≤ argumentLimit) && (lengths.map (· + 9)).foldl (· + ·) 0 ≤ totalLimit

/-! ## Starting -/

/-- The place where a child is to be. -/
def directory (system : FileSystem) : Option String → Except SystemFault Place
  | some path => system.enter home (Octets.ofText path)
  | none => .ok home

/-- Looks for the program of a command. -/
def find (system : FileSystem) (surroundings : Surroundings) (command : String) :
    Except SystemFault String :=
  if command.isEmpty then .error .missing
  else if !command.contains '/' && FileSystem.nameLimit < command.length then .error .nameTooLong
  else
    let paths := Program.candidates command surroundings.environment
    system.search surroundings.directory paths .missing

/-- The program of a configuration in its surroundings, started at an instant. -/
def prepare (config : Config) (now : Instant) : Except Obstacle Child := do
  unless isSound config do throw .refused
  let system := FileSystem.standard
  let place ← (directory system config.workingDirectory).mapError .ofFault
  let surroundings : Surroundings := { environment := environment config, directory := place }
  let command := Octets.ofText config.command
  let program ← (find system surroundings command).mapError .ofFault
  let arguments := config.arguments.map Octets.ofText
  let lengths := (command :: arguments).map String.length
    ++ surroundings.environment.map fun held => held.1.length + held.2.length + 1
  unless isBearable lengths do throw .refused
  pure (.new Program.ofName (Program.ofName program command arguments surroundings) now)

/-- The child of a configuration that is started at an instant, or why there is none. -/
def child (config : Config) (now : Instant) : Except ProcessFailure Child :=
  (prepare config now).mapError fun
    | .missing => .binaryNotFound config.command
    | .refused => .spawnFailed ("failed to start " ++ config.command)

end RpcEndpoint.Launch
