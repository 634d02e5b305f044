import RpcEndpoint.Duration
import RpcEndpoint.Json.Interpretation

/-!
# Configuration

How to start a server process and how long to wait for it.
-/

namespace RpcEndpoint

open Json

/-- The configuration of a server process. -/
structure Config where
  command : String
  arguments : List String
  /-- The whole environment of the process, or none to take over that of its parent; in ascending
  order of the names. -/
  environment : Option (List (String × String))
  workingDirectory : Option String
  /-- How many milliseconds the process has to leave on its own before it is killed. -/
  graceMilliseconds : Nat
  /-- How many milliseconds a request may take that names no limit itself. -/
  timeoutMilliseconds : Option Nat
deriving Repr, DecidableEq

namespace Config

/-- The grace where nothing else is said, in milliseconds. -/
def standardGrace : Nat := 200

/-- A command without arguments. -/
def new (command : String) : Config :=
  ⟨command, [], none, none, standardGrace, none⟩

def withArguments (config : Config) (arguments : List String) : Config :=
  { config with arguments }

/-- Puts a variable in its place among those in ascending order of their names. -/
def insertVariable (name value : String) : List (String × String) → List (String × String)
  | [] => [(name, value)]
  | (other, held) :: rest =>
    if name < other then (name, value) :: (other, held) :: rest
    else if name = other then (name, value) :: rest
    else (other, held) :: insertVariable name value rest

/-- Sets a variable of the environment, which is then no longer that of the parent. -/
def withVariable (config : Config) (name value : String) : Config :=
  { config with environment := some (insertVariable name value (config.environment.getD [])) }

def withWorkingDirectory (config : Config) (directory : String) : Config :=
  { config with workingDirectory := some directory }

def withGrace (config : Config) (grace : Duration) : Config :=
  { config with graceMilliseconds := grace.saturatedMilliseconds }

def withTimeout (config : Config) (timeout : Duration) : Config :=
  { config with timeoutMilliseconds := some timeout.saturatedMilliseconds }

def grace (config : Config) : Duration :=
  .ofMilliseconds config.graceMilliseconds

/-- The limit for requests that name none. -/
def timeout (config : Config) : Option Duration :=
  config.timeoutMilliseconds.map .ofMilliseconds

/-! ## The JSON form -/

def schema : Schema :=
  .record "ServerConfig"
    [.needed "command" (.text "path string"),
      .withStandard "args" (.list .string) (.array []),
      .omittable "env" (.map .string),
      .omittable "working_dir" (.text "path string"),
      .withStandard "shutdown_grace_ms" .word64 (.ofInt64 (.ofNat standardGrace)),
      .omittable "request_timeout_ms" .word64]

def environment? : Value → Option (List (String × String))
  | .object members => members.mapM fun member => do pure (member.1, ← member.2.string?)
  | _ => none

def ofValue? (value : Value) : Option Config := do
  let command ← (← value.get? "command").string?
  let arguments ← (← value.get? "args").strings?
  let grace ← (← value.get? "shutdown_grace_ms").integer?
  pure
    { command
      arguments
      environment := (value.get? "env").bind environment?
      workingDirectory := (value.get? "working_dir").bind Value.string?
      graceMilliseconds := grace.toNat
      timeoutMilliseconds := ((value.get? "request_timeout_ms").bind Value.integer?).map Int.toNat }

instance : Interpretation Config := ⟨schema, ofValue?⟩

end Config

end RpcEndpoint
