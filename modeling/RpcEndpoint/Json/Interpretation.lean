import RpcEndpoint.Json.Schema.OfText

/-!
# Values as data

A type of data that has a JSON form gives the schema of that form and what a value of the schema
stands for. Such data are then read from values and from text alike.
-/

namespace RpcEndpoint.Json

namespace Value

/-- The member of an object. -/
def get? (value : Value) (name : String) : Option Value :=
  match value with
  | .object members => member? name members
  | _ => none

def string? : Value → Option String
  | .string text => some text
  | _ => none

def integer? : Value → Option Int
  | .number (.integer whole) => some whole.value
  | _ => none

def strings? : Value → Option (List String)
  | .array items => items.mapM string?
  | _ => none

end Value

/-- Data with a JSON form. -/
class Interpretation (α : Type) where
  schema : Schema
  ofValue? : Value → Option α

namespace Interpretation

variable {α : Type} [Interpretation α]

/-- What a value that a schema has passed stands for. -/
def interpret (value : Value) : Except Fault α :=
  match ofValue? value with
  | some data => .ok data
  | none => .error (Mismatch.refused "the value stands for nothing").fault

/-- Data from a value. -/
def decode (value : Value) : Except Fault α := do
  interpret (← (schema α).decode value)

/-- Data from text. -/
def parse (bytes : Bytes) : Except Fault α := do
  interpret (← (schema α).parse bytes)

end Interpretation

end RpcEndpoint.Json
