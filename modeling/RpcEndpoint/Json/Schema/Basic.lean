import RpcEndpoint.Json.Fault

/-!
# Shapes of values

A schema describes the values that a caller is ready to take. Reading by a schema normalizes: a
record has its fields in the order of their declaration, without the optional ones that are absent
or null, and an integer read as a float is a float.
-/

namespace RpcEndpoint.Json

/-- What the absence of a field means. -/
inductive Absence where
  /-- The field is needed. -/
  | refused
  /-- An object may leave the field out, an array may not. -/
  | allowedInObject
  /-- Both forms may leave the field out; it then has this value, if any. -/
  | allowed (standard : Option Value)
deriving Repr

mutual

/-- The shape of a value. -/
inductive Schema where
  | any
  | unit
  | bool
  /-- An integer between two bounds, both included, under the name of its type. -/
  | integer (name : String) (least greatest : Int)
  | float
  /-- A string, in the words by which it is asked for. -/
  | text (expected : String)
  | list (item : Schema)
  /-- An object used as a map from names to values of one shape. -/
  | map (value : Schema)
  | optional (inner : Schema)
  | pair (first second : Schema)
  /-- An object with named fields, or the array of their values in order. -/
  | record (name : String) (fields : List Field)
  /-- An object that holds the fields of several records side by side. -/
  | merged (name : String) (groups : List (List Field))
  /-- One of several names. -/
  | variant (names : List String)
  /-- The first alternative that fits. -/
  | choice (name : String) (alternatives : List Schema)

/-- A named field of a record. -/
inductive Field where
  | mk (name : String) (schema : Schema) (absence : Absence)

end

instance : Inhabited Schema := ⟨.any⟩

namespace Field

def name : Field → String
  | .mk name _ _ => name

def schema : Field → Schema
  | .mk _ schema _ => schema

def absence : Field → Absence
  | .mk _ _ absence => absence

/-- A field that must be present. -/
def needed (name : String) (schema : Schema) : Field :=
  .mk name schema .refused

/-- A field whose absence and null mean the same; an array must hold it. -/
def optional (name : String) (schema : Schema) : Field :=
  .mk name (.optional schema) .allowedInObject

/-- A field whose absence and null mean the same, in either form. -/
def omittable (name : String) (schema : Schema) : Field :=
  .mk name (.optional schema) (.allowed none)

/-- A field with a standard value. -/
def withStandard (name : String) (schema : Schema) (standard : Value) : Field :=
  .mk name schema (.allowed (some standard))

end Field

namespace Schema

/-- A string. -/
def string : Schema := .text "a string"

/-- A 64-bit signed integer. -/
def int64 : Schema := .integer "i64" (-0x8000000000000000) 0x7FFFFFFFFFFFFFFF

/-- A 32-bit signed integer. -/
def int32 : Schema := .integer "i32" (-0x80000000) 0x7FFFFFFF

/-- A 64-bit unsigned integer. -/
def word64 : Schema := .integer "u64" 0 0xFFFFFFFFFFFFFFFF

/-- A 32-bit unsigned integer. -/
def word32 : Schema := .integer "u32" 0 0xFFFFFFFF

/-- An 8-bit unsigned integer. -/
def word8 : Schema := .integer "u8" 0 0xFF

def isOptional : Schema → Bool
  | .optional _ => true
  | _ => false

end Schema

/-- The number of things, with the noun in the right number. -/
def counted (count : Nat) (noun : String) : String :=
  toString count ++ " " ++ noun ++ (if count = 1 then "" else "s")

/-- How a record is asked for. -/
def recordExpectation (name : String) : String := "struct " ++ name

/-- How the array form of a record is asked for. -/
def arrayExpectation (name : String) (fields : List Field) : String :=
  recordExpectation name ++ " with " ++ counted fields.length "element"

/-- How a pair is asked for. -/
def pairExpectation : String := "a tuple of size 2"

/-- The member for a field that was read: an optional field that is null is left out. -/
def Field.keep (field : Field) (value : Value) : List (String × Value) :=
  if field.schema.isOptional && value.isNull then [] else [(field.name, value)]

/-- The member for a field that is absent from an object. -/
def Field.whenAbsent : Field → Except Mismatch (List (String × Value))
  | .mk name _ .refused => .error (.missingField name)
  | .mk _ _ .allowedInObject => .ok []
  | .mk _ _ (.allowed none) => .ok []
  | .mk name _ (.allowed (some standard)) => .ok [(name, standard)]

/-- The member for a field that the array form ends before; `length` items were there. -/
def Field.whenPastEnd (expected : String) (length : Nat) :
    Field → Except Mismatch (List (String × Value))
  | .mk _ _ .refused => .error (.wrongLength length expected)
  | .mk _ _ .allowedInObject => .error (.wrongLength length expected)
  | .mk _ _ (.allowed none) => .ok []
  | .mk name _ (.allowed (some standard)) => .ok [(name, standard)]

/-- The members of a record in the order of its fields, from the values that were read. -/
def assembleFields : List Field → List (String × Value) → Except Mismatch (List (String × Value))
  | [], _ => .ok []
  | field :: rest, readValues => do
    let head ←
      match member? field.name readValues with
      | some value => .ok (field.keep value)
      | none => field.whenAbsent
    let tail ← assembleFields rest readValues
    .ok (head ++ tail)

/-- What a value is, for a message. -/
def Value.found : Value → Found
  | .null => .null
  | .bool value => .bool value
  | .number (.integer whole) => .integer whole.value
  | .number (.float value) => .float value
  | .string text => .string text
  | .array _ => .sequence
  | .object _ => .map

/-- The refusal of a value where something else was wanted. -/
def Value.refusedAs (value : Value) (expected : String) : Mismatch :=
  .wrongType value.found expected

/-- An integer checked against the bounds of its type. -/
def checkInteger (name : String) (least greatest : Int) (whole : Integer) :
    Except Mismatch Value :=
  if least ≤ whole.value ∧ whole.value ≤ greatest then .ok (.number (.integer whole))
  else .error (.outOfRange whole.value name)

end RpcEndpoint.Json
