import RpcEndpoint.Json.Schema.Basic

/-!
# Reading a value by a schema

`Schema.ofValue` visits the members of an object in the order in which the object holds them, so
the first mismatch in that order wins; fields that are absent are found afterwards, in the order of
their declaration. Members that no field asks for are ignored.
-/

namespace RpcEndpoint.Json

/-- How an array with too many items is refused. Inside a choice or a merged record the fields are
counted, elsewhere they are not. -/
def surplusExpectation (buffered : Bool) (wanted : Nat) : String :=
  if buffered then counted wanted "element" ++ " in sequence" else "fewer elements in array"

/-- Reads the members that the reader knows. -/
def collectFields (read : String → Value → Option (Except Mismatch Value)) :
    List (String × Value) → Except Mismatch (List (String × Value))
  | [] => .ok []
  | (name, value) :: rest =>
    match read name value with
    | none => collectFields read rest
    | some outcome => do
      let head ← outcome
      let tail ← collectFields read rest
      .ok ((name, head) :: tail)

mutual

/-- The value read by a schema. -/
def Schema.ofValue (buffered : Bool) : Schema → Value → Except Mismatch Value
  | .any, value => .ok value
  | .unit, value =>
    match value with
    | .null => .ok .null
    | other => .error (other.refusedAs "unit")
  | .bool, value =>
    match value with
    | .bool held => .ok (.bool held)
    | other => .error (other.refusedAs "a boolean")
  | .integer name least greatest, value =>
    match value with
    | .number (.integer whole) => checkInteger name least greatest whole
    | other => .error (other.refusedAs name)
  | .float, value =>
    match value with
    | .number (.integer whole) => .ok (.number (.float whole.toFloat))
    | .number (.float held) => .ok (.number (.float held))
    | other => .error (other.refusedAs "f64")
  | .text expected, value =>
    match value with
    | .string held => .ok (.string held)
    | other => .error (other.refusedAs expected)
  | .list item, value =>
    match value with
    | .array items => return .array (← items.mapM fun held => item.ofValue buffered held)
    | other => .error (other.refusedAs "a sequence")
  | .map inner, value =>
    match value with
    | .object members =>
      return .object (← collectFields (fun _ held => some (inner.ofValue buffered held)) members)
    | other => .error (other.refusedAs "a map")
  | .optional inner, value =>
    match value with
    | .null => .ok .null
    | other => inner.ofValue buffered other
  | .pair first second, value =>
    match value with
    | .array [] => .error (.wrongLength 0 pairExpectation)
    | .array (head :: tail) => do
      let left ← first.ofValue buffered head
      match tail with
      | [] => .error (.wrongLength 1 pairExpectation)
      | next :: surplus =>
        let right ← second.ofValue buffered next
        if surplus.isEmpty then return .array [left, right]
        else .error (.wrongLength (surplus.length + 2) (surplusExpectation buffered 2))
    | other => .error (other.refusedAs pairExpectation)
  | .record name fields, value =>
    match value with
    | .array items => do
      let members ← fieldsOfItems buffered (arrayExpectation name fields) 0 fields items
      if fields.length < items.length then
        .error (.wrongLength items.length (surplusExpectation buffered fields.length))
      else return .object members
    | .object members => do
      let readValues ← collectFields (fieldOfMember buffered fields) members
      return .object (← assembleFields fields readValues)
    | other => .error (other.refusedAs (recordExpectation name))
  | .merged name groups, value =>
    match value with
    | .object members => return .object (← groupsOfMembers groups members)
    | other => .error (other.refusedAs (recordExpectation name))
  | .variant names, value =>
    match value with
    | .string held =>
      if names.contains held then .ok (.string held)
      else .error (.unknownVariant held (", ".intercalate names))
    | .object [(held, .null)] =>
      if names.contains held then .ok (.string held)
      else .error (.unknownVariant held (", ".intercalate names))
    | other => .error (other.refusedAs "a variant")
  | .choice name alternatives, value =>
    match firstFit alternatives value with
    | some read => .ok read
    | none => .error (.noVariant name)

/-- The value read by the first alternative that fits. -/
def firstFit : List Schema → Value → Option Value
  | [], _ => none
  | alternative :: rest, value =>
    match alternative.ofValue true value with
    | .ok read => some read
    | .error _ => firstFit rest value

/-- The member read by the field of its name, if there is one. -/
def fieldOfMember (buffered : Bool) :
    List Field → String → Value → Option (Except Mismatch Value)
  | [], _, _ => none
  | .mk name schema _ :: rest, key, value =>
    if name = key then some (schema.ofValue buffered value)
    else fieldOfMember buffered rest key value

/-- The members of a record from its array form; `taken` items went before. -/
def fieldsOfItems (buffered : Bool) (expected : String) (taken : Nat) :
    List Field → List Value → Except Mismatch (List (String × Value))
  | [], _ => .ok []
  | .mk name schema absence :: rest, items => do
    match items with
    | [] =>
      let head ← (Field.mk name schema absence).whenPastEnd expected taken
      let tail ← fieldsOfItems buffered expected (taken + 1) rest []
      .ok (head ++ tail)
    | item :: others =>
      let value ← schema.ofValue buffered item
      let tail ← fieldsOfItems buffered expected (taken + 1) rest others
      .ok ((Field.mk name schema absence).keep value ++ tail)

/-- The members of several records that share one object. -/
def groupsOfMembers :
    List (List Field) → List (String × Value) → Except Mismatch (List (String × Value))
  | [], _ => .ok []
  | group :: rest, members => do
    let readValues ← collectFields (fieldOfMember true group) members
    let head ← assembleFields group readValues
    let tail ← groupsOfMembers rest members
    .ok (head ++ tail)

end

/-- The value read by a schema, with a mismatch as a fault without a position. -/
def Schema.decode (schema : Schema) (value : Value) : Except Fault Value :=
  (schema.ofValue false value).mapError Mismatch.fault

end RpcEndpoint.Json
