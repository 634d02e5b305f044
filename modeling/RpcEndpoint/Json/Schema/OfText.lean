import RpcEndpoint.Json.Schema.OfValue
import RpcEndpoint.Json.Skip

/-!
# Reading text by a schema

`Schema.read` takes a value straight from its text. Members are visited as they are written, a
repeated field is refused, and a mismatch shows where the innermost enclosing value gave up.
-/

namespace RpcEndpoint.Json

namespace Reader

/-- The outcome of a check, at this place. -/
def ofCheck {α : Type} : Except Mismatch α → Reader α
  | .ok value => pure value
  | .error cause => mismatch cause

/-- Reads over the thing that stands where something else was wanted; arrays and objects are not
entered. -/
def readFound : Reader Found := do
  match ← peekVisible with
  | some 0x6E => skipByte; readWord [0x75, 0x6C, 0x6C]; pure .null
  | some 0x74 => skipByte; readWord [0x72, 0x75, 0x65]; pure (.bool true)
  | some 0x66 => skipByte; readWord [0x61, 0x6C, 0x73, 0x65]; pure (.bool false)
  | some 0x2D => skipByte; return (Value.number (← readNumber true)).found
  | some 0x22 => skipByte; return .string (← readText)
  | some 0x5B => pure .sequence
  | some 0x7B => pure .map
  | some byte =>
    if Bytes.isDigit byte then return (Value.number (← readNumber false)).found
    else failAtNext .expectedValue
  | none => failAtNext .endInValue

/-- Refuses what stands here. -/
def wrongType {α : Type} (expected : String) : Reader α :=
  placed do mismatch (.wrongType (← readFound) expected)

/-- Reads a scalar that the check takes from the value; arrays and objects are refused unread. -/
def readScalar (expected : String) (check : Value → Option (Except Mismatch Value)) :
    Reader Value :=
  placed do
    match ← readFound with
    | .sequence => mismatch (.wrongType .sequence expected)
    | .map => mismatch (.wrongType .map expected)
    | .null => settle .null .null
    | .bool held => settle (.bool held) (.bool held)
    | .integer whole =>
      match Integer.ofInt? whole with
      | some integer => settle (.integer whole) (.number (.integer integer))
      | none => mismatch (.wrongType (.integer whole) expected)
    | .float held => settle (.float held) (.number (.float held))
    | .string held => settle (.string held) (.string held)
where
  settle (found : Found) (value : Value) : Reader Value :=
    match check value with
    | some outcome => ofCheck outcome
    | none => mismatch (.wrongType found expected)

/-- Reads the fields of a record from its array form; `taken` items went before. -/
def readFieldItems (expected : String) :
    Nat → List (Field × Reader Value) → Reader (List (String × Value))
  | _, [] => pure []
  | taken, (field, value) :: rest => do
    if ← hasNextItem (taken = 0) then
      let head ← value
      let tail ← readFieldItems expected (taken + 1) rest
      pure (field.keep head ++ tail)
    else
      let head ← ofCheck (field.whenPastEnd expected taken)
      let tail ← readFieldItems expected (taken + 1) rest
      pure (head ++ tail)

/-- Reads the members that are left of a record; `held` were read before. -/
def readFieldMembers (fields : List (Field × Reader Value)) :
    Nat → List (String × Value) → Bool → Reader (List (String × Value))
  | 0, held, _ => pure held
  | fuel + 1, held, first => do
    if ← hasNextKey first then
      let name ← readKey
      match fields.find? fun field => field.1.name = name with
      | none =>
        readColon
        skipValue
        readFieldMembers fields fuel held false
      | some (_, value) =>
        if held.any fun member => member.1 = name then mismatch (.duplicateField name)
        else
          readColon
          let head ← value
          readFieldMembers fields fuel ((name, head) :: held) false
    else pure held

/-- Opens an array or an object, if another level is allowed. -/
def entering {α : Type} (allowance : Nat) (body : Nat → Reader α) : Reader α :=
  match allowance with
  | 0 => failAtNext .nestingLimit
  | inner + 1 => do
    skipByte
    body inner

/-- Reads a record in either form. -/
def readRecord (name : String) (fields : List Field)
    (readers : Nat → List (Field × Reader Value)) (allowance : Nat) : Reader Value := do
  match ← peekVisible with
  | some 0x5B =>
    placed <| entering allowance fun inner => do
      let items := readFieldItems (arrayExpectation name fields) 0 (readers inner)
      return .object (← enclosed items closeList)
  | some 0x7B =>
    placed <| entering allowance fun inner => do
      let fuel ← remaining
      let members := do
        let held ← readFieldMembers (readers inner) (fuel + 1) [] true
        ofCheck (assembleFields fields held)
      return .object (← enclosed members closeObject)
  | _ => wrongType (recordExpectation name)

/-- Reads the two items of a pair. -/
def readPair (first second : Reader Value) : Reader Value := do
  if ← hasNextItem true then
    let left ← first
    if ← hasNextItem false then
      let right ← second
      pure (.array [left, right])
    else mismatch (.wrongLength 1 pairExpectation)
  else mismatch (.wrongLength 0 pairExpectation)

end Reader

open Reader

mutual

/-- Reads a value by a schema; so many more arrays and objects may be opened. -/
def Schema.read : Schema → Nat → Reader Value
  | .any, allowance => readValue allowance
  | .unit, _ => readScalar "unit" fun value =>
    if value.isNull then some (.ok .null) else none
  | .bool, _ => readScalar "a boolean" fun
    | .bool held => some (.ok (.bool held))
    | _ => none
  | .integer name least greatest, _ => readScalar name fun
    | .number (.integer whole) => some (checkInteger name least greatest whole)
    | _ => none
  | .float, _ => readScalar "f64" fun
    | .number (.integer whole) => some (.ok (.number (.float whole.toFloat)))
    | .number (.float held) => some (.ok (.number (.float held)))
    | _ => none
  | .text expected, _ => readScalar expected fun
    | .string held => some (.ok (.string held))
    | _ => none
  | .list item, allowance => do
    match ← peekVisible with
    | some 0x5B =>
      placed <| entering allowance fun inner => do
        let fuel ← remaining
        return .array (← enclosed (readItems (item.read inner) (fuel + 1) true) closeList)
    | _ => wrongType "a sequence"
  | .map value, allowance => do
    match ← peekVisible with
    | some 0x7B =>
      placed <| entering allowance fun inner => do
        let fuel ← remaining
        let members := readMembers (value.read inner) (fuel + 1) true
        return .object (sortMembers (← enclosed members closeObject))
    | _ => wrongType "a map"
  | .optional inner, allowance => do
    match ← peekVisible with
    | some 0x6E => skipByte; readWord [0x75, 0x6C, 0x6C]; pure .null
    | _ => inner.read allowance
  | .pair first second, allowance => do
    match ← peekVisible with
    | some 0x5B =>
      placed <| entering allowance fun inner =>
        enclosed (readPair (first.read inner) (second.read inner)) closeList
    | _ => wrongType pairExpectation
  | .record name fields, allowance =>
    readRecord name fields (fieldReaders fields) allowance
  | .merged name groups, allowance => readBuffered (.merged name groups) allowance
  | .variant names, allowance => readBuffered (.variant names) allowance
  | .choice name alternatives, allowance => readBuffered (.choice name alternatives) allowance

/-- The fields with their readers. -/
def fieldReaders : List Field → Nat → List (Field × Reader Value)
  | [], _ => []
  | .mk name schema absence :: rest, allowance =>
    (.mk name schema absence, schema.read allowance) :: fieldReaders rest allowance

/-- Reads any value first and takes the schema's view of it afterwards. -/
def readBuffered (schema : Schema) (allowance : Nat) : Reader Value := do
  let value ← readValue allowance
  ofCheck (schema.ofValue true value)

end

/-- The value that a whole text holds, read by a schema. -/
def Schema.parse (schema : Schema) (bytes : Bytes) : Except Fault Value :=
  readAll (schema.read nestingLimit) bytes

end RpcEndpoint.Json
