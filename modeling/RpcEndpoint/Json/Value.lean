/-!
# JSON values

A value keeps the members of an object in a stated order. A value read from text has them in
ascending order of their names, each name once; `Value.sorted` puts any value into that order.
-/

namespace RpcEndpoint.Json

/-- The least integer that is kept as an integer. -/
def leastInteger : Int := -0x8000000000000000

/-- The first integer above those that are kept as integers. -/
def integerBound : Int := 0x10000000000000000

/-- An integer that fits 64 bits, signed or not. -/
structure Integer where
  value : Int
  least_le : leastInteger ≤ value
  lt_bound : value < integerBound
deriving Repr

/-- The integer, if it is in range. -/
def Integer.ofInt? (value : Int) : Option Integer :=
  if inRange : leastInteger ≤ value ∧ value < integerBound then
    some ⟨value, inRange.1, inRange.2⟩
  else none

/-- The integer of a signed 64-bit word. -/
def Integer.ofInt64 (word : Int64) : Integer :=
  ⟨word.toInt, Int64.le_toInt word,
    Int.lt_of_lt_of_le (Int64.toInt_lt word) (by decide)⟩

/-- The integer rounded to binary64. -/
def Integer.toFloat (whole : Integer) : Float :=
  let magnitude := whole.value.natAbs.toUInt64.toFloat
  if whole.value < 0 then -magnitude else magnitude

/-- A number is an integer in range or a finite binary64 number. -/
inductive Number where
  | integer (whole : Integer)
  | float (value : Float)
deriving Repr

/-- A JSON value. -/
inductive Value where
  | null
  | bool (value : Bool)
  | number (number : Number)
  | string (text : String)
  | array (items : List Value)
  | object (members : List (String × Value))
deriving Repr, Inhabited

namespace Value

def isNull : Value → Bool
  | .null => true
  | _ => false

/-- The integer of a signed 64-bit word, as a value. -/
def ofInt64 (word : Int64) : Value :=
  .number (.integer (.ofInt64 word))

end Value

/-! ## Members -/

/-- Members in ascending order of their names; a name is compared by its characters, which is the
order of its UTF-8 bytes. A member that is inserted replaces the one of the same name. -/
def insertMember (name : String) (value : Value) :
    List (String × Value) → List (String × Value)
  | [] => [(name, value)]
  | (other, held) :: rest =>
    if name < other then (name, value) :: (other, held) :: rest
    else if name = other then (name, value) :: rest
    else (other, held) :: insertMember name value rest

/-- The members in ascending order, the last of each name. -/
def sortMembers (members : List (String × Value)) : List (String × Value) :=
  members.foldl (fun sorted member => insertMember member.1 member.2 sorted) []

/-- The value of the member of this name. -/
def member? (name : String) (members : List (String × Value)) : Option Value :=
  (members.find? fun member => member.1 = name).map Prod.snd

mutual

/-- The value with the members of every object in ascending order. -/
def Value.sorted : Value → Value
  | .array items => .array (sortedItems items)
  | .object members => .object (sortMembers (sortedMembers members))
  | value => value

def sortedItems : List Value → List Value
  | [] => []
  | item :: rest => item.sorted :: sortedItems rest

def sortedMembers : List (String × Value) → List (String × Value)
  | [] => []
  | (name, value) :: rest => (name, value.sorted) :: sortedMembers rest

end

end RpcEndpoint.Json
