import RpcEndpoint.Proofs.Json.Ordered
import RpcEndpoint.Proofs.Json.Reads

/-!
# Values as they are written

A value read from text has the members of its objects in order, and the last of each name only. As
it is written it has all of them, one behind the other. `readValue` sorts what is written.
-/

namespace RpcEndpoint.Json

namespace Reader

/-- Reads a value as it is written, with its items and members read by `inner`. -/
def readWrittenWith (inner : Option (Reader Value)) : Reader Value := do
  match ← peekVisible with
  | none => failAtNext .endInValue
  | some 0x6E => skipByte; readWord [0x75, 0x6C, 0x6C]; pure .null
  | some 0x74 => skipByte; readWord [0x72, 0x75, 0x65]; pure (.bool true)
  | some 0x66 => skipByte; readWord [0x61, 0x6C, 0x73, 0x65]; pure (.bool false)
  | some 0x2D => skipByte; return .number (← readNumber true)
  | some 0x22 => skipByte; return .string (← readText)
  | some 0x5B =>
    match inner with
    | none => failAtNext .nestingLimit
    | some item => return .array (← readList item)
  | some 0x7B =>
    match inner with
    | none => failAtNext .nestingLimit
    | some value => return .object (← readObject value)
  | some byte =>
    if Bytes.isDigit byte then return .number (← readNumber false)
    else failAtNext .expectedValue

/-- Reads a value as it is written, which may open so many arrays and objects. -/
def readWritten : Nat → Reader Value
  | 0 => readWrittenWith none
  | allowance + 1 => readWrittenWith (some (readWritten allowance))

/-! ## Readers that change what they have read -/

variable {α β : Type}

private theorem map_readItems (change : α → β) (item : Reader α) (fuel : Nat) (first : Bool) :
    readItems (change <$> item) fuel first = List.map change <$> readItems item fuel first := by
  induction fuel generalizing first with
  | zero => rfl
  | succ fuel inductionHypothesis =>
      rw [readItems, readItems, map_bind]
      refine bind_congr fun goesOn => ?_
      cases goesOn with
      | true => simp [inductionHypothesis]
      | false => simp

private theorem map_readMembers (change : α → β) (value : Reader α) (fuel : Nat) (first : Bool) :
    readMembers (change <$> value) fuel first =
      List.map (Prod.map id change) <$> readMembers value fuel first := by
  induction fuel generalizing first with
  | zero => rfl
  | succ fuel inductionHypothesis =>
      rw [readMembers, readMembers, map_bind]
      refine bind_congr fun goesOn => ?_
      cases goesOn with
      | true => simp [inductionHypothesis]
      | false => simp

private theorem map_enclosed (change : α → β) (body : Reader α) (close : Reader Unit) :
    enclosed (change <$> body) close = change <$> enclosed body close := by
  funext cursor
  simp only [Functor.map, EStateM.map, enclosed]
  cases body cursor with
  | ok value inside | error fault inside =>
      dsimp only
      cases close inside <;> rfl

private theorem map_readList (change : α → β) (item : Reader α) :
    readList (change <$> item) = List.map change <$> readList item := by
  simp [readList, map_readItems, map_enclosed]

private theorem map_readObject (change : α → β) (value : Reader α) :
    readObject (change <$> value) = List.map (Prod.map id change) <$> readObject value := by
  simp [readObject, map_readMembers, map_enclosed]

private theorem map_failAtNext (change : α → β) (malformation : Malformation) :
    change <$> (failAtNext malformation : Reader α) = failAtNext malformation :=
  rfl

private theorem readValueWith_map (inner : Option (Reader Value)) :
    readValueWith (inner.map (Value.sorted <$> ·)) = Value.sorted <$> readWrittenWith inner := by
  unfold readValueWith readWrittenWith
  rw [map_bind]
  refine bind_congr fun byte => ?_
  cases inner with
  | none =>
      split
      all_goals simp [Value.sorted, map_failAtNext]
      split <;> simp [Value.sorted, map_failAtNext]
  | some inner =>
      split
      all_goals simp [Value.sorted, map_failAtNext, map_readList, map_readObject]
      · simp only [sortedItems_eq]
      · simp only [sortedMembers_eq]
        rfl
      · split <;> simp [Value.sorted, map_failAtNext]

/-- Reading a value is reading what is written, and sorting it. -/
theorem readValue_eq (levels : Nat) : readValue levels = Value.sorted <$> readWritten levels := by
  induction levels with
  | zero => exact readValueWith_map none
  | succ levels inductionHypothesis =>
      rw [readValue, inductionHypothesis]
      exact readValueWith_map (some (readWritten levels))

end Reader

/-- The value of a text as it is written. -/
def parseWritten (bytes : Bytes) : Except Fault Value :=
  Reader.readAll (Reader.readWritten nestingLimit) bytes

end RpcEndpoint.Json
