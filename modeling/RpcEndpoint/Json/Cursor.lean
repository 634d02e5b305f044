import RpcEndpoint.Json.Fault

/-!
# Reading from a cursor

A reader consumes bytes from a cursor, which knows the position of its next byte. A reader that
fails leaves the cursor where it gave up, so that an enclosing reader can still place the fault.
-/

namespace RpcEndpoint.Json

/-- The bytes still to be read and the position of the first of them. -/
structure Cursor where
  rest : Bytes
  /-- The number of those bytes. -/
  left : Nat
  position : Position
  left_eq : left = rest.length

/-- The cursor at the beginning of a text. -/
def Cursor.start (bytes : Bytes) : Cursor := ⟨bytes, bytes.length, ⟨1, 0⟩, rfl⟩

/-- The cursor one byte further; at the end it stays. -/
def Cursor.next : Cursor → Cursor
  | ⟨[], left, position, left_eq⟩ => ⟨[], left, position, left_eq⟩
  | ⟨byte :: rest, left, position, left_eq⟩ =>
    ⟨rest, left - 1, position.after byte, by rw [left_eq, List.length_cons, Nat.add_sub_cancel]⟩

/-- The cursor after so many bytes. -/
def Cursor.skip (cursor : Cursor) : Nat → Cursor
  | 0 => cursor
  | count + 1 => cursor.next.skip count

/-- The cursor after the bytes at its front that satisfy the test. -/
def Cursor.skipWhile (test : UInt8 → Bool) (cursor : Cursor) : Cursor :=
  cursor.skip (cursor.rest.takeWhile test).length

/-- Whether the byte is JSON white space. -/
def isBlankByte (byte : UInt8) : Bool :=
  byte = 0x20 || byte = 0x09 || byte = 0x0A || byte = 0x0D

/-- A reader of `α`. -/
abbrev Reader := EStateM Fault Cursor

namespace Reader

/-- The next byte, which stays unread. -/
def peek : Reader (Option UInt8) :=
  fun cursor => .ok cursor.rest.head? cursor

/-- Reads over one byte. -/
def skipByte : Reader Unit :=
  fun cursor => .ok () cursor.next

/-- Reads one byte, if there is one. -/
def nextByte : Reader (Option UInt8) :=
  fun cursor => .ok cursor.rest.head? cursor.next

/-- Reads over white space and looks at the byte behind it. -/
def peekVisible : Reader (Option UInt8) :=
  fun cursor =>
    let ahead := cursor.skipWhile isBlankByte
    .ok ahead.rest.head? ahead

/-- Reads the bytes at the front that satisfy the test. -/
def takeWhile (test : UInt8 → Bool) : Reader Bytes :=
  fun cursor => .ok (cursor.rest.takeWhile test) (cursor.skipWhile test)

/-- Fails at the bytes read so far. -/
def failHere {α : Type} (malformation : Malformation) : Reader α :=
  fun cursor => .error ⟨.malformed malformation, some cursor.position⟩ cursor

/-- Fails at the next byte, which the position counts as read. -/
def failAtNext {α : Type} (malformation : Malformation) : Reader α :=
  fun cursor => .error ⟨.malformed malformation, some cursor.next.position⟩ cursor

/-- Fails without a position. -/
def mismatch {α : Type} (mismatch : Mismatch) : Reader α :=
  fun cursor => .error mismatch.fault cursor

/-- Gives a fault that has no position the place where the reader stopped. -/
def placed {α : Type} (reader : Reader α) : Reader α :=
  fun cursor =>
    match reader cursor with
    | .ok value ahead => .ok value ahead
    | .error fault ahead => .error (fault.placedAt ahead.position) ahead

/-- Runs `close` after `body`, also when the body fails; the fault of the body wins. -/
def enclosed {α : Type} (body : Reader α) (close : Reader Unit) : Reader α :=
  fun cursor =>
    match body cursor with
    | .ok value inside =>
      match close inside with
      | .ok () ahead => .ok value ahead
      | .error fault ahead => .error fault ahead
    | .error fault inside =>
      match close inside with
      | .ok () ahead => .error fault ahead
      | .error _ ahead => .error fault ahead

/-- The number of bytes still to be read, which bounds every loop over them. -/
def remaining : Reader Nat :=
  fun cursor => .ok cursor.left cursor

/-- Reads a whole text: nothing but white space may follow. -/
def readAll {α : Type} (reader : Reader α) (bytes : Bytes) : Except Fault α :=
  let whole : Reader α := do
    let value ← reader
    match ← peekVisible with
    | none => pure value
    | some _ => failAtNext .trailingCharacters
  match whole (Cursor.start bytes) with
  | .ok value _ => .ok value
  | .error fault _ => .error fault

end Reader

end RpcEndpoint.Json
