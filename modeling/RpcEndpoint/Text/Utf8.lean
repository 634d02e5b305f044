import RpcEndpoint.Text.Bytes

/-!
# UTF-8

Reading characters from bytes. `decodePrefix` splits a byte string into the characters of its
longest well-formed beginning and what follows, `decode?` accepts exactly the byte strings that
leave nothing over, and `decodeLossy` replaces each maximal ill-formed piece by U+FFFD.
-/

namespace RpcEndpoint.Utf8

/-- Whether the byte continues a character. -/
def isContinuation (byte : UInt8) : Bool :=
  0x80 ≤ byte && byte ≤ 0xBF

/-- The payload of a continuation byte. -/
def continuationBits (byte : UInt8) : Nat :=
  byte.toNat - 0x80

/-- Whether a second byte may follow the lead byte of a character of three or four bytes: overlong
forms, surrogates and code points above U+10FFFF are shut out here. -/
def isSecond (lead second : UInt8) : Bool :=
  if lead = 0xE0 then 0xA0 ≤ second && second ≤ 0xBF
  else if lead = 0xED then 0x80 ≤ second && second ≤ 0x9F
  else if lead = 0xF0 then 0x90 ≤ second && second ≤ 0xBF
  else if lead = 0xF4 then 0x80 ≤ second && second ≤ 0x8F
  else isContinuation second

/-- Reads one character from the front. -/
def readChar? : Bytes → Option (Char × Bytes)
  | [] => none
  | lead :: rest =>
    if lead < 0x80 then some (Char.ofNat lead.toNat, rest)
    else if 0xC2 ≤ lead && lead ≤ 0xDF then
      match rest with
      | second :: tail =>
        if isContinuation second then
          some (Char.ofNat ((lead.toNat - 0xC0) * 64 + continuationBits second), tail)
        else none
      | _ => none
    else if 0xE0 ≤ lead && lead ≤ 0xEF then
      match rest with
      | second :: third :: tail =>
        if isSecond lead second && isContinuation third then
          some (Char.ofNat (((lead.toNat - 0xE0) * 64 + continuationBits second) * 64
            + continuationBits third), tail)
        else none
      | _ => none
    else if 0xF0 ≤ lead && lead ≤ 0xF4 then
      match rest with
      | second :: third :: fourth :: tail =>
        if isSecond lead second && isContinuation third && isContinuation fourth then
          some (Char.ofNat ((((lead.toNat - 0xF0) * 64 + continuationBits second) * 64
            + continuationBits third) * 64 + continuationBits fourth), tail)
        else none
      | _ => none
    else none

theorem length_of_readChar?_eq_some {bytes rest : Bytes} {character : Char}
    (read : readChar? bytes = some (character, rest)) : rest.length < bytes.length := by
  unfold readChar? at read
  repeat' split at read
  all_goals first
    | contradiction
    | (simp only [Option.some.injEq, Prod.mk.injEq] at read
       obtain ⟨_, rfl⟩ := read
       simp only [List.length_cons]
       omega)

/-- The characters of the longest well-formed beginning, and the bytes after it. -/
def decodePrefix (bytes : Bytes) : List Char × Bytes :=
  match read : readChar? bytes with
  | none => ([], bytes)
  | some (character, rest) =>
    have : rest.length < bytes.length := length_of_readChar?_eq_some read
    let decoded := decodePrefix rest
    (character :: decoded.1, decoded.2)
termination_by bytes.length

/-- The characters of a well-formed byte string. -/
def decode? (bytes : Bytes) : Option (List Char) :=
  match decodePrefix bytes with
  | (characters, []) => some characters
  | (_, _ :: _) => none

/-- The text of a well-formed byte string. -/
def text? (bytes : Bytes) : Option String :=
  (decode? bytes).map String.ofList

/-- The index of the first byte that belongs to no well-formed character. -/
def faultIndex (bytes : Bytes) : Nat :=
  bytes.length - (decodePrefix bytes).2.length

/-- How many bytes at the front of an ill-formed string are replaced together: those that begin a
character which the next byte breaks off, and never fewer than one. -/
def brokenLength : Bytes → Nat
  | lead :: second :: third :: _ =>
    if 0xE0 ≤ lead && lead ≤ 0xF4 && isSecond lead second then
      if 0xF0 ≤ lead && isContinuation third then 3 else 2
    else 1
  | [lead, second] =>
    if 0xE0 ≤ lead && lead ≤ 0xF4 && isSecond lead second then 2 else 1
  | _ => 1

theorem brokenLength_pos (bytes : Bytes) : 0 < brokenLength bytes := by
  unfold brokenLength
  repeat' split
  all_goals omega

/-- The text with each maximal ill-formed piece replaced by U+FFFD. -/
def decodeLossy (bytes : Bytes) : List Char :=
  match read : readChar? bytes with
  | some (character, rest) =>
    have : rest.length < bytes.length := length_of_readChar?_eq_some read
    character :: decodeLossy rest
  | none =>
    match bytes with
    | [] => []
    | head :: tail =>
      have : 0 < brokenLength (head :: tail) := brokenLength_pos (head :: tail)
      '\uFFFD' :: decodeLossy ((head :: tail).drop (brokenLength (head :: tail)))
termination_by bytes.length
decreasing_by
  · assumption
  · simp only [List.length_drop, List.length_cons]
    omega

end RpcEndpoint.Utf8
