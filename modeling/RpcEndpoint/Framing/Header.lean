import RpcEndpoint.Text.Kind
import RpcEndpoint.Text.Utf8

/-!
# Frame headers

A frame is a header block, an empty line and a payload. The block is a list of lines, each ended by
a carriage return and a line feed; the line that names the length of the payload is the only one
that is read.
-/

namespace RpcEndpoint.Framing

/-- Why a header block names no usable length. -/
inductive HeaderFault where
  | missingLength
  | invalidLength (value : String)
  | invalidEncoding
deriving Repr, DecidableEq

def HeaderFault.message : HeaderFault → String
  | .missingLength => "missing Content-Length header"
  | .invalidLength value => "invalid Content-Length value: " ++ value
  | .invalidEncoding => "header block is not valid UTF-8"

/-- The name of the line that holds the length. -/
def lengthName : String := "Content-Length"

/-- What ends the last line of a header block, with the empty line that follows it. -/
def separator : Bytes := [0x0D, 0x0A, 0x0D, 0x0A]

/-- The payload behind its header. -/
def encodeFrame (payload : Bytes) : Bytes :=
  encodeText (lengthName ++ ": " ++ toString payload.length) ++ separator ++ payload

/-! ## Lines -/

/-- The lines of a header block: it is cut at every carriage return that a line feed follows. -/
def lines : List Char → List (List Char)
  | [] => [[]]
  | '\r' :: '\n' :: rest => [] :: lines rest
  | character :: rest =>
    match lines rest with
    | [] => [[character]]
    | line :: others => (character :: line) :: others

/-- The text before the first colon of a line and the text after it. -/
def splitAtColon? : List Char → Option (List Char × List Char)
  | [] => none
  | ':' :: rest => some ([], rest)
  | character :: rest => (splitAtColon? rest).map fun parts => (character :: parts.1, parts.2)

/-- The texts with the ASCII letters of both taken as equal in either case. -/
def sameIgnoringCase (left right : List Char) : Bool :=
  left.map Char.toLower = right.map Char.toLower

/-- The value of a line that names the length. -/
def lengthValue? (line : List Char) : Option (List Char) :=
  match splitAtColon? line with
  | some (name, value) =>
    if sameIgnoringCase (Text.trim name) lengthName.toList then some (Text.trim value) else none
  | none => none

/-! ## The length -/

/-- A length is written by decimal digits, at least one, behind at most one plus sign. -/
def parseLength? : List Char → Option Nat
  | '+' :: digits => Text.wordOfDigits? digits
  | digits => Text.wordOfDigits? digits

/-- The length that a header block names: the first line of the right name counts. -/
def payloadLength (block : Bytes) : Except HeaderFault Nat :=
  match Utf8.decode? block with
  | none => .error .invalidEncoding
  | some text =>
    match (lines text).findSome? lengthValue? with
    | none => .error .missingLength
    | some value =>
      match parseLength? value with
      | none => .error (.invalidLength (String.ofList value))
      | some length => .ok length

end RpcEndpoint.Framing
