import RpcEndpoint.Message.Envelope

/-!
# Inbound payloads

`Incoming.classify` says what a payload is. The names of its members decide which envelope it must
be; only then are the members looked at.
-/

namespace RpcEndpoint

open Json

/-- Why a payload is no message. -/
inductive Unrecognized where
  | invalidJson (fault : Fault)
  | notAnObject
  | unknownShape
  | invalidEnvelope (fault : Fault)

def Unrecognized.message : Unrecognized → String
  | .invalidJson fault => "invalid JSON: " ++ fault.message
  | .notAnObject => "payload is not a JSON object"
  | .unknownShape => "payload matches no envelope shape"
  | .invalidEnvelope fault => "invalid envelope: " ++ fault.message

/-- A payload from the peer. -/
inductive Incoming where
  | response (response : Response)
  | notification (notification : Notification)
  | request (request : Request)
  | unrecognized (reason : Unrecognized)

/-- The kinds of envelope. -/
inductive Shape where
  | response
  | notification
  | request
deriving Repr, DecidableEq

/-- The envelope that the members of an object announce. A response has an identifier, no method
and either a result or an error; a notification has a method and no identifier, not even null; a
request has both. -/
def Shape.ofMembers? (members : List (String × Value)) : Option Shape :=
  let has (name : String) : Bool := (member? name members).isSome
  let identified : Bool :=
    match member? "id" members with
    | none => false
    | some id => !id.isNull
  if identified && !has "method" && (has "result" != has "error") then some .response
  else if has "method" && !has "id" then some .notification
  else if has "method" && identified then some .request
  else none

namespace Incoming

/-- The message that a value holds, if it fits its envelope. -/
def ofEnvelope {α : Type} [Interpretation α] (wrap : α → Incoming) (envelope : Value) : Incoming :=
  match Interpretation.decode envelope with
  | .ok message => wrap message
  | .error fault => .unrecognized (.invalidEnvelope fault)

/-- The message that an object holds. -/
def ofMembers (members : List (String × Value)) : Incoming :=
  match Shape.ofMembers? members with
  | some .response => ofEnvelope .response (.object members)
  | some .notification => ofEnvelope .notification (.object members)
  | some .request => ofEnvelope .request (.object members)
  | none => .unrecognized .unknownShape

/-- What a payload is. -/
def classify (payload : Bytes) : Incoming :=
  match parse payload with
  | .error fault => .unrecognized (.invalidJson fault)
  | .ok (.object members) => ofMembers members
  | .ok _ => .unrecognized .notAnObject

end Incoming

end RpcEndpoint
