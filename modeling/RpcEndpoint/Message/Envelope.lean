import RpcEndpoint.Json.Interpretation

/-!
# Messages

The identifiers of requests, the codes of errors, and the kinds of message with their JSON forms.
-/

namespace RpcEndpoint

open Json

/-! ## Identifiers

An identifier ties a response to its request. Those of this side are numbers; those of the peer are
numbers or strings and are sent back unchanged. -/

/-- An identifier. -/
inductive MessageId where
  | number (value : Int64)
  | string (text : String)
deriving Repr, DecidableEq

namespace MessageId

/-- The identifier for a reader: a string stands between quotes as it is. -/
def display : MessageId → String
  | .number value => toString value.toInt
  | .string text => "\"" ++ text ++ "\""

def toValue : MessageId → Value
  | .number value => .ofInt64 value
  | .string text => .string text

/-- What an identifier may look like: an integer or a string. -/
def schema : Schema := .choice "MessageId" [.int64, .string]

def ofValue? : Value → Option MessageId
  | .number (.integer whole) => some (.number (Int64.ofInt whole.value))
  | .string text => some (.string text)
  | _ => none

instance : Interpretation MessageId := ⟨schema, ofValue?⟩

/-- Numbers come before strings; both are in their own order. -/
def before : MessageId → MessageId → Bool
  | .number left, .number right => left < right
  | .number _, .string _ => true
  | .string _, .number _ => false
  | .string left, .string right => left < right

/-- Puts an identifier in its place among sorted ones, unless it is there already. -/
def insert (id : MessageId) : List MessageId → List MessageId
  | [] => [id]
  | head :: rest =>
    if id = head then head :: rest
    else if id.before head then id :: head :: rest
    else head :: insert id rest

/-- The identifiers in ascending order, each once. -/
def sort (ids : List MessageId) : List MessageId :=
  ids.foldr insert []

end MessageId

/-! ## Error codes

The codes that the protocol reserves, by name, and all others. -/

/-- The meaning of an error code. -/
inductive ErrorCode where
  | parseError
  | invalidRequest
  | methodNotFound
  | invalidParams
  | internalError
  | serverErrorStart
  | serverErrorEnd
  | serverNotInitialized
  | unknownErrorCode
  | requestCancelled
  | contentModified
  | serverCancelled
  | requestFailed
  | other (code : Int64)
deriving Repr, DecidableEq

namespace ErrorCode

/-- The code on the wire. -/
def code : ErrorCode → Int64
  | parseError => -32700
  | invalidRequest => -32600
  | methodNotFound => -32601
  | invalidParams => -32602
  | internalError => -32603
  | serverErrorStart => -32099
  | serverErrorEnd => -32000
  | serverNotInitialized => -32002
  | unknownErrorCode => -32001
  | requestCancelled => -32800
  | contentModified => -32801
  | serverCancelled => -32802
  | requestFailed => -32803
  | other code => code

def name : ErrorCode → String
  | parseError => "ParseError"
  | invalidRequest => "InvalidRequest"
  | methodNotFound => "MethodNotFound"
  | invalidParams => "InvalidParams"
  | internalError => "InternalError"
  | serverErrorStart => "ServerErrorStart"
  | serverErrorEnd => "ServerErrorEnd"
  | serverNotInitialized => "ServerNotInitialized"
  | unknownErrorCode => "UnknownErrorCode"
  | requestCancelled => "RequestCancelled"
  | contentModified => "ContentModified"
  | serverCancelled => "ServerCancelled"
  | requestFailed => "RequestFailed"
  | other _ => "Other"

/-- The codes with a meaning of their own. -/
def reserved : List ErrorCode :=
  [parseError, invalidRequest, methodNotFound, invalidParams, internalError, serverErrorStart,
    serverErrorEnd, serverNotInitialized, unknownErrorCode, requestCancelled, contentModified,
    serverCancelled, requestFailed]

/-- The meaning of a code from the wire. -/
def ofCode (code : Int64) : ErrorCode :=
  (reserved.find? fun known => known.code = code).getD (other code)

/-- The reserved code of a name. -/
def ofName? (name : String) : Option ErrorCode :=
  reserved.find? fun known => known.name = name

theorem code_ofCode (code : Int64) : (ofCode code).code = code := by
  unfold ofCode
  cases found : reserved.find? fun known => known.code = code with
  | none => rfl
  | some known => simpa using List.find?_some found

/-- Whether the code lies in the range that is left to servers. -/
def inServerRange (error : ErrorCode) : Bool :=
  serverErrorStart.code ≤ error.code && error.code ≤ serverErrorEnd.code

end ErrorCode

/-! ## Envelopes

The three kinds of message and the error object of a failed response, with their JSON forms. Fields
are written in the order in which they are declared here. A field that is null on the wire is read
as absent. -/

/-- The version of the protocol that every envelope names. -/
def protocolVersion : String := "2.0"

/-- What a peer says about a failed request. -/
structure ResponseError where
  code : Int64
  message : String
  data : Option Value

/-- A message that asks for an answer. -/
structure Request where
  version : String
  id : MessageId
  method : String
  params : Option Value

/-- A message that asks for none. -/
structure Notification where
  version : String
  method : String
  params : Option Value

/-- An answer: its result or its error. -/
structure Response where
  version : String
  id : MessageId
  result : Option Value
  error : Option ResponseError

/-- The member for an optional field. -/
def optionalMember (name : String) (value : Option Value) : List (String × Value) :=
  (value.map fun held => (name, held)).toList

/-! ### Error objects -/

namespace ResponseError

/-- An error without data. -/
def new (code : ErrorCode) (message : String) : ResponseError :=
  ⟨code.code, message, none⟩

/-- The answer to a request that nobody handles. -/
def methodNotFound (method : String) : ResponseError :=
  new .methodNotFound ("method not handled: " ++ method)

/-- The meaning of the code. -/
def kind (error : ResponseError) : ErrorCode :=
  .ofCode error.code

def toValue (error : ResponseError) : Value :=
  .object ([("code", .ofInt64 error.code), ("message", .string error.message)]
    ++ optionalMember "data" error.data)

def schema : Schema :=
  .record "ResponseError"
    [.needed "code" .int64, .needed "message" .string, .omittable "data" .any]

def ofValue? (value : Value) : Option ResponseError := do
  let code ← (← value.get? "code").integer?
  let message ← (← value.get? "message").string?
  pure ⟨.ofInt code, message, value.get? "data"⟩

instance : Interpretation ResponseError := ⟨schema, ofValue?⟩

end ResponseError

/-! ### Requests -/

namespace Request

def new (id : MessageId) (method : String) (params : Option Value) : Request :=
  ⟨protocolVersion, id, method, params⟩

def toValue (request : Request) : Value :=
  .object ([("jsonrpc", .string request.version), ("id", request.id.toValue),
    ("method", .string request.method)] ++ optionalMember "params" request.params)

def schema : Schema :=
  .record "JsonRpcRequest"
    [.needed "jsonrpc" .string, .needed "id" MessageId.schema, .needed "method" .string,
      .omittable "params" .any]

def ofValue? (value : Value) : Option Request := do
  let version ← (← value.get? "jsonrpc").string?
  let id ← MessageId.ofValue? (← value.get? "id")
  let method ← (← value.get? "method").string?
  pure ⟨version, id, method, value.get? "params"⟩

instance : Interpretation Request := ⟨schema, ofValue?⟩

end Request

/-! ### Notifications -/

namespace Notification

def new (method : String) (params : Option Value) : Notification :=
  ⟨protocolVersion, method, params⟩

def toValue (notification : Notification) : Value :=
  .object ([("jsonrpc", .string notification.version), ("method", .string notification.method)]
    ++ optionalMember "params" notification.params)

def schema : Schema :=
  .record "JsonRpcNotification"
    [.needed "jsonrpc" .string, .needed "method" .string, .omittable "params" .any]

def ofValue? (value : Value) : Option Notification := do
  let version ← (← value.get? "jsonrpc").string?
  let method ← (← value.get? "method").string?
  pure ⟨version, method, value.get? "params"⟩

instance : Interpretation Notification := ⟨schema, ofValue?⟩

end Notification

/-! ### Responses -/

namespace Response

/-- The answer to a request that succeeded. A null result stays on the wire. -/
def success (id : MessageId) (result : Value) : Response :=
  ⟨protocolVersion, id, some result, none⟩

/-- The answer to a request that failed. -/
def failure (id : MessageId) (error : ResponseError) : Response :=
  ⟨protocolVersion, id, none, some error⟩

/-- The answer with a given outcome. -/
def ofOutcome (id : MessageId) : Except ResponseError Value → Response
  | .ok result => success id result
  | .error error => failure id error

/-- What the response says: an error if there is one, else the result, null if it is absent. -/
def outcome (response : Response) : Except ResponseError Value :=
  match response.error with
  | some error => .error error
  | none => .ok (response.result.getD .null)

def toValue (response : Response) : Value :=
  .object ([("jsonrpc", .string response.version), ("id", response.id.toValue)]
    ++ optionalMember "result" response.result
    ++ optionalMember "error" (response.error.map ResponseError.toValue))

def schema : Schema :=
  .record "JsonRpcResponse"
    [.needed "jsonrpc" .string, .needed "id" MessageId.schema, .omittable "result" .any,
      .omittable "error" ResponseError.schema]

def ofValue? (value : Value) : Option Response := do
  let version ← (← value.get? "jsonrpc").string?
  let id ← MessageId.ofValue? (← value.get? "id")
  match value.get? "error" with
  | none => pure ⟨version, id, value.get? "result", none⟩
  | some held => pure ⟨version, id, value.get? "result", some (← ResponseError.ofValue? held)⟩

instance : Interpretation Response := ⟨schema, ofValue?⟩

end Response

end RpcEndpoint
