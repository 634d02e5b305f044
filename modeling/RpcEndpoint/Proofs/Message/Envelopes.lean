import RpcEndpoint.Message.Incoming
import RpcEndpoint.Proofs.Json.Fields

/-!
# Envelopes

Each envelope is given back by its JSON form. What arrives of an envelope is the same with a null
that is left out.
-/

namespace RpcEndpoint

open Json

namespace MessageId

theorem ofValue?_toValue (id : MessageId) : ofValue? id.toValue = some id := by
  cases id with
  | number value =>
      exact congrArg (fun held => some (MessageId.number held)) (Int64.ofInt_toInt value)
  | string text =>
      rfl

theorem sorted_toValue (id : MessageId) : id.toValue.sorted = id.toValue := by
  cases id <;> rfl

theorem isNull_toValue (id : MessageId) : id.toValue.isNull = false := by
  cases id <;> rfl

end MessageId

/-! ## Requests -/

namespace Request

/-- A request as it arrives. -/
def arrived (request : Request) : Request :=
  { request with params := Json.arrived request.params }

/-- The fields of a request as they are read. -/
def fields : List Field :=
  [.needed "jsonrpc" .string, .needed "id" MessageId.schema, .needed "method" .string,
    .omittable "params" .any]

/-- The members of a request as they are printed. -/
def members (request : Request) : List (String × Value) :=
  [("jsonrpc", .string request.version), ("id", request.id.toValue),
    ("method", .string request.method)] ++ optionalMember "params" request.params

theorem ofValue?_toValue (request : Request) : ofValue? request.toValue = some request := by
  obtain ⟨version, id, method, params⟩ := request
  cases params with
  | none =>
      simp [ofValue?, toValue, optionalMember, Value.get?, member?, Value.string?,
        MessageId.ofValue?_toValue]
  | some value =>
      simp [ofValue?, toValue, optionalMember, Value.get?, member?, Value.string?,
        MessageId.ofValue?_toValue]

end Request

/-! ## Notifications -/

namespace Notification

/-- A notification as it arrives. -/
def arrived (notification : Notification) : Notification :=
  { notification with params := Json.arrived notification.params }

/-- The fields of a notification as they are read. -/
def fields : List Field :=
  [.needed "jsonrpc" .string, .needed "method" .string, .omittable "params" .any]

/-- The members of a notification as they are printed. -/
def members (notification : Notification) : List (String × Value) :=
  [("jsonrpc", .string notification.version), ("method", .string notification.method)] ++
    optionalMember "params" notification.params

theorem ofValue?_toValue (notification : Notification) :
    ofValue? notification.toValue = some notification := by
  obtain ⟨version, method, params⟩ := notification
  cases params with
  | none =>
      simp [ofValue?, toValue, optionalMember, Value.get?, member?, Value.string?]
  | some value =>
      simp [ofValue?, toValue, optionalMember, Value.get?, member?, Value.string?]

end Notification

/-! ## Error objects -/

namespace ResponseError

/-- An error object as it arrives. -/
def arrived (error : ResponseError) : ResponseError :=
  { error with data := Json.arrived error.data }

/-- The fields of an error object as they are read. -/
def fields : List Field :=
  [.needed "code" .int64, .needed "message" .string, .omittable "data" .any]

/-- The members of an error object as they are printed. -/
def members (error : ResponseError) : List (String × Value) :=
  [("code", .ofInt64 error.code), ("message", .string error.message)] ++
    optionalMember "data" error.data

theorem ofValue?_toValue (error : ResponseError) : ofValue? error.toValue = some error := by
  obtain ⟨code, message, data⟩ := error
  have isCode : Int64.ofInt (Integer.ofInt64 code).value = code := Int64.ofInt_toInt code
  cases data with
  | none =>
      simp [ofValue?, toValue, optionalMember, Value.get?, member?, Value.string?,
        Value.integer?, Value.ofInt64, isCode]
  | some value =>
      simp [ofValue?, toValue, optionalMember, Value.get?, member?, Value.string?,
        Value.integer?, Value.ofInt64, isCode]

end ResponseError

/-! ## Responses -/

/-- What an outcome arrives as. -/
def arrivedOutcome : Except ResponseError Value → Except ResponseError Value
  | .ok value => .ok value.sorted
  | .error error => .error error.arrived

/-- A result whose members are in order arrives as it is. -/
theorem arrivedOutcome_ok
    {value : Value} (ordered : value.Ordered) : arrivedOutcome (.ok value) = .ok value := by
  rw [arrivedOutcome, ordered.sorted_eq]

namespace Response

/-- A response as it arrives. -/
def arrived (response : Response) : Response :=
  { response with
    result := Json.arrived response.result
    error := response.error.map ResponseError.arrived }

theorem arrived_ofOutcome (id : MessageId) (outcome : Except ResponseError Value) :
    (ofOutcome id outcome).arrived.id = id ∧
      (ofOutcome id outcome).arrived.outcome = arrivedOutcome outcome := by
  cases outcome with
  | ok value =>
      refine ⟨rfl, ?_⟩
      have isResult : (Json.arrived (some value)).getD .null = value.sorted := by
        rw [Json.arrived, Option.map_some]
        cases value.sorted <;> rfl
      exact congrArg Except.ok isResult
  | error error =>
      exact ⟨rfl, rfl⟩

/-- The fields of a response as they are read. -/
def fields : List Field :=
  [.needed "jsonrpc" .string, .needed "id" MessageId.schema, .omittable "result" .any,
    .omittable "error" ResponseError.schema]

/-- The members of a response as they are printed. -/
def members (response : Response) : List (String × Value) :=
  [("jsonrpc", .string response.version), ("id", response.id.toValue)] ++
    optionalMember "result" response.result ++
    optionalMember "error" (response.error.map ResponseError.toValue)

/-- A response stands for itself. -/
theorem ofValue?_toValue (response : Response) : ofValue? response.toValue = some response := by
  obtain ⟨version, id, result, error⟩ := response
  cases result <;> cases error <;>
    simp [ofValue?, toValue, optionalMember, Value.get?, member?, Value.string?,
      MessageId.ofValue?_toValue, ResponseError.ofValue?_toValue]

end Response

end RpcEndpoint
