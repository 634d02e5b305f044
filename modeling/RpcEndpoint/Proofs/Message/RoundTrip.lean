import RpcEndpoint.Proofs.Message.Classification

/-!
# Messages on the wire

A message that is printed is taken for what it is, with a null that is left out. So the text tells
messages apart as far as they differ in more than that.
-/

namespace RpcEndpoint

open Json

/-! ## Printed fields -/

/-- The members of a request hold what arrives of it. -/
theorem Request.held_arrived (request : Request) :
    request.arrived.Held (lastOf request.members) := by
  obtain ⟨version, id, method, params⟩ := request
  constructor
  · cases params <;> rfl
  · cases params <;> cases id <;> rfl
  · cases params <;> rfl
  · cases params <;> rfl

theorem Notification.held_arrived (notification : Notification) :
    notification.arrived.Held (lastOf notification.members) := by
  obtain ⟨version, method, params⟩ := notification
  refine ⟨⟨?_, ?_, ?_⟩, ?_⟩
  all_goals cases params <;> rfl

/-- An error object holds what arrives of it. -/
theorem ResponseError.held_arrived (error : ResponseError) :
    Held error.toValue.sorted error.arrived := by
  have isSorted : error.toValue.sorted = .object (sortMembers (sortedMembers error.members)) := rfl
  obtain ⟨code, message, data⟩ := error
  rw [isSorted]
  refine .object ?_ ?_ ?_
  all_goals
    rw [member?_sorted]
    cases data <;> rfl

theorem Response.held_arrived {response : Response}
    (oneOutcome : response.result.isSome ≠ response.error.isSome) :
    response.arrived.Held (lastOf response.members) := by
  obtain ⟨version, id, result, error⟩ := response
  cases result with
  | none =>
      cases error with
      | none => contradiction
      | some error =>
          refine ⟨⟨rfl, ?_, rfl, .some error.held_arrived⟩, rfl, nofun⟩
          exact congrArg some id.sorted_toValue
  | some result =>
      cases error with
      | none =>
          refine ⟨⟨rfl, ?_, rfl, .none⟩, rfl, nofun⟩
          exact congrArg some id.sorted_toValue
      | some error => contradiction

/-! ## Printed messages -/

/-- A request that was printed is taken for what arrives of it. -/
theorem classify_request
    (request : Request) (plain : request.toValue.plain nestingLimit = true) :
    Incoming.classify request.toValue.encode = .request request.arrived :=
  Incoming.classify_of_held (parseWritten_encode plain) (.request request.held_arrived)

theorem classify_notification
    (notification : Notification) (plain : notification.toValue.plain nestingLimit = true) :
    Incoming.classify notification.toValue.encode = .notification notification.arrived :=
  Incoming.classify_of_held (parseWritten_encode plain) (.notification notification.held_arrived)

/-- A response that was printed is taken for a response to the same request. -/
theorem Response.classify_response
    (id : MessageId) {outcome : Except ResponseError Value}
    (plain : (ofOutcome id outcome).toValue.plain nestingLimit = true) :
    Incoming.classify (ofOutcome id outcome).toValue.encode =
      .response (ofOutcome id outcome).arrived := by
  have oneOutcome : (ofOutcome id outcome).result.isSome ≠ (ofOutcome id outcome).error.isSome := by
    cases outcome <;> exact nofun
  exact Incoming.classify_of_held (parseWritten_encode plain) (.response (held_arrived oneOutcome))

/-! ## What messages say -/

/-- What is put together to be sent. -/
inductive Composed where
  | request (id : MessageId) (method : String) (params : Option Value)
  | notification (method : String) (params : Option Value)
  | success (id : MessageId) (result : Value)
  | failure (id : MessageId) (error : ResponseError)

namespace Composed

/-- The message as it is printed. -/
def toValue : Composed → Value
  | request id method params => (Request.new id method params).toValue
  | notification method params => (Notification.new method params).toValue
  | success id result => (Response.success id result).toValue
  | failure id error => (Response.failure id error).toValue

/-- The message without the params or the data of an error that are null. -/
def normal : Composed → Composed
  | request id method params => request id method (present params)
  | notification method params => notification method (present params)
  | success id result => success id result
  | failure id error => failure id { error with data := present error.data }

/-- The members of every object that is sent are in order. -/
def Ordered : Composed → Prop
  | request _ _ params => ∀ value ∈ params, value.Ordered
  | notification _ params => ∀ value ∈ params, value.Ordered
  | success _ result => result.Ordered
  | failure _ error => ∀ value ∈ error.data, value.Ordered

end Composed

/-- What a payload says, if it is a message. -/
def Incoming.said? : Incoming → Option Composed
  | .request held => some (.request held.id held.method held.params)
  | .notification held => some (.notification held.method held.params)
  | .response held =>
    match held.outcome with
    | .ok result => some (.success held.id result)
    | .error error => some (.failure held.id error)
  | .unrecognized _ => none

namespace Composed

/-- A message says on arrival what it was put together from. -/
theorem said?_classify {message : Composed} (ordered : message.Ordered)
    (plain : message.toValue.plain nestingLimit = true) :
    (Incoming.classify message.toValue.encode).said? = some message.normal := by
  cases message with
  | request id method params =>
      rw [toValue, classify_request _ plain, normal, ← arrived_eq_present ordered]
      rfl
  | notification method params =>
      rw [toValue, classify_notification _ plain, normal, ← arrived_eq_present ordered]
      rfl
  | success id result =>
      have isPrinted : toValue (.success id result) =
          (Response.ofOutcome id (.ok result)).toValue := rfl
      obtain ⟨sameId, isOutcome⟩ := Response.arrived_ofOutcome id (.ok result)
      rw [arrivedOutcome_ok ordered] at isOutcome
      rw [isPrinted] at plain ⊢
      rw [Response.classify_response id plain, Incoming.said?, isOutcome, sameId, normal]
  | failure id error =>
      have isPrinted : toValue (.failure id error) =
          (Response.ofOutcome id (.error error)).toValue := rfl
      obtain ⟨sameId, isOutcome⟩ := Response.arrived_ofOutcome id (.error error)
      rw [arrivedOutcome, ResponseError.arrived, arrived_eq_present ordered] at isOutcome
      rw [isPrinted] at plain ⊢
      rw [Response.classify_response id plain, Incoming.said?, isOutcome, sameId, normal]

/-- What is sent says on arrival what it was put together from, and nothing else is printed the same
way: a null that is left out makes no difference, and every other difference is kept. -/
theorem messages_survive_the_wire {message : Composed} (ordered : message.Ordered)
    (plain : message.toValue.plain nestingLimit = true) :
    (Incoming.classify message.toValue.encode).said? = some message.normal ∧
      ∀ other : Composed, other.Ordered → other.toValue.plain nestingLimit = true →
        other.toValue.encode = message.toValue.encode → other.normal = message.normal := by
  refine ⟨said?_classify ordered plain, fun other otherOrdered otherPlain samePrint => ?_⟩
  have isSaid := said?_classify otherOrdered otherPlain
  rw [samePrint, said?_classify ordered plain] at isSaid
  exact (Option.some.inj isSaid).symm

/-- An error whose data are null arrives without data. -/
theorem refusal_survives_the_wire :
    (Incoming.classify (failure (.string "a") ⟨-32601, "gone", some .null⟩).toValue.encode).said? =
        some (failure (.string "a") ⟨-32601, "gone", none⟩) ∧
      ∀ other : Composed, other.Ordered → other.toValue.plain nestingLimit = true →
        other.toValue.encode = (failure (.string "a") ⟨-32601, "gone", some .null⟩).toValue.encode →
        other.normal = failure (.string "a") ⟨-32601, "gone", none⟩ := by
  have ordered : (failure (.string "a") ⟨-32601, "gone", some .null⟩).Ordered := by
    rintro value ⟨⟩
    exact .null
  exact messages_survive_the_wire ordered rfl

end Composed

end RpcEndpoint
