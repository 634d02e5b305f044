import RpcEndpoint.Proofs.Json.Repetition
import RpcEndpoint.Proofs.Json.Values
import RpcEndpoint.Proofs.Message.Envelopes

/-!
# The grammar of envelopes

What a payload is taken for depends on what the fields of its object hold, and the value of a field
is the last one that is written for it. The keys announce one shape at most; the payload is a
message of that shape if its fields hold one, and otherwise it is refused for the first reason that
applies.
-/

namespace RpcEndpoint

open Json

/-- What the object that is written holds under a key: the last value, if there are several. -/
def lastOf (written : List (String × Value)) (key : String) : Option Value :=
  (member? key written.reverse).map Value.sorted

theorem member?_sorted (written : List (String × Value)) (key : String) :
    member? key (sortMembers (sortedMembers written)) = lastOf written key := by
  rw [member?_sortMembers, sortedMembers_eq, ← List.map_reverse, member?, List.find?_map, lastOf,
    member?, Option.map_map, Option.map_map]
  rfl

/-! ## What fields hold -/

/-- The value is an error object, or the array of its fields. -/
inductive ResponseError.Held : Value → ResponseError → Prop
  | object {members : List (String × Value)} {error : ResponseError}
      (code : member? "code" members = some (.ofInt64 error.code))
      (message : member? "message" members = some (.string error.message))
      (data : error.data = present (member? "data" members)) : Held (.object members) error
  | short (code : Int64) (message : String) :
      Held (.array [.ofInt64 code, .string message]) ⟨code, message, none⟩
  | full (code : Int64) (message : String) (data : Value) :
      Held (.array [.ofInt64 code, .string message, data]) ⟨code, message, present (some data)⟩

section Held

variable (field : String → Option Value)

/-- The fields of a response. -/
structure Response.Fields (response : Response) : Prop where
  version : field "jsonrpc" = some (.string response.version)
  id : field "id" = some response.id.toValue
  result : response.result = present (field "result")
  error : Option.Rel ResponseError.Held (present (field "error")) response.error

/-- A response is held if there is no method, and a result or an error, but not both. -/
structure Response.Held (response : Response) : Prop extends Response.Fields field response where
  noMethod : field "method" = none
  oneOutcome : (field "result").isSome ≠ (field "error").isSome

/-- The fields of a notification. -/
structure Notification.Fields (notification : Notification) : Prop where
  version : field "jsonrpc" = some (.string notification.version)
  method : field "method" = some (.string notification.method)
  params : notification.params = present (field "params")

/-- A notification is held if there is no identifier, not even null. -/
structure Notification.Held (notification : Notification) : Prop
    extends Notification.Fields field notification where
  noId : field "id" = none

/-- A request is held as soon as its fields are. -/
structure Request.Held (request : Request) : Prop where
  version : field "jsonrpc" = some (.string request.version)
  id : field "id" = some request.id.toValue
  method : field "method" = some (.string request.method)
  params : request.params = present (field "params")

/-- The message that the fields hold. -/
inductive Incoming.Held : Incoming → Prop
  | response {response : Response} (held : response.Held field) : Held (.response response)
  | notification {notification : Notification} (held : notification.Held field) :
      Held (.notification notification)
  | request {request : Request} (held : request.Held field) : Held (.request request)

/-- The keys announce an envelope of this shape. -/
def Shape.Announced : Shape → Prop
  | .response => (present (field "id")).isSome ∧ field "method" = none ∧
      (field "result").isSome ≠ (field "error").isSome
  | .notification => field "id" = none ∧ (field "method").isSome
  | .request => (present (field "id")).isSome ∧ (field "method").isSome

end Held

/-! ## Schemas and what they take -/

theorem MessageId.takes_schema : Takes schema (fun value id => value = id.toValue) toValue := by
  intro value read _
  rw [schema, Schema.ofValue, firstFit]
  cases isInteger : Schema.int64.ofValue true value with
  | ok taken =>
      obtain ⟨word, rfl, rfl⟩ := ofValue_int64_iff.mp isInteger
      constructor
      · rintro ⟨⟩
        exact ⟨.number word, rfl, rfl⟩
      · rintro ⟨id, same, rfl⟩
        rw [← same]
  | error cause =>
      -- What is no integer in range may still be a string.
      rw [firstFit]
      cases isString : Schema.string.ofValue true value with
      | ok taken =>
          obtain ⟨text, rfl, rfl⟩ := ofValue_string_iff.mp isString
          constructor
          · rintro ⟨⟩
            exact ⟨.string text, rfl, rfl⟩
          · rintro ⟨id, same, rfl⟩
            rw [← same]
      | error refusal =>
          rw [firstFit]
          constructor
          · intro isRead
            contradiction
          · rintro ⟨id, rfl, -⟩
            cases id with
            | number word =>
                cases isInteger.symm.trans (ofValue_int64_iff.mpr ⟨word, rfl, rfl⟩)
            | string text =>
                cases isString.symm.trans (ofValue_string_iff.mpr ⟨text, rfl, rfl⟩)

section Records

variable {members : List (String × Value)} {read : Value}

namespace ResponseError

theorem takes_object (ordered : (Value.object members).Ordered) :
    schema.ofValue false (.object members) = .ok read ↔
      ∃ error : ResponseError, Held (.object members) error ∧ error.toValue = read := by
  have distinct : (fields.map Field.name).Nodup := by decide
  have isRecord : schema = .record "ResponseError" fields := rfl
  have isOrdered {name : String} : ∀ value ∈ member? name members, value.Ordered :=
    fun _ => ordered.of_member?
  rw [isRecord, ofValue_fields_iff distinct ordered, fields]
  simp only [takeFields_cons, takeFields_nil, name_needed, name_omittable,
    take_needed takes_int64 rfl isOrdered, take_needed takes_string rfl isOrdered,
    take_anything isOrdered]
  constructor
  · rintro ⟨_, ⟨_, _, ⟨code, isCode, rfl⟩, ⟨_, _, ⟨message, isMessage, rfl⟩,
      ⟨_, _, rfl, rfl, rfl⟩, rfl⟩, rfl⟩, rfl⟩
    refine ⟨⟨code, message, present (member? "data" members)⟩, .object isCode isMessage rfl, ?_⟩
    simp [toValue]
  · rintro ⟨⟨code, message, _⟩, ⟨isCode, isMessage, rfl⟩, rfl⟩
    refine ⟨_, ⟨_, _, ⟨code, isCode, rfl⟩, ⟨_, _, ⟨message, isMessage, rfl⟩,
      ⟨_, _, rfl, rfl, rfl⟩, rfl⟩, rfl⟩, ?_⟩
    simp [toValue]

theorem takes_array {items : List Value} (ordered : (Value.array items).Ordered) :
    schema.ofValue false (.array items) = .ok read ↔
      ∃ error : ResponseError, Held (.array items) error ∧ error.toValue = read := by
  have isRecord : schema = .record "ResponseError" fields := rfl
  have isOrdered : ∀ value ∈ items, value.Ordered := by
    cases ordered
    assumption
  have itemOrdered {item : Value} (isItem : item ∈ items) :
      ∀ value ∈ some item, value.Ordered := by
    rintro _ ⟨⟩
    exact isOrdered item isItem
  rw [isRecord, ofValue_array_iff]
  -- Only the last field may be past the end, and none may be left behind the fields.
  match items with
  | [] =>
      constructor
      · rintro ⟨kept, -, isKept, -⟩
        exact absurd isKept fieldsOfItems_needed_nil
      · rintro ⟨_, ⟨⟩, -⟩
  | [first] =>
      constructor
      · rintro ⟨kept, -, isKept, -⟩
        obtain ⟨_, _, -, isTail, -⟩ := fieldsOfItems_cons.mp isKept
        exact absurd isTail fieldsOfItems_needed_nil
      · rintro ⟨_, ⟨⟩, -⟩
  | [first, second] =>
      have firstOrdered : ∀ value ∈ some first, value.Ordered := itemOrdered (by simp)
      have secondOrdered : ∀ value ∈ some second, value.Ordered := itemOrdered (by simp)
      rw [fields]
      simp only [fieldsOfItems_cons, fieldsOfItems_omittable_nil, fieldsOfItems_nil,
        take_needed takes_int64 rfl firstOrdered, take_needed takes_string rfl secondOrdered]
      constructor
      · rintro ⟨_, -, ⟨_, _, ⟨code, ⟨⟩, rfl⟩, ⟨_, _, ⟨message, ⟨⟩, rfl⟩, rfl, rfl⟩, rfl⟩, rfl⟩
        exact ⟨_, .short code message, rfl⟩
      · rintro ⟨_, ⟨⟩, rfl⟩
        rename_i code message
        exact ⟨_, by simp, ⟨_, _, ⟨code, rfl, rfl⟩, ⟨_, _, ⟨message, rfl, rfl⟩, rfl, rfl⟩, rfl⟩, rfl⟩
  | [first, second, third] =>
      have firstOrdered : ∀ value ∈ some first, value.Ordered := itemOrdered (by simp)
      have secondOrdered : ∀ value ∈ some second, value.Ordered := itemOrdered (by simp)
      have thirdOrdered : ∀ value ∈ some third, value.Ordered := itemOrdered (by simp)
      rw [fields]
      simp only [fieldsOfItems_cons, fieldsOfItems_nil, take_needed takes_int64 rfl firstOrdered,
        take_needed takes_string rfl secondOrdered, take_anything thirdOrdered]
      constructor
      · rintro ⟨_, -, ⟨_, _, ⟨code, ⟨⟩, rfl⟩, ⟨_, _, ⟨message, ⟨⟩, rfl⟩, ⟨_, _, rfl, rfl, rfl⟩, rfl⟩,
          rfl⟩, rfl⟩
        exact ⟨_, .full code message third, by simp [toValue]⟩
      · rintro ⟨_, ⟨⟩, rfl⟩
        rename_i code message
        exact ⟨_, by simp, ⟨_, _, ⟨code, rfl, rfl⟩, ⟨_, _, ⟨message, rfl, rfl⟩,
          ⟨_, _, rfl, rfl, rfl⟩, rfl⟩, rfl⟩, by simp [toValue]⟩
  | first :: second :: third :: fourth :: rest =>
      constructor
      · rintro ⟨kept, fits, -⟩
        simp only [fields, List.length_cons, List.length_nil] at fits
        omega
      · rintro ⟨_, ⟨⟩, -⟩

theorem takes_schema : Takes schema Held toValue := by
  intro value read ordered
  cases value with
  | object members => exact takes_object ordered
  | array items => exact takes_array ordered
  | _ =>
      constructor
      · intro isRead
        simp [schema, Schema.ofValue] at isRead
      · rintro ⟨_, isHeld, -⟩
        contradiction

/-- A value is one error object at most. -/
theorem Held.unique {value : Value} {error other : ResponseError} (isHeld : Held value error)
    (isOther : Held value other) : error = other := by
  cases isHeld with
  | object code message data =>
      cases isOther with
      | object otherCode otherMessage otherData =>
          have sameCode := ofInt64_injective (Option.some.inj (code.symm.trans otherCode))
          have sameMessage := Value.string.inj (Option.some.inj (message.symm.trans otherMessage))
          obtain ⟨_, _, _⟩ := error
          obtain ⟨_, _, _⟩ := other
          cases sameCode
          cases sameMessage
          cases data
          cases otherData
          rfl
  | short code message =>
      generalize isArray : Value.array [.ofInt64 code, .string message] = value at isOther
      cases isOther with
      | short otherCode otherMessage =>
          simp only [Value.array.injEq, List.cons.injEq, Value.string.injEq, and_true] at isArray
          obtain ⟨sameCode, rfl⟩ := isArray
          rw [ofInt64_injective sameCode]
      | _ => simp at isArray
  | full code message data =>
      generalize isArray : Value.array [.ofInt64 code, .string message, data] = value at isOther
      cases isOther with
      | full otherCode otherMessage otherData =>
          simp only [Value.array.injEq, List.cons.injEq, Value.string.injEq, and_true] at isArray
          obtain ⟨sameCode, rfl, rfl⟩ := isArray
          rw [ofInt64_injective sameCode]
      | _ => simp at isArray

theorem Held.isNull {value : Value} {error : ResponseError} (isHeld : Held value error) :
    value.isNull = false := by
  cases isHeld <;> rfl

end ResponseError

/-! ## Envelopes -/

theorem Request.decode_iff (ordered : (Value.object members).Ordered) {request : Request} :
    Interpretation.decode (.object members) = .ok request ↔
      request.Held fun key => member? key members := by
  refine decode_data_iff toValue (fun read => ?_) ofValue?_toValue
  have distinct : (fields.map Field.name).Nodup := by decide
  have isRecord : Interpretation.schema Request = .record "JsonRpcRequest" fields := rfl
  have isOrdered {name : String} : ∀ value ∈ member? name members, value.Ordered :=
    fun _ => ordered.of_member?
  rw [isRecord, ofValue_fields_iff distinct ordered, fields]
  simp only [takeFields_cons, takeFields_nil, name_needed, name_omittable,
    take_needed takes_string rfl isOrdered, take_needed MessageId.takes_schema rfl isOrdered,
    take_anything isOrdered]
  constructor
  · rintro ⟨_, ⟨_, _, ⟨version, isVersion, rfl⟩, ⟨_, _, ⟨id, isId, rfl⟩,
      ⟨_, _, ⟨method, isMethod, rfl⟩, ⟨_, _, rfl, rfl, rfl⟩, rfl⟩, rfl⟩, rfl⟩, rfl⟩
    refine ⟨⟨version, id, method, present (member? "params" members)⟩,
      ⟨isVersion, isId, isMethod, rfl⟩, ?_⟩
    simp [toValue]
  · rintro ⟨⟨version, id, method, _⟩, ⟨isVersion, isId, isMethod, rfl⟩, rfl⟩
    refine ⟨_, ⟨_, _, ⟨version, isVersion, rfl⟩, ⟨_, _, ⟨id, isId, rfl⟩,
      ⟨_, _, ⟨method, isMethod, rfl⟩, ⟨_, _, rfl, rfl, rfl⟩, rfl⟩, rfl⟩, rfl⟩, ?_⟩
    simp [toValue]

namespace Notification

theorem decode_iff (ordered : (Value.object members).Ordered) {notification : Notification} :
    Interpretation.decode (.object members) = .ok notification ↔
      notification.Fields fun key => member? key members := by
  refine decode_data_iff toValue (fun read => ?_) ofValue?_toValue
  have distinct : (fields.map Field.name).Nodup := by decide
  have isRecord : Interpretation.schema Notification = .record "JsonRpcNotification" fields := rfl
  have isOrdered {name : String} : ∀ value ∈ member? name members, value.Ordered :=
    fun _ => ordered.of_member?
  rw [isRecord, ofValue_fields_iff distinct ordered, fields]
  simp only [takeFields_cons, takeFields_nil, name_needed, name_omittable,
    take_needed takes_string rfl isOrdered, take_anything isOrdered]
  constructor
  · rintro ⟨_, ⟨_, _, ⟨version, isVersion, rfl⟩, ⟨_, _, ⟨method, isMethod, rfl⟩,
      ⟨_, _, rfl, rfl, rfl⟩, rfl⟩, rfl⟩, rfl⟩
    refine ⟨⟨version, method, present (member? "params" members)⟩,
      ⟨isVersion, isMethod, rfl⟩, ?_⟩
    simp [toValue]
  · rintro ⟨⟨version, method, _⟩, ⟨isVersion, isMethod, rfl⟩, rfl⟩
    refine ⟨_, ⟨_, _, ⟨version, isVersion, rfl⟩, ⟨_, _, ⟨method, isMethod, rfl⟩,
      ⟨_, _, rfl, rfl, rfl⟩, rfl⟩, rfl⟩, ?_⟩
    simp [toValue]

end Notification

namespace Response

theorem decode_iff (ordered : (Value.object members).Ordered) {response : Response} :
    Interpretation.decode (.object members) = .ok response ↔
      response.Fields fun key => member? key members := by
  refine decode_data_iff toValue (fun read => ?_) ofValue?_toValue
  have distinct : (fields.map Field.name).Nodup := by decide
  have isRecord : Interpretation.schema Response = .record "JsonRpcResponse" fields := rfl
  have isOrdered {name : String} : ∀ value ∈ member? name members, value.Ordered :=
    fun _ => ordered.of_member?
  have notNull : ∀ (value : Value) (error : ResponseError), ResponseError.Held value error →
      value.isNull = false → error.toValue.isNull = false := fun _ _ _ _ => rfl
  rw [isRecord, ofValue_fields_iff distinct ordered, fields]
  simp only [takeFields_cons, takeFields_nil, name_needed, name_omittable,
    take_needed takes_string rfl isOrdered, take_needed MessageId.takes_schema rfl isOrdered,
    take_omittable ResponseError.takes_schema notNull isOrdered, take_anything isOrdered]
  constructor
  · rintro ⟨_, ⟨_, _, ⟨version, isVersion, rfl⟩, ⟨_, _, ⟨id, isId, rfl⟩,
      ⟨_, _, rfl, ⟨_, _, ⟨error, isError, rfl⟩, rfl, rfl⟩, rfl⟩, rfl⟩, rfl⟩, rfl⟩
    refine ⟨⟨version, id, present (member? "result" members), error⟩,
      ⟨isVersion, isId, rfl, isError⟩, ?_⟩
    simp [toValue]
  · rintro ⟨⟨version, id, _, error⟩, ⟨isVersion, isId, rfl, isError⟩, rfl⟩
    refine ⟨_, ⟨_, _, ⟨version, isVersion, rfl⟩, ⟨_, _, ⟨id, isId, rfl⟩,
      ⟨_, _, rfl, ⟨_, _, ⟨error, isError, rfl⟩, rfl, rfl⟩, rfl⟩, rfl⟩, rfl⟩, ?_⟩
    simp [toValue]

end Response

/-! ## Shapes -/

/-- An object is taken for the shape that its keys announce, which is one at most. -/
theorem Shape.ofMembers?_eq_some_iff {shape : Shape} :
    ofMembers? members = some shape ↔ shape.Announced fun key => member? key members := by
  have flags : ofMembers? members =
      if (present (member? "id" members)).isSome && !(member? "method" members).isSome &&
        ((member? "result" members).isSome != (member? "error" members).isSome) then some .response
      else if (member? "method" members).isSome && !(member? "id" members).isSome then
        some .notification
      else if (member? "method" members).isSome && (present (member? "id" members)).isSome then
        some .request
      else none := by
    rw [ofMembers?]
    -- The tests in the definition depend on the identifier, so it cannot be generalized there.
    rcases Option.eq_none_or_eq_some (member? "id" members) with found | ⟨id, found⟩
    · simp only [found]
      rfl
    · simp only [found]
      cases id <;> rfl
  have identified : (present (member? "id" members)).isSome → (member? "id" members).isSome := by
    cases member? "id" members with
    | none => exact id
    | some id => exact fun _ => rfl
  rw [flags]
  revert identified
  cases shape
  -- Only five flags are left, of which the first implies the second.
  all_goals
    simp only [Announced, ← Option.not_isSome_iff_eq_none]
    generalize (present (member? "id" members)).isSome = isIdentified
    generalize (member? "id" members).isSome = hasId
    generalize (member? "method" members).isSome = hasMethod
    generalize (member? "result" members).isSome = hasResult
    generalize (member? "error" members).isSome = hasError
    revert isIdentified hasId hasMethod hasResult hasError
    decide

end Records

section Announced

variable {field : String → Option Value}

theorem isSome_present_id {id : MessageId} (isId : field "id" = some id.toValue) :
    (present (field "id")).isSome := by
  rw [isId, present, Option.filter_some, id.isNull_toValue]
  rfl

theorem Response.Held.announced {response : Response} (isHeld : response.Held field) :
    Shape.response.Announced field :=
  ⟨isSome_present_id isHeld.id, isHeld.noMethod, isHeld.oneOutcome⟩

theorem Notification.Held.announced {notification : Notification}
    (isHeld : notification.Held field) : Shape.notification.Announced field :=
  ⟨isHeld.noId, by rw [isHeld.method]; rfl⟩

theorem Request.Held.announced {request : Request} (isHeld : request.Held field) :
    Shape.request.Announced field :=
  ⟨isSome_present_id isHeld.id, by rw [isHeld.method]; rfl⟩

theorem Incoming.Held.announced {message : Incoming} (isHeld : message.Held field) :
    ∃ shape : Shape, shape.Announced field := by
  cases isHeld with
  | response held => exact ⟨_, held.announced⟩
  | notification held => exact ⟨_, held.announced⟩
  | request held => exact ⟨_, held.announced⟩

end Announced

/-! ## Payloads -/

namespace Incoming

section Envelopes

variable {α : Type} [Interpretation α] {wrap : α → Incoming} {envelope : Value}

theorem ofEnvelope_ok {message : α} (isDecoded : Interpretation.decode envelope = .ok message) :
    ofEnvelope wrap envelope = wrap message := by
  rw [ofEnvelope, isDecoded]

theorem ofEnvelope_refused
    (notDecoded : ∀ message : α, Interpretation.decode envelope ≠ .ok message) :
    ∃ fault, ofEnvelope wrap envelope = .unrecognized (.invalidEnvelope fault) := by
  cases isDecoded : (Interpretation.decode envelope : Except Fault α) with
  | ok message => exact absurd isDecoded (notDecoded message)
  | error fault => exact ⟨fault, by rw [ofEnvelope, isDecoded]⟩

end Envelopes

section Members

variable {members : List (String × Value)}

theorem ofMembers_of_held (ordered : (Value.object members).Ordered) {message : Incoming}
    (isHeld : message.Held fun key => member? key members) : ofMembers members = message := by
  rw [ofMembers]
  cases isHeld with
  | response held =>
      rw [Shape.ofMembers?_eq_some_iff.mpr held.announced]
      exact ofEnvelope_ok ((Response.decode_iff ordered).mpr held.toFields)
  | notification held =>
      rw [Shape.ofMembers?_eq_some_iff.mpr held.announced]
      exact ofEnvelope_ok ((Notification.decode_iff ordered).mpr held.toFields)
  | request held =>
      rw [Shape.ofMembers?_eq_some_iff.mpr held.announced]
      exact ofEnvelope_ok ((Request.decode_iff ordered).mpr held)

theorem ofMembers_of_unknown
    (noShape : ∀ shape : Shape, ¬shape.Announced fun key => member? key members) :
    ofMembers members = .unrecognized .unknownShape := by
  have isNone : Shape.ofMembers? members = none := by
    cases isShape : Shape.ofMembers? members with
    | none => rfl
    | some shape => exact absurd (Shape.ofMembers?_eq_some_iff.mp isShape) (noShape shape)
  rw [ofMembers, isNone]

theorem ofMembers_of_refused (ordered : (Value.object members).Ordered) {shape : Shape}
    (announced : shape.Announced fun key => member? key members)
    (notHeld : ∀ message : Incoming, ¬message.Held fun key => member? key members) :
    ∃ fault, ofMembers members = .unrecognized (.invalidEnvelope fault) := by
  rw [ofMembers, Shape.ofMembers?_eq_some_iff.mpr announced]
  cases shape with
  | response =>
      refine ofEnvelope_refused fun response isDecoded => notHeld (.response response) ?_
      exact .response ⟨(Response.decode_iff ordered).mp isDecoded, announced.2.1, announced.2.2⟩
  | notification =>
      refine ofEnvelope_refused fun notification isDecoded =>
        notHeld (.notification notification) ?_
      exact .notification ⟨(Notification.decode_iff ordered).mp isDecoded, announced.1⟩
  | request =>
      refine ofEnvelope_refused fun request isDecoded => notHeld (.request request) ?_
      exact .request ((Request.decode_iff ordered).mp isDecoded)

end Members

variable {payload : Bytes} {written : List (String × Value)}

/-- What is written for an object is classified by the members that stay when they are sorted. -/
theorem classify_written (isWritten : parseWritten payload = .ok (.object written)) :
    ∃ members, classify payload = ofMembers members ∧ (Value.object members).Ordered ∧
      (fun key => member? key members) = lastOf written := by
  have isParsed : parse payload = .ok (Value.object written).sorted :=
    parse_iff_written.mpr ⟨_, isWritten, rfl⟩
  rw [Value.sorted] at isParsed
  refine ⟨sortMembers (sortedMembers written), ?_, Value.ordered_sorted (.object written),
    funext (member?_sorted written)⟩
  rw [classify, isParsed]

theorem classify_of_held (isWritten : parseWritten payload = .ok (.object written))
    {message : Incoming} (isHeld : message.Held (lastOf written)) :
    classify payload = message := by
  obtain ⟨members, isClassified, ordered, same⟩ := classify_written isWritten
  rw [isClassified]
  exact ofMembers_of_held ordered (same ▸ isHeld)

theorem classify_of_unknown (isWritten : parseWritten payload = .ok (.object written))
    (noShape : ∀ shape : Shape, ¬shape.Announced (lastOf written)) :
    classify payload = .unrecognized .unknownShape := by
  obtain ⟨members, isClassified, -, same⟩ := classify_written isWritten
  rw [isClassified]
  exact ofMembers_of_unknown (same ▸ noShape)

theorem classify_of_refused (isWritten : parseWritten payload = .ok (.object written))
    {shape : Shape} (announced : shape.Announced (lastOf written))
    (notHeld : ∀ message : Incoming, ¬message.Held (lastOf written)) :
    ∃ fault, classify payload = .unrecognized (.invalidEnvelope fault) := by
  obtain ⟨members, isClassified, ordered, same⟩ := classify_written isWritten
  rw [isClassified]
  exact ofMembers_of_refused ordered (same ▸ announced) (same ▸ notHeld)

theorem classify_of_fault {fault : Fault} (notParsed : parse payload = .error fault) :
    classify payload = .unrecognized (.invalidJson fault) := by
  rw [classify, notParsed]

theorem classify_of_value {value : Value} (isParsed : parse payload = .ok value)
    (noObject : ∀ members, value ≠ .object members) :
    classify payload = .unrecognized .notAnObject := by
  rw [classify, isParsed]
  cases value with
  | object members => exact absurd rfl (noObject members)
  | _ => rfl

/-- What a payload can be taken for, and why. -/
inductive Classified (payload : Bytes) : Incoming → Prop
  | fault {fault : Fault} (notParsed : parse payload = .error fault) :
      Classified payload (.unrecognized (.invalidJson fault))
  | value {value : Value} (isParsed : parse payload = .ok value)
      (noObject : ∀ members, value ≠ .object members) :
      Classified payload (.unrecognized .notAnObject)
  | unknown {written : List (String × Value)}
      (isWritten : parseWritten payload = .ok (.object written))
      (noShape : ∀ shape : Shape, ¬shape.Announced (lastOf written)) :
      Classified payload (.unrecognized .unknownShape)
  | refused {written : List (String × Value)} {shape : Shape} {fault : Fault}
      (isWritten : parseWritten payload = .ok (.object written))
      (announced : shape.Announced (lastOf written))
      (notHeld : ∀ message : Incoming, ¬message.Held (lastOf written)) :
      Classified payload (.unrecognized (.invalidEnvelope fault))
  | held {written : List (String × Value)} {message : Incoming}
      (isWritten : parseWritten payload = .ok (.object written))
      (isHeld : message.Held (lastOf written)) : Classified payload message

theorem classified (payload : Bytes) : Classified payload (classify payload) := by
  cases isParsed : parse payload with
  | error fault =>
      rw [classify_of_fault isParsed]
      exact .fault isParsed
  | ok value =>
      obtain ⟨whole, isWritten, isSorted⟩ := parse_iff_written.mp isParsed
      cases whole with
      | object written =>
          by_cases someHeld : ∃ message : Incoming, message.Held (lastOf written)
          · obtain ⟨message, isHeld⟩ := someHeld
            rw [classify_of_held isWritten isHeld]
            exact .held isWritten isHeld
          · have notHeld := not_exists.mp someHeld
            by_cases someShape : ∃ shape : Shape, shape.Announced (lastOf written)
            · obtain ⟨shape, announced⟩ := someShape
              obtain ⟨fault, isRefused⟩ := classify_of_refused isWritten announced notHeld
              rw [isRefused]
              exact .refused isWritten announced notHeld
            · have noShape := not_exists.mp someShape
              rw [classify_of_unknown isWritten noShape]
              exact .unknown isWritten noShape
      | _ =>
          have noObject : ∀ members, value ≠ .object members := by
            rintro members rfl
            contradiction
          rw [classify_of_value isParsed noObject]
          exact .value isParsed noObject

/-- A payload is a message exactly if it is an object whose fields hold that message, and otherwise
the reason why it is none is the first that applies: it is no text, no object, of no shape, or of a
shape that its fields do not fill. -/
theorem payloads_are_told_by_their_fields (payload : Bytes) :
    (∀ response, classify payload = .response response ↔
      ∃ written, parseWritten payload = .ok (.object written) ∧
        response.Held (lastOf written)) ∧
    (∀ notification, classify payload = .notification notification ↔
      ∃ written, parseWritten payload = .ok (.object written) ∧
        notification.Held (lastOf written)) ∧
    (∀ request, classify payload = .request request ↔
      ∃ written, parseWritten payload = .ok (.object written) ∧
        request.Held (lastOf written)) ∧
    (∀ fault, classify payload = .unrecognized (.invalidJson fault) ↔
      parse payload = .error fault) ∧
    (classify payload = .unrecognized .notAnObject ↔
      ∃ value, parse payload = .ok value ∧ ∀ members, value ≠ .object members) ∧
    (classify payload = .unrecognized .unknownShape ↔
      ∃ written, parseWritten payload = .ok (.object written) ∧
        ∀ shape : Shape, ¬shape.Announced (lastOf written)) ∧
    ((∃ fault, classify payload = .unrecognized (.invalidEnvelope fault)) ↔
      ∃ written, parseWritten payload = .ok (.object written) ∧
        (∃ shape : Shape, shape.Announced (lastOf written)) ∧
        ∀ message : Incoming, ¬message.Held (lastOf written)) := by
  have known {message : Incoming} (isClassified : classify payload = message) :
      Classified payload message := isClassified ▸ classified payload
  refine ⟨fun response => ⟨fun isResponse => ?_, ?_⟩,
    fun notification => ⟨fun isNotification => ?_, ?_⟩,
    fun request => ⟨fun isRequest => ?_, ?_⟩, fun fault => ⟨fun isFault => ?_, classify_of_fault⟩,
    ⟨fun isValue => ?_, ?_⟩, ⟨fun isUnknown => ?_, ?_⟩, ⟨?_, ?_⟩⟩
  · cases known isResponse with
    | held isWritten isHeld =>
        cases isHeld with
        | response held => exact ⟨_, isWritten, held⟩
  · rintro ⟨written, isWritten, held⟩
    exact classify_of_held isWritten (.response held)
  · cases known isNotification with
    | held isWritten isHeld =>
        cases isHeld with
        | notification held => exact ⟨_, isWritten, held⟩
  · rintro ⟨written, isWritten, held⟩
    exact classify_of_held isWritten (.notification held)
  · cases known isRequest with
    | held isWritten isHeld =>
        cases isHeld with
        | request held => exact ⟨_, isWritten, held⟩
  · rintro ⟨written, isWritten, held⟩
    exact classify_of_held isWritten (.request held)
  · cases known isFault with
    | fault notParsed => exact notParsed
    | held _ isHeld => nomatch isHeld
  · cases known isValue with
    | value isParsed noObject => exact ⟨_, isParsed, noObject⟩
    | held _ isHeld => nomatch isHeld
  · rintro ⟨value, isParsed, noObject⟩
    exact classify_of_value isParsed noObject
  · cases known isUnknown with
    | unknown isWritten noShape => exact ⟨_, isWritten, noShape⟩
    | held _ isHeld => nomatch isHeld
  · rintro ⟨written, isWritten, noShape⟩
    exact classify_of_unknown isWritten noShape
  · rintro ⟨fault, isRefused⟩
    cases known isRefused with
    | refused isWritten announced notHeld => exact ⟨_, isWritten, ⟨_, announced⟩, notHeld⟩
    | held _ isHeld => nomatch isHeld
  · rintro ⟨written, isWritten, ⟨shape, announced⟩, notHeld⟩
    exact classify_of_refused isWritten announced notHeld

end Incoming

/-! ## Outcomes -/

namespace Response

variable {field : String → Option Value} {response : Response}

theorem eq_none_of_rel {α β : Type} {related : α → β → Prop} {held : Option β}
    (isRelated : Option.Rel related none held) : held = none := by
  cases isRelated
  rfl

/-- A response holds its result, or an error that is null, or an error object. -/
theorem Held.outcome_cases (isHeld : response.Held field) :
    (∃ result, field "result" = some result ∧ field "error" = none ∧
      response.outcome = .ok result) ∨
    (field "result" = none ∧ field "error" = some .null ∧ response.outcome = .ok .null) ∨
    ∃ value error, field "result" = none ∧ field "error" = some value ∧
      ResponseError.Held value error ∧ response.outcome = .error error := by
  have isResult := isHeld.result
  have isError := isHeld.error
  have oneOutcome := isHeld.oneOutcome
  rw [outcome]
  cases result : field "result" with
  | some value =>
      have noError : field "error" = none := by simpa [result] using oneOutcome
      rw [noError] at isError
      have isNone := eq_none_of_rel isError
      refine .inl ⟨value, rfl, noError, ?_⟩
      rw [isNone, isResult, result]
      cases value <;> rfl
  | none =>
      obtain ⟨value, isValue⟩ : ∃ value, field "error" = some value := by
        simpa [result, Option.ne_none_iff_exists'] using oneOutcome
      rw [isResult, result]
      rw [isValue] at isError ⊢
      by_cases isNull : value = .null
      · subst isNull
        have isNone := eq_none_of_rel isError
        exact .inr (.inl ⟨rfl, rfl, by rw [isNone]; rfl⟩)
      · have isPresent : present (some value) = some value := by
          cases value <;> first | contradiction | rfl
        rw [isPresent] at isError
        cases kept : response.error with
        | none =>
            rw [kept] at isError
            contradiction
        | some error =>
            rw [kept, Option.rel_some_some] at isError
            exact .inr (.inr ⟨value, error, rfl, rfl, isError, rfl⟩)

/-- A response fails with the error object that it holds. -/
theorem Held.failed_iff (isHeld : response.Held field) {error : ResponseError} :
    response.outcome = .error error ↔
      ∃ value, field "error" = some value ∧ ResponseError.Held value error := by
  rcases isHeld.outcome_cases with ⟨result, -, noError, isOutcome⟩ | ⟨-, isNull, isOutcome⟩ |
    ⟨value, kept, -, isValue, isKept, isOutcome⟩
  · simp [noError, isOutcome]
  · simp only [isOutcome, isNull, Option.some.injEq, exists_eq_left', reduceCtorEq, false_iff]
    nofun
  · rw [isOutcome, Except.error.injEq]
    constructor
    · rintro rfl
      exact ⟨value, isValue, isKept⟩
    · rintro ⟨other, isOther, isHeld⟩
      cases isValue.symm.trans isOther
      exact isKept.unique isHeld

/-- A response succeeds with its result, and with null if the error that it holds is null. -/
theorem Held.succeeded_iff (isHeld : response.Held field) {result : Value} :
    response.outcome = .ok result ↔
      field "result" = some result ∨ field "error" = some .null ∧ result = .null := by
  rcases isHeld.outcome_cases with ⟨kept, isResult, noError, isOutcome⟩ |
    ⟨noResult, isNull, isOutcome⟩ | ⟨value, kept, noResult, isValue, isKept, isOutcome⟩
  · simp [isOutcome, isResult, noError]
  · simp [isOutcome, noResult, isNull, eq_comm]
  · have notNull : value ≠ .null := by
      rintro rfl
      contradiction
    simp [isOutcome, noResult, isValue, notNull]

/-- The outcome of a response follows its fields: it is the error object that is held, or else the
result that is; only an error that is null leaves nothing but null. -/
theorem outcome_follows_fields {payload : Bytes} {response : Response}
    (isResponse : Incoming.classify payload = .response response) :
    ∃ written, parseWritten payload = .ok (.object written) ∧
      (∀ error, response.outcome = .error error ↔
        ∃ value, lastOf written "error" = some value ∧ ResponseError.Held value error) ∧
      ∀ result, response.outcome = .ok result ↔
        lastOf written "result" = some result ∨
          lastOf written "error" = some .null ∧ result = .null := by
  have isClassified := Incoming.classified payload
  rw [isResponse] at isClassified
  cases isClassified with
  | held isWritten isHeld =>
      cases isHeld with
      | response held =>
          exact ⟨_, isWritten, fun _ => held.failed_iff, fun _ => held.succeeded_iff⟩

/-- An answer that says why a request has failed. -/
def refusal : Bytes :=
  "\x7b\"jsonrpc\":\"2.0\",\"id\":1,\"error\":\x7b\"code\":-32601,\"message\":\"gone\"\x7d\x7d".toUTF8.toList

def refusalFields : List (String × Value) :=
  [("jsonrpc", .string "2.0"), ("id", .ofInt64 1),
    ("error", .object [("code", .ofInt64 (-32601)), ("message", .string "gone")])]

/-- An answer that says why is a failure. -/
theorem refusal_is_failure :
    ∃ response, Incoming.classify refusal = .response response ∧
      response.outcome = .error ⟨-32601, "gone", none⟩ := by
  have isPrinted : refusal = (Value.object refusalFields).encode := by decide +kernel
  have isWritten : parseWritten refusal = .ok (.object refusalFields) := by
    rw [isPrinted]
    exact parseWritten_encode rfl
  have errorHeld : ∃ value, lastOf refusalFields "error" = some value ∧
      ResponseError.Held value ⟨-32601, "gone", none⟩ := ⟨_, rfl, .object rfl rfl rfl⟩
  have isHeld : Held (lastOf refusalFields)
      ⟨"2.0", .number 1, none, some ⟨-32601, "gone", none⟩⟩ :=
    ⟨⟨rfl, rfl, rfl, .some (.object rfl rfl rfl)⟩, rfl, by decide⟩
  have isResponse := Incoming.classify_of_held isWritten (.response isHeld)
  obtain ⟨written, isParsed, failed, -⟩ := outcome_follows_fields isResponse
  cases isWritten.symm.trans isParsed
  exact ⟨_, isResponse, (failed _).mpr errorHeld⟩

/-- An answer whose error is null. -/
def nullError : Bytes :=
  "\x7b\"jsonrpc\":\"2.0\",\"id\":1,\"error\":null\x7d".toUTF8.toList

def nullErrorFields : List (String × Value) :=
  [("jsonrpc", .string "2.0"), ("id", .ofInt64 1), ("error", .null)]

/-- An answer whose error is null is taken for a success, although it has an error and no result. -/
theorem null_error_is_success :
    ∃ written response, parseWritten nullError = .ok (.object written) ∧
      Incoming.classify nullError = .response response ∧
      (lastOf written "error").isSome ∧ lastOf written "result" = none ∧
      response.outcome = .ok .null := by
  have isPrinted : nullError = (Value.object nullErrorFields).encode := by decide +kernel
  have isWritten : parseWritten nullError = .ok (.object nullErrorFields) := by
    rw [isPrinted]
    exact parseWritten_encode rfl
  have isHeld : Held (lastOf nullErrorFields) ⟨"2.0", .number 1, none, none⟩ :=
    ⟨⟨rfl, rfl, rfl, .none⟩, rfl, by decide⟩
  exact ⟨_, _, isWritten, Incoming.classify_of_held isWritten (.response isHeld), rfl, rfl, rfl⟩

end Response

end RpcEndpoint
