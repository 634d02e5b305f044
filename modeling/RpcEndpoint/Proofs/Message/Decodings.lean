import RpcEndpoint.Connection.Reaction
import RpcEndpoint.Proofs.Message.RoundTrip

/-!
# Two decodings of a response

A response is decoded twice: it is classified by the value of its payload, and its owner reads the
payload itself. Both find the same answer unless a field of the envelope or of its error object is
repeated; then the payload is still taken for a response, but its owner cannot read it.
-/

namespace RpcEndpoint

open Json

/-- Whether one of the fields stands more than once in the object. -/
def repeatsField (fields : List Field) : Value → Bool
  | .object members => !decide (knownNames fields members).Nodup
  | _ => false

namespace ResponseError

theorem follows_schema : Follows schema fun written => repeatsField fields written = false := by
  have follows : Follows schema (CleanFields fields fun _ _ => True) := by
    refine follows_record "ResponseError" ?_
    simp only [List.forall_mem_cons]
    exact ⟨follows_integer _ _ _, follows_text _, follows_optional follows_any trivial, nofun⟩
  refine follows.congr fun written => ?_
  cases written <;> simp [CleanFields, repeatsField]

end ResponseError

namespace Response

/-- Whether a field of the envelope or of its error object stands there more than once. -/
def repeats (written : Value) : Bool :=
  repeatsField fields written ||
    (written.get? "error").any (repeatsField ResponseError.fields)

/-- An error object is clean if none of its fields is repeated, every other field is so anyway. -/
def Clean (name : String) (written : Value) : Prop :=
  name = "error" → repeatsField ResponseError.fields written = false

theorem follows_schema : Follows schema (CleanFields fields Clean) := by
  have other {inner : Schema} {name : String} (isOther : name ≠ "error")
      (follows : Follows inner fun _ => True) : Follows inner (Clean name) :=
    follows.congr fun written => by simp [Clean, isOther]
  have error : Follows ResponseError.schema (Clean "error") :=
    ResponseError.follows_schema.congr fun written => by simp [Clean]
  refine follows_record "JsonRpcResponse" ?_
  simp only [List.forall_mem_cons]
  refine ⟨other (by decide) (follows_text _), other (by decide) (follows_choice _ _),
    other (by decide) (follows_optional follows_any trivial), follows_optional error ?_, nofun⟩
  exact fun _ => rfl

theorem cleanFields_iff {members : List (String × Value)} :
    CleanFields fields Clean (.object members) ↔ repeats (.object members) = false := by
  have getError : (Value.object members).get? "error" = member? "error" members := rfl
  rw [repeats, Bool.or_eq_false_iff, CleanFields, repeatsField, Bool.not_eq_false',
    decide_eq_true_iff, getError]
  refine and_congr_right fun distinct => ?_
  have isField : "error" ∈ fields.map Field.name := by decide
  constructor
  · intro isClean
    cases found : member? "error" members with
    | none => rfl
    | some error =>
        exact isClean ("error", error) (mem_of_member? found) isField rfl
  · rintro isClean ⟨_, error⟩ isMember isKnown rfl
    rwa [member?_of_mem distinct isMember isKnown] at isClean

end Response

namespace Incoming

/-- A payload that is taken for a response holds an object that decodes to it. -/
theorem decode_of_classify {payload : Bytes} {response : Response}
    (isResponse : classify payload = .response response) :
    ∃ members, parse payload = .ok (.object members) ∧
      Interpretation.decode (.object members) = .ok response := by
  unfold classify at isResponse
  split at isResponse
  · contradiction
  · rename_i members isParsed
    refine ⟨members, isParsed, ?_⟩
    unfold ofMembers ofEnvelope at isResponse
    split at isResponse
    · split at isResponse
      · cases isResponse
        assumption
      · contradiction
    · split at isResponse <;> contradiction
    · split at isResponse <;> contradiction
    · contradiction
  · contradiction

end Incoming

namespace Response

/-- An owner who takes every value is given the outcome of the response in the payload, if there is
one. -/
theorem decodeOutcome_any (payload : Bytes) :
    decodeOutcome .any (.ok payload) = (do
      let response : Response ← (Interpretation.parse payload).mapError fun fault : Fault =>
        Failure.decoding fault.message
      response.outcome.mapError Failure.server) := by
  have isAny (value : Value) : Schema.any.decode value = .ok value := by
    rw [Schema.decode, Schema.ofValue]
    rfl
  unfold decodeOutcome
  simp only [isAny]
  change (Interpretation.parse payload : Except Fault Response).mapError _ >>= _ = _
  cases (Interpretation.parse payload : Except Fault Response) with
  | ok response =>
      change response.outcome.mapError Failure.server >>= _ = response.outcome.mapError _
      cases response.outcome <;> rfl
  | error fault =>
      rfl

/-- The owner of a request is given the outcome of the response that the payload is read as. -/
theorem decodeOutcome_of_parse
    {payload : Bytes} {response : Response}
    (isParsed : Interpretation.parse payload = .ok response) :
    decodeOutcome .any (.ok payload) = response.outcome.mapError .server := by
  rw [decodeOutcome_any, isParsed]
  rfl

theorem decodeOutcome_of_fault {payload : Bytes}
    (notParsed : ∀ response : Response, Interpretation.parse payload ≠ .ok response) :
    ∃ message, decodeOutcome .any (.ok payload) = .error (.decoding message) := by
  cases isParsed : (Interpretation.parse payload : Except Fault Response) with
  | ok response => exact absurd isParsed (notParsed response)
  | error fault =>
      refine ⟨fault.message, ?_⟩
      rw [decodeOutcome_any, isParsed]
      rfl

/-- The owner of a request is given what the peer has answered. -/
theorem decodeOutcome_toValue
    (id : MessageId) {outcome : Except ResponseError Value}
    (plain : (ofOutcome id outcome).toValue.plain nestingLimit = true) :
    decodeOutcome .any (.ok (ofOutcome id outcome).toValue.encode) =
      (arrivedOutcome outcome).mapError .server := by
  have isClean : repeats (ofOutcome id outcome).toValue = false := by
    cases outcome with
    | ok result => rfl
    | error error =>
        obtain ⟨code, message, data⟩ := error
        cases data <;> rfl
  have isWritten := parseWritten_encode plain
  -- The payload itself is read as its value is, since nothing is repeated in it.
  obtain ⟨members, isParsed, isDecoded⟩ := Incoming.decode_of_classify (classify_response id plain)
  obtain ⟨written, isAlsoWritten, isSorted⟩ := parse_iff_written.mp isParsed
  cases isWritten.symm.trans isAlsoWritten
  rw [← isSorted] at isDecoded
  have isRead := (follows_schema.parse_data_iff isWritten).mpr
    ⟨cleanFields_iff.mpr isClean, isDecoded⟩
  rw [decodeOutcome_of_parse isRead, (arrived_ofOutcome id outcome).2]

/-- The owner of a request finds in the payload the answer that was found when the payload was
taken for a response, unless a field is repeated there; then it cannot read the payload. -/
theorem decodeOutcome_of_classify {payload : Bytes} {response : Response}
    (isResponse : Incoming.classify payload = .response response) :
    ∃ written, parseWritten payload = .ok written ∧
      if repeats written then
        ∃ message, decodeOutcome .any (.ok payload) = .error (.decoding message)
      else decodeOutcome .any (.ok payload) = response.outcome.mapError .server := by
  obtain ⟨members, isParsed, isDecoded⟩ := Incoming.decode_of_classify isResponse
  obtain ⟨written, isWritten, isSorted⟩ := parse_iff_written.mp isParsed
  have isObject : ∃ members, written = .object members := by
    cases written with
    | object written => exact ⟨written, rfl⟩
    | _ => contradiction
  obtain ⟨_, rfl⟩ := isObject
  rw [← isSorted] at isDecoded
  refine ⟨_, isWritten, ?_⟩
  split
  · rename_i isRepeated
    refine decodeOutcome_of_fault fun read isRead => ?_
    have isClean := cleanFields_iff.mp ((follows_schema.parse_data_iff isWritten).mp isRead).1
    rw [isRepeated] at isClean
    contradiction
  · rename_i notRepeated
    have isClean := cleanFields_iff.mpr (Bool.eq_false_iff.mpr notRepeated)
    exact decodeOutcome_of_parse
      ((follows_schema.parse_data_iff isWritten).mpr ⟨isClean, isDecoded⟩)

/-- An answer that was printed is read by its owner. -/
theorem printed_answer_is_read :
    ∃ written, parseWritten (success (.number 7) (.bool true)).toValue.encode = .ok written ∧
      repeats written = false ∧
      decodeOutcome .any (.ok (success (.number 7) (.bool true)).toValue.encode) =
        .ok (.bool true) := by
  have plain : (ofOutcome (.number 7) (.ok (.bool true))).toValue.plain nestingLimit = true := by
    decide
  have isOnce : (parseWritten (success (.number 7) (.bool true)).toValue.encode).toOption.map
      repeats = some false := by
    decide +kernel
  obtain ⟨written, isWritten, isRead⟩ :=
    decodeOutcome_of_classify (classify_response (.number 7) plain)
  have isWritten : parseWritten (success (.number 7) (.bool true)).toValue.encode = .ok written :=
    isWritten
  rw [isWritten] at isOnce
  have notRepeated : repeats written = false := Option.some.inj isOnce
  rw [notRepeated] at isRead
  exact ⟨written, isWritten, notRepeated, isRead⟩

/-- An answer that gives its identifier twice. -/
def repeatedIdentifier : Bytes :=
  "\x7b\"jsonrpc\":\"2.0\",\"id\":1,\"id\":1,\"result\":1\x7d".toUTF8.toList

/-- The value that a response gives as an answer. -/
def answer? : Incoming → Option Value
  | .response response => response.outcome.toOption
  | _ => none

/-- Why an outcome could not be decoded. -/
def refusal? : Except Failure Value → Option String
  | .error (.decoding message) => some message
  | _ => none

theorem ofInt64_of_integer? {value : Value} {word : Int64}
    (isInteger : value.integer? = some word.toInt) : value = .ofInt64 word := by
  cases value with
  | number number =>
      cases number with
      | integer whole =>
          obtain ⟨held, _, _⟩ := whole
          cases Option.some.inj isInteger
          rfl
      | float held => contradiction
  | _ => contradiction

/-- The identifier that is repeated is no reason not to take the payload for a response, but its
owner refuses it. -/
theorem repeated_identifier_is_refused :
    (∃ response, Incoming.classify repeatedIdentifier = .response response ∧
        response.outcome = .ok (.ofInt64 1)) ∧
      decodeOutcome .any (.ok repeatedIdentifier) =
        .error (.decoding "duplicate field `id` at line 1 column 28") := by
  have isTaken : (answer? (Incoming.classify repeatedIdentifier)).bind Value.integer? = some 1 := by
    decide +kernel
  have isRefused : refusal? (decodeOutcome .any (.ok repeatedIdentifier)) =
      some "duplicate field `id` at line 1 column 28" := by
    decide +kernel
  constructor
  · cases isResponse : Incoming.classify repeatedIdentifier with
    | response response =>
        rw [isResponse, answer?] at isTaken
        obtain ⟨value, isValue, isInteger⟩ := Option.bind_eq_some_iff.mp isTaken
        have isOutcome : response.outcome = .ok value := by
          cases outcome : response.outcome with
          | ok other => simpa [outcome, Except.toOption] using isValue
          | error error => simp [outcome, Except.toOption] at isValue
        have isOne : value = .ofInt64 1 := ofInt64_of_integer? isInteger
        exact ⟨response, rfl, isOne ▸ isOutcome⟩
    | _ => simp [isResponse, answer?] at isTaken
  · cases isOutcome : decodeOutcome .any (.ok repeatedIdentifier) with
    | ok value => simp [isOutcome, refusal?] at isRefused
    | error failure => 
        cases failure with
        | decoding message => simpa [isOutcome, refusal?] using isRefused
        | _ => simp [isOutcome, refusal?] at isRefused

end Response

end RpcEndpoint
