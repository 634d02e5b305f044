import RpcEndpoint.Message.Envelope
import RpcEndpoint.Proofs.Json.Collected

/-!
# Fields one by one

A record takes an object if each of its fields takes what the object holds under its name. So the
data that a record stands for are those which its fields hold, whatever else the object holds.
-/

namespace RpcEndpoint.Json

/-- What a field makes of the value that is found for it. -/
def Field.take (field : Field) (found : Option Value) :
    Except Mismatch (List (String × Value)) :=
  match found with
  | some value => (field.schema.ofValue false value).map field.keep
  | none => field.whenAbsent

/-- The members of a record, field by field. -/
def takeFields : List Field → List (String × Value) → Except Mismatch (List (String × Value))
  | [], _ => .ok []
  | field :: rest, members => do
    let head ← field.take (member? field.name members)
    let tail ← takeFields rest members
    .ok (head ++ tail)

variable {fields : List Field} {members : List (String × Value)}

/-- Each field is found by its name if no two have the same. -/
theorem find?_field (distinct : (fields.map Field.name).Nodup) {field : Field}
    (isField : field ∈ fields) :
    (fields.find? fun other => other.name = field.name) = some field := by
  induction fields with
  | nil =>
      contradiction
  | cons first rest inductionHypothesis =>
      rw [List.map_cons, List.nodup_cons] at distinct
      rw [List.find?_cons]
      rcases List.mem_cons.mp isField with rfl | isLater
      · simp
      · have isOther : first.name ≠ field.name := fun sameName =>
          distinct.1 (sameName ▸ List.mem_map_of_mem isLater)
        simpa [isOther] using inductionHypothesis distinct.2 isLater

/-- Of members that were collected, each field makes what it makes of the members themselves. -/
theorem assembleFields_eq_takeFields
    (distinct : (fields.map Field.name).Nodup) {collected : List (String × Value)}
    (isCollected : collectFields (fieldOfMember false fields) members = .ok collected)
    {part : List Field} (isPart : part ⊆ fields) :
    assembleFields part collected = takeFields part members := by
  induction part with
  | nil =>
      rfl
  | cons field rest inductionHypothesis =>
      have isField : field ∈ fields := isPart List.mem_cons_self
      have isRead (value : Value) : fieldOfMember false fields field.name value =
          some (field.schema.ofValue false value) := by
        rw [fieldOfMember_eq, find?_field distinct isField]
        rfl
      have same := member?_collectFields isCollected fun value => by rw [isRead value]; nofun
      rw [assembleFields, takeFields,
        inductionHypothesis fun later isLater => isPart (List.mem_cons_of_mem field isLater)]
      cases found : member? field.name members with
      | none =>
          rw [found, Option.bind_none, Option.map_eq_none_iff] at same
          rw [same, Field.take]
      | some value =>
          rw [found, Option.bind_some, isRead] at same
          obtain ⟨held, isHeld, isTaken⟩ := Option.map_eq_some_iff.mp same
          rw [isHeld, Field.take, ← isTaken]
          rfl

theorem exists_of_takeFields {kept : List (String × Value)}
    (isTaken : takeFields fields members = .ok kept) {field : Field} (isField : field ∈ fields) :
    ∃ head, field.take (member? field.name members) = .ok head := by
  induction fields generalizing kept with
  | nil =>
      contradiction
  | cons first rest inductionHypothesis =>
      rw [takeFields, joined_eq_ok_iff] at isTaken
      obtain ⟨head, tail, isHead, isTail, -⟩ := isTaken
      rcases List.mem_cons.mp isField with rfl | isLater
      · exact ⟨head, isHead⟩
      · exact inductionHypothesis isTail isLater

/-- Members are collected if each field takes what is found for it. -/
theorem collected_of_takeFields
    (once : (members.map Prod.fst).Nodup) {kept : List (String × Value)}
    (isTaken : takeFields fields members = .ok kept) :
    ∃ collected, collectFields (fieldOfMember false fields) members = .ok collected := by
  rw [collectFields_ok_iff]
  intro member isMember cause isRefused
  rw [fieldOfMember_eq] at isRefused
  obtain ⟨field, isFound, isCause⟩ := Option.map_eq_some_iff.mp isRefused
  have isField := List.mem_of_find?_eq_some isFound
  have sameName : field.name = member.1 := by simpa using List.find?_some isFound
  have isKnown : member.1 ∈ fields.map Field.name := sameName ▸ List.mem_map_of_mem isField
  have isHeld := member?_of_mem (once.filter _) isMember isKnown
  obtain ⟨head, isHead⟩ := exists_of_takeFields isTaken isField
  rw [sameName, isHeld, Field.take, isCause] at isHead
  contradiction

/-- Each name stands once in an object whose members are in order. -/
theorem Value.Ordered.nodup (ordered : (Value.object members).Ordered) :
    (members.map Prod.fst).Nodup := by
  cases ordered with
  | object ascending _ => exact (ascending_iff.mp ascending).imp String.ne_of_lt

theorem Value.Ordered.of_member? (ordered : (Value.object members).Ordered) {name : String}
    {value : Value} (found : member? name members = some value) : value.Ordered := by
  cases ordered with
  | object _ ordered => exact ordered (name, value) (mem_of_member? found)

/-- A record takes an object if each of its fields takes what the object holds for it. -/
theorem ofValue_fields_iff (distinct : (fields.map Field.name).Nodup)
    (ordered : (Value.object members).Ordered) {name : String} {value : Value} :
    (Schema.record name fields).ofValue false (.object members) = .ok value ↔
      ∃ kept, takeFields fields members = .ok kept ∧ .object kept = value := by
  rw [ofValue_object_iff]
  refine exists_congr fun kept => and_congr_left fun _ => ?_
  constructor
  · rintro ⟨collected, isCollected, isAssembled⟩
    rwa [assembleFields_eq_takeFields distinct isCollected (List.Subset.refl _)] at isAssembled
  · intro isTaken
    obtain ⟨collected, isCollected⟩ := collected_of_takeFields ordered.nodup isTaken
    refine ⟨collected, isCollected, ?_⟩
    rwa [assembleFields_eq_takeFields distinct isCollected (List.Subset.refl _)]

/-! ## Fields with data -/

/-- The schema takes a value if the value holds data, and makes of it what the data are printed
as. -/
def Takes {α : Type} (inner : Schema) (holds : Value → α → Prop) (print : α → Value) : Prop :=
  ∀ value read, value.Ordered →
    (inner.ofValue false value = .ok read ↔ ∃ data, holds value data ∧ print data = read)

theorem takes_any : Takes .any Eq id := by
  intro value read _
  simp [Schema.ofValue]

theorem ofValue_string_iff {buffered : Bool} {value read : Value} :
    Schema.string.ofValue buffered value = .ok read ↔
      ∃ text, value = .string text ∧ .string text = read := by
  cases value <;> simp [Schema.string, Schema.ofValue]

theorem ofInt64_injective : Function.Injective Value.ofInt64 := by
  intro word other same
  simp only [Value.ofInt64, Value.number.injEq, Number.integer.injEq] at same
  exact Int64.toInt_inj.mp (congrArg Integer.value same)

/-- Only the signed words are taken of the integers. -/
theorem ofValue_int64_iff {buffered : Bool} {value read : Value} :
    Schema.int64.ofValue buffered value = .ok read ↔
      ∃ word, value = .ofInt64 word ∧ .ofInt64 word = read := by
  constructor
  · intro isRead
    cases value with
    | number number =>
        cases number with
        | integer whole =>
            rw [Schema.int64, Schema.ofValue, checkInteger] at isRead
            split at isRead
            · rename_i inRange
              have isWord : (Int64.ofInt whole.value).toInt = whole.value :=
                Int64.toInt_ofInt_of_le inRange.1 (Int.lt_add_one_of_le inRange.2)
              have same : Value.ofInt64 (.ofInt whole.value) = .number (.integer whole) := by
                obtain ⟨held, _, _⟩ := whole
                simp only [Value.ofInt64, Integer.ofInt64, isWord]
              exact ⟨.ofInt whole.value, same.symm, same.trans (Except.ok.inj isRead)⟩
            · contradiction
        | float held => contradiction
    | _ => contradiction
  · rintro ⟨word, rfl, rfl⟩
    have inRange : (-0x8000000000000000 : Int) ≤ word.toInt ∧ word.toInt ≤ 0x7FFFFFFFFFFFFFFF :=
      ⟨Int64.le_toInt word, Int.le_of_lt_add_one (Int64.toInt_lt word)⟩
    exact if_pos inRange

theorem takes_string : Takes .string (fun value text => value = .string text) .string :=
  fun _ _ _ => ofValue_string_iff

theorem takes_int64 : Takes .int64 (fun value word => value = .ofInt64 word) .ofInt64 :=
  fun _ _ _ => ofValue_int64_iff

section Data

variable {α : Type} {inner : Schema} {name : String} {head kept : List (String × Value)}
  {print : α → Value} {found : Option Value}

/-- The value of a field, if there is one and it is not null. -/
def present (found : Option Value) : Option Value :=
  found.filter fun value => !value.isNull

/-- What arrives of an optional value: null is the same as nothing. -/
def arrived (value : Option Value) : Option Value :=
  (value.map Value.sorted).filter fun held => !held.isNull

/-- A value whose members are in order arrives as it is. -/
theorem arrived_eq_present {value : Option Value} (ordered : ∀ held ∈ value, held.Ordered) :
    arrived value = present value := by
  cases value with
  | none => rfl
  | some held => rw [arrived, Option.map_some, (ordered held rfl).sorted_eq, present]

/-! ### One field -/

/-- A field that is needed holds its data. -/
theorem take_needed (takes : Takes inner (fun value data => value = print data) print)
    (notOptional : inner.isOptional = false) (ordered : ∀ value ∈ found, value.Ordered) :
    (Field.needed name inner).take found = .ok head ↔
      ∃ data, found = some (print data) ∧ [(name, print data)] = head := by
  have isKept (value : Value) : (Field.needed name inner).keep value = [(name, value)] := by
    have notOptional : (Field.needed name inner).schema.isOptional = false := notOptional
    rw [Field.keep, notOptional, Bool.false_and, if_neg Bool.false_ne_true]
    rfl
  cases found with
  | none =>
      have isAbsent : (Field.needed name inner).take none = .error (.missingField name) := rfl
      simp [isAbsent]
  | some value =>
      constructor
      · intro isHead
        obtain ⟨read, isRead, rfl⟩ := map_eq_ok_iff.mp isHead
        obtain ⟨data, isData, rfl⟩ := (takes value read (ordered value rfl)).mp isRead
        exact ⟨data, congrArg some isData, (isKept _).symm⟩
      · rintro ⟨data, isData, rfl⟩
        have isRead := (takes value (print data) (ordered value rfl)).mpr
          ⟨data, Option.some.inj isData, rfl⟩
        exact map_eq_ok_iff.mpr ⟨_, isRead, isKept _⟩

/-- Null is the same as nothing to a field that may be left out. -/
theorem take_omittable_nothing (isNothing : present found = none) :
    (Field.omittable name inner).take found = .ok [] := by
  cases found with
  | none => rfl
  | some value =>
      cases value with
      | null =>
          have isRead : (Schema.optional inner).ofValue false .null = .ok .null := by
            rw [Schema.ofValue]
          change ((Schema.optional inner).ofValue false .null).map _ = _
          rw [isRead]
          rfl
      | _ => contradiction

/-- A field that may be left out holds its data, or null, or is left out. -/
theorem take_omittable {holds : Value → α → Prop} (takes : Takes inner holds print)
    (notNull : ∀ value data, holds value data → value.isNull = false →
      (print data).isNull = false)
    (ordered : ∀ value ∈ found, value.Ordered) :
    (Field.omittable name inner).take found = .ok head ↔
      ∃ data, Option.Rel holds (present found) data ∧
        optionalMember name (data.map print) = head := by
  cases isPresent : present found with
  | none =>
      rw [take_omittable_nothing isPresent]
      constructor
      · rintro ⟨⟩
        exact ⟨none, .none, rfl⟩
      · rintro ⟨_, ⟨⟩, rfl⟩
        rfl
  | some value =>
      obtain ⟨rfl, isValue⟩ := Option.filter_eq_some_iff.mp isPresent
      have visible : value.isNull = false := by simpa using isValue
      have isInner : (Schema.optional inner).ofValue false value = inner.ofValue false value := by
        cases value with
        | null => contradiction
        | _ => simp only [Schema.ofValue]
      have isKept {read : Value} (visible : read.isNull = false) :
          (Field.omittable name inner).keep read = [(name, read)] := by
        rw [Field.keep, visible, Bool.and_false, if_neg Bool.false_ne_true]
        rfl
      have takesValue (read : Value) := takes value read (ordered value rfl)
      constructor
      · intro isHead
        obtain ⟨read, isRead, rfl⟩ := map_eq_ok_iff.mp isHead
        obtain ⟨data, isData, rfl⟩ := (takesValue read).mp (isInner ▸ isRead)
        exact ⟨some data, .some isData, (isKept (notNull value data isData visible)).symm⟩
      · rintro ⟨_, @⟨_, data, isData⟩, rfl⟩
        have isRead := isInner.trans ((takesValue (print data)).mpr ⟨data, isData, rfl⟩)
        exact map_eq_ok_iff.mpr ⟨_, isRead, isKept (notNull value data isData visible)⟩

/-- A field that may hold anything holds what is not null. -/
theorem take_anything (ordered : ∀ value ∈ found, value.Ordered) :
    (Field.omittable name .any).take found = .ok head ↔
      optionalMember name (present found) = head := by
  have notNull : ∀ value data : Value, value = data → value.isNull = false →
      (id data).isNull = false := fun _ _ same visible => same ▸ visible
  have same {held data : Option Value} : Option.Rel Eq held data ↔ held = data := by
    cases held <;> cases data <;> simp
  rw [take_omittable takes_any notNull ordered]
  simp [same]

/-! ### All fields -/

theorem name_needed : (Field.needed name inner).name = name := rfl

theorem name_omittable : (Field.omittable name inner).name = name := rfl

theorem takeFields_nil : takeFields [] members = .ok kept ↔ [] = kept := by
  rw [takeFields, Except.ok.injEq]

theorem takeFields_cons {field : Field} :
    takeFields (field :: fields) members = .ok kept ↔
      ∃ head tail, field.take (member? field.name members) = .ok head ∧
        takeFields fields members = .ok tail ∧ head ++ tail = kept := by
  rw [takeFields, joined_eq_ok_iff]

/-- The items of an array are taken by the fields in their order. -/
theorem fieldsOfItems_cons {field : Field} {expected : String} {taken : Nat} {item : Value}
    {others : List Value} :
    fieldsOfItems false expected taken (field :: fields) (item :: others) = .ok kept ↔
      ∃ head tail, field.take (some item) = .ok head ∧
        fieldsOfItems false expected (taken + 1) fields others = .ok tail ∧ head ++ tail = kept := by
  obtain ⟨name, schema, absence⟩ := field
  rw [fieldsOfItems]
  simp only [joined_eq_ok_iff, Field.take, map_eq_ok_iff, Field.schema]
  constructor
  · rintro ⟨value, tail, isRead, isTail, rfl⟩
    exact ⟨_, tail, ⟨value, isRead, rfl⟩, isTail, rfl⟩
  · rintro ⟨_, tail, ⟨value, isRead, rfl⟩, isTail, rfl⟩
    exact ⟨value, tail, isRead, isTail, rfl⟩

section PastEnd

variable {expected : String} {taken : Nat}

theorem fieldsOfItems_nil {items : List Value} :
    fieldsOfItems false expected taken [] items = .ok kept ↔ [] = kept := by
  rw [fieldsOfItems, Except.ok.injEq]

/-- The array form must not end before a field that is needed. -/
theorem fieldsOfItems_needed_nil :
    fieldsOfItems false expected taken (.needed name inner :: fields) [] ≠ .ok kept := by
  rw [Field.needed, fieldsOfItems, Field.whenPastEnd]
  nofun

theorem fieldsOfItems_omittable_nil :
    fieldsOfItems false expected taken (.omittable name inner :: fields) [] = .ok kept ↔
      fieldsOfItems false expected (taken + 1) fields [] = .ok kept := by
  rw [Field.omittable, fieldsOfItems, Field.whenPastEnd, joined_eq_ok_iff]
  constructor
  · rintro ⟨_, tail, ⟨⟩, isTail, rfl⟩
    exact isTail
  · intro isTail
    exact ⟨[], kept, rfl, isTail, rfl⟩

end PastEnd

end Data

/-! ## Data from values -/

/-- A value decodes to the data that it holds. -/
theorem decode_data_iff {α : Type} [Interpretation α] {holds : α → Prop} (print : α → Value)
    {value : Value} {data : α}
    (takes : ∀ read, (Interpretation.schema α).ofValue false value = .ok read ↔
      ∃ data, holds data ∧ print data = read)
    (stands : ∀ data : α, Interpretation.ofValue? (print data) = some data) :
    Interpretation.decode value = .ok data ↔ holds data := by
  rw [Interpretation.decode, bind_eq_ok_iff]
  constructor
  · rintro ⟨read, isDecoded, isData⟩
    obtain ⟨held, isHeld, rfl⟩ := (takes read).mp (decode_eq_ok_iff.mp isDecoded)
    rw [Interpretation.interpret, stands] at isData
    cases isData
    exact isHeld
  · intro isHeld
    have isDecoded := decode_eq_ok_iff.mpr ((takes (print data)).mpr ⟨data, isHeld, rfl⟩)
    refine ⟨print data, isDecoded, ?_⟩
    rw [Interpretation.interpret, stands]

end RpcEndpoint.Json
