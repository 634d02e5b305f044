import RpcEndpoint.Json.Schema.OfValue
import RpcEndpoint.Proofs.Json.Ordered

/-!
# Collected fields

The fields of a record are collected from the members of an object, and found by their names
afterwards. What is collected from sorted members is what is collected from the members as they
stand, read backwards, if no field is repeated.
-/

namespace RpcEndpoint.Json

/-! ## Looking members up -/

theorem member?_cons (name : String) (member : String × Value) (members : List (String × Value)) :
    member? name (member :: members) =
      if member.1 = name then some member.2 else member? name members := by
  rw [member?, List.find?_cons]
  split <;> simp_all [member?]

theorem member?_insertMember
    (name inserted : String) (value : Value) (members : List (String × Value)) :
    member? name (insertMember inserted value members) =
      if inserted = name then some value else member? name members := by
  induction members with
  | nil =>
      rw [insertMember, member?_cons]
  | cons first rest inductionHypothesis =>
      rw [insertMember]
      split
      · rw [member?_cons]
      · split
        · rename_i isSame
          rw [member?_cons, member?_cons, isSame]
          split <;> rfl
        · rename_i isOther
          rw [member?_cons, member?_cons, inductionHypothesis]
          split
          · rename_i isFirst
            rw [if_neg (isFirst ▸ isOther)]
          · rfl

/-- Among sorted members, the last of each name is found. -/
theorem member?_sortMembers (name : String) (members : List (String × Value)) :
    member? name (sortMembers members) = member? name members.reverse := by
  induction members using List.reverseRecOn with
  | nil =>
      rfl
  | append_singleton earlier last inductionHypothesis =>
      rw [sortMembers, List.foldl_append, List.reverse_append, List.reverse_singleton,
        List.singleton_append, member?_cons, ← inductionHypothesis]
      exact member?_insertMember name last.1 last.2 (sortMembers earlier)

theorem mem_of_member? {name : String} {value : Value} {members : List (String × Value)}
    (found : member? name members = some value) : (name, value) ∈ members := by
  obtain ⟨member, isFound, rfl⟩ := Option.map_eq_some_iff.mp found
  have sameName : member.1 = name := by simpa using List.find?_some isFound
  exact sameName ▸ List.mem_of_find?_eq_some isFound

/-- The names of those members for which there is a field. -/
def knownNames (fields : List Field) (members : List (String × Value)) : List String :=
  (members.map Prod.fst).filter fun name => name ∈ fields.map Field.name

variable {fields : List Field} {members : List (String × Value)}

theorem knownNames_cons (member : String × Value) (members : List (String × Value)) :
    knownNames fields (member :: members) =
      if member.1 ∈ fields.map Field.name then member.1 :: knownNames fields members
      else knownNames fields members := by
  rw [knownNames, List.map_cons, List.filter_cons]
  simp only [decide_eq_true_eq, knownNames]

/-- A field that stands once is found. -/
theorem member?_of_mem (distinct : (knownNames fields members).Nodup) {member : String × Value}
    (isMember : member ∈ members) (isKnown : member.1 ∈ fields.map Field.name) :
    member? member.1 members = some member.2 := by
  induction members with
  | nil =>
      contradiction
  | cons first rest inductionHypothesis =>
      rw [member?_cons]
      rcases List.mem_cons.mp isMember with rfl | isLater
      · rw [if_pos rfl]
      · rw [knownNames_cons] at distinct
        split
        · rename_i sameName
          rw [sameName, if_pos isKnown, List.nodup_cons] at distinct
          refine absurd (List.mem_filter.mpr ⟨List.mem_map_of_mem isLater, ?_⟩) distinct.1
          simpa using isKnown
        · refine inductionHypothesis ?_ isLater
          split at distinct
          · exact (List.nodup_cons.mp distinct).2
          · exact distinct

theorem knownNames_sortedMembers (fields : List Field) (members : List (String × Value)) :
    knownNames fields (sortedMembers members) = knownNames fields members := by
  rw [sortedMembers_eq, knownNames, List.map_map, knownNames]
  rfl

theorem knownNames_reverse (fields : List Field) (members : List (String × Value)) :
    knownNames fields members.reverse = (knownNames fields members).reverse := by
  rw [knownNames, List.map_reverse, List.filter_reverse, knownNames]

/-! ## Checks in a row -/

theorem bind_eq_ok_iff {ε α β : Type} {first : Except ε α} {next : α → Except ε β} {result : β} :
    (first >>= next) = .ok result ↔ ∃ value, first = .ok value ∧ next value = .ok result := by
  cases first with
  | error cause => simp [bind, Except.bind]
  | ok value => simp [bind, Except.bind]

theorem map_eq_ok_iff {ε α β : Type} {outcome : Except ε α} {change : α → β} {result : β} :
    outcome.map change = .ok result ↔ ∃ value, outcome = .ok value ∧ change value = result := by
  cases outcome <;> simp [Except.map]

/-- Two lists that are checked, one after the other. -/
theorem joined_eq_ok_iff {ε α β : Type} {keep : α → List β} {first : Except ε α}
    {later : Except ε (List β)} {result : List β} :
    (do let head ← first; let tail ← later; Except.ok (keep head ++ tail)) = .ok result ↔
      ∃ head tail, first = .ok head ∧ later = .ok tail ∧ keep head ++ tail = result := by
  simp only [bind_eq_ok_iff, Except.ok.injEq]
  constructor
  · rintro ⟨head, isHead, tail, isTail, isResult⟩
    exact ⟨head, tail, isHead, isTail, isResult⟩
  · rintro ⟨head, tail, isHead, isTail, isResult⟩
    exact ⟨head, isHead, tail, isTail, isResult⟩

/-! ## Collecting fields -/

theorem fieldOfMember_eq (buffered : Bool) (fields : List Field) (name : String) (value : Value) :
    fieldOfMember buffered fields name value =
      (fields.find? fun field => field.name = name).map fun field =>
        field.schema.ofValue buffered value := by
  induction fields with
  | nil =>
      rw [fieldOfMember]
      rfl
  | cons field rest inductionHypothesis =>
      obtain ⟨own, schema, absence⟩ := field
      rw [fieldOfMember, List.find?_cons]
      by_cases isOwn : own = name
      · simp [isOwn, Field.name, Field.schema]
      · simpa [isOwn, Field.name] using inductionHypothesis

section Collecting

variable {read : String → Value → Option (Except Mismatch Value)}

theorem collectFields_cons_none {member : String × Value}
    (unknown : read member.1 member.2 = none) :
    collectFields read (member :: members) = collectFields read members := by
  rw [collectFields, unknown]

theorem collectFields_cons_some {member : String × Value} {outcome : Except Mismatch Value}
    (known : read member.1 member.2 = some outcome) {collected : List (String × Value)} :
    collectFields read (member :: members) = .ok collected ↔
      ∃ head tail, outcome = .ok head ∧ collectFields read members = .ok tail ∧
        collected = (member.1, head) :: tail := by
  rw [collectFields, known]
  dsimp only
  cases outcome with
  | error cause => simp [bind, Except.bind]
  | ok head =>
      cases collectFields read members with
      | error cause => simp [bind, Except.bind]
      | ok tail => simp [bind, Except.bind, eq_comm]

/-- Members are collected unless one of them is refused. -/
theorem collectFields_ok_iff :
    (∃ collected, collectFields read members = .ok collected) ↔
      ∀ member ∈ members, ∀ cause, read member.1 member.2 ≠ some (.error cause) := by
  induction members with
  | nil => simp [collectFields]
  | cons member rest inductionHypothesis =>
      rw [List.forall_mem_cons, ← inductionHypothesis]
      cases outcome : read member.1 member.2 with
      | none => simp [collectFields_cons_none outcome]
      | some held =>
          simp only [collectFields_cons_some outcome]
          cases held <;> simp

theorem collectFields_append {earlier later first second : List (String × Value)}
    (isFirst : collectFields read earlier = .ok first)
    (isSecond : collectFields read later = .ok second) :
    collectFields read (earlier ++ later) = .ok (first ++ second) := by
  induction earlier generalizing first with
  | nil =>
      cases isFirst
      exact isSecond
  | cons member rest inductionHypothesis =>
      rw [List.cons_append]
      cases outcome : read member.1 member.2 with
      | none =>
          rw [collectFields_cons_none outcome] at isFirst ⊢
          exact inductionHypothesis isFirst
      | some held =>
          obtain ⟨head, tail, isHead, isTail, rfl⟩ := (collectFields_cons_some outcome).mp isFirst
          exact (collectFields_cons_some outcome).mpr
            ⟨head, tail ++ second, isHead, inductionHypothesis isTail, rfl⟩

theorem collectFields_reverse {collected : List (String × Value)}
    (isCollected : collectFields read members = .ok collected) :
    collectFields read members.reverse = .ok collected.reverse := by
  induction members generalizing collected with
  | nil =>
      cases isCollected
      rfl
  | cons member rest inductionHypothesis =>
      rw [List.reverse_cons]
      cases outcome : read member.1 member.2 with
      | none =>
          rw [collectFields_cons_none outcome] at isCollected
          have nothing : collectFields read [member] = .ok [] := collectFields_cons_none outcome
          simpa using collectFields_append (inductionHypothesis isCollected) nothing
      | some held =>
          obtain ⟨head, tail, isHead, isTail, rfl⟩ :=
            (collectFields_cons_some outcome).mp isCollected
          have one : collectFields read [member] = .ok [(member.1, head)] :=
            (collectFields_cons_some outcome).mpr ⟨head, [], isHead, rfl, rfl⟩
          simpa using collectFields_append (inductionHypothesis isTail) one

/-- What is found of a known name is what was made of the member that is found. -/
theorem member?_collectFields {name : String} {collected : List (String × Value)}
    (isCollected : collectFields read members = .ok collected)
    (known : ∀ value, read name value ≠ none) :
    (member? name collected).map Except.ok = (member? name members).bind (read name) := by
  induction members generalizing collected with
  | nil =>
      cases isCollected
      rfl
  | cons member rest inductionHypothesis =>
      rw [member?_cons]
      cases outcome : read member.1 member.2 with
      | none =>
          rw [collectFields_cons_none outcome] at isCollected
          have isOther : member.1 ≠ name := fun sameName => known member.2 (sameName ▸ outcome)
          rw [if_neg isOther]
          exact inductionHypothesis isCollected
      | some held =>
          obtain ⟨head, tail, rfl, isTail, rfl⟩ := (collectFields_cons_some outcome).mp isCollected
          rw [member?_cons]
          split
          · rename_i sameName
            rw [Option.map_some, Option.bind_some, ← sameName, outcome]
          · exact inductionHypothesis isTail

end Collecting

/-- Only what is found of its fields goes into a record. -/
theorem assembleFields_congr {held other : List (String × Value)}
    (same : ∀ field ∈ fields, member? field.name held = member? field.name other) :
    assembleFields fields held = assembleFields fields other := by
  induction fields with
  | nil =>
      rfl
  | cons field rest inductionHypothesis =>
      rw [assembleFields, assembleFields, same field List.mem_cons_self,
        inductionHypothesis fun later isLater => same later (List.mem_cons_of_mem field isLater)]

theorem isKnown_iff {name : String} :
    name ∈ fields.map Field.name ↔ (fields.find? fun field => field.name = name) ≠ none := by
  rw [Ne, List.find?_eq_none]
  simp

/-- If no field is repeated, collecting what is written is collecting what is sorted. -/
theorem assembled_iff
    (distinct : (knownNames fields members).Nodup) {kept : List (String × Value)} :
    (∃ collected, collectFields (fieldOfMember false fields) members = .ok collected ∧
        assembleFields fields collected.reverse = .ok kept) ↔
      ∃ collected,
        collectFields (fieldOfMember false fields) (sortMembers members) = .ok collected ∧
          assembleFields fields collected = .ok kept := by
  have knows : ∀ field ∈ fields, ∀ value, fieldOfMember false fields field.name value ≠ none := by
    intro field isField value
    rw [fieldOfMember_eq, Ne, Option.map_eq_none_iff]
    exact isKnown_iff.mp (List.mem_map_of_mem isField)
  have sameFields {collected sorted : List (String × Value)}
      (isCollected : collectFields (fieldOfMember false fields) members = .ok collected)
      (isSorted : collectFields (fieldOfMember false fields) (sortMembers members) = .ok sorted) :
      assembleFields fields collected.reverse = assembleFields fields sorted := by
    refine assembleFields_congr fun field isField => ?_
    have injective : Function.Injective (Except.ok : Value → Except Mismatch Value) :=
      fun _ _ => Except.ok.inj
    refine Option.map_injective injective ?_
    rw [member?_collectFields (collectFields_reverse isCollected) (knows field isField),
      member?_collectFields isSorted (knows field isField), member?_sortMembers]
  have sameChecks :
      (∃ collected, collectFields (fieldOfMember false fields) members = .ok collected) ↔
        ∃ collected,
          collectFields (fieldOfMember false fields) (sortMembers members) = .ok collected := by
    rw [collectFields_ok_iff, collectFields_ok_iff]
    constructor
    · intro passes member isSorted
      exact passes member (mem_sortMembers isSorted)
    · intro passes member isMember cause isRefused
      have isKnown : member.1 ∈ fields.map Field.name := by
        rw [isKnown_iff]
        intro unknown
        simp [fieldOfMember_eq, unknown] at isRefused
      have distinctBackward : (knownNames fields members.reverse).Nodup := by
        rw [knownNames_reverse]
        exact (List.reverse_perm _).nodup_iff.mpr distinct
      have found := member?_of_mem distinctBackward (List.mem_reverse.mpr isMember) isKnown
      rw [← member?_sortMembers] at found
      exact passes member (mem_of_member? found) cause isRefused
  constructor
  · rintro ⟨collected, isCollected, isKept⟩
    obtain ⟨sorted, isSorted⟩ := sameChecks.mp ⟨collected, isCollected⟩
    exact ⟨sorted, isSorted, sameFields isCollected isSorted ▸ isKept⟩
  · rintro ⟨sorted, isSorted, isKept⟩
    obtain ⟨collected, isCollected⟩ := sameChecks.mpr ⟨sorted, isSorted⟩
    exact ⟨collected, isCollected, sameFields isCollected isSorted ▸ isKept⟩

/-! ## Records -/

theorem decode_eq_ok_iff {schema : Schema} {value read : Value} :
    schema.decode value = .ok read ↔ schema.ofValue false value = .ok read := by
  rw [Schema.decode]
  cases schema.ofValue false value <;> simp [Except.mapError]

section Records

variable {name : String} {value : Value}

theorem ofValue_array_iff {items : List Value} :
    (Schema.record name fields).ofValue false (.array items) = .ok value ↔
      ∃ kept, items.length ≤ fields.length ∧
        fieldsOfItems false (arrayExpectation name fields) 0 fields items = .ok kept ∧
        .object kept = value := by
  rw [Schema.ofValue, bind_eq_ok_iff]
  refine exists_congr fun kept => ?_
  by_cases fits : items.length ≤ fields.length
  · simp [fits, Nat.not_lt.mpr fits, pure, Except.pure]
  · simp [fits, Nat.lt_of_not_le fits]

theorem ofValue_object_iff :
    (Schema.record name fields).ofValue false (.object members) = .ok value ↔
      ∃ kept, (∃ collected, collectFields (fieldOfMember false fields) members = .ok collected ∧
        assembleFields fields collected = .ok kept) ∧ .object kept = value := by
  rw [Schema.ofValue, bind_eq_ok_iff]
  simp only [bind_eq_ok_iff, pure, Except.pure, Except.ok.injEq]
  constructor
  · rintro ⟨collected, isCollected, kept, isKept, isValue⟩
    exact ⟨kept, ⟨collected, isCollected, isKept⟩, isValue⟩
  · rintro ⟨kept, ⟨collected, isCollected, isKept⟩, isValue⟩
    exact ⟨collected, isCollected, kept, isKept, isValue⟩

end Records

end RpcEndpoint.Json
