import RpcEndpoint.Json.Interpretation
import RpcEndpoint.Proofs.Json.Collected
import RpcEndpoint.Proofs.Json.Routes

/-!
# Repeated fields

A record follows the object that is written for it as long as none of its fields is repeated there;
other members may be. A record whose fields are repeated is refused in text, while in the value that
was read before the last member of each name has won.
-/

namespace RpcEndpoint.Json

open Reader

variable {fields : List Field} {members : List (String × Value)}

/-- How the fields of a record are cleanly written: in an object none of them stands twice, and each
holds something clean. -/
def CleanFields (fields : List Field) (clean : String → Value → Prop) : Value → Prop
  | .object members =>
    (knownNames fields members).Nodup ∧
      ∀ member ∈ members, member.1 ∈ fields.map Field.name → clean member.1 member.2
  | .array items => ∀ place ∈ fields.zip items, clean place.1.name place.2
  | _ => True

/-! ## Objects -/

section Members

variable {clean : String → Value → Prop} {held result rest : List (String × Value)}

/-- The result is what is collected of the members in front of what was held: no field is repeated,
and each holds something clean that its schema takes. -/
structure Collects (fields : List Field) (clean : String → Value → Prop)
    (members held result : List (String × Value)) : Prop where
  distinct : (knownNames fields members ++ held.map Prod.fst).Nodup
  allClean : ∀ member ∈ members, member.1 ∈ fields.map Field.name → clean member.1 member.2
  taken : ∃ collected, collectFields (fieldOfMember false fields) (sortedMembers members) =
    .ok collected ∧ collected.reverse ++ held = result

theorem collects_nil (distinct : (held.map Prod.fst).Nodup) :
    Collects fields clean [] held result ↔ held = result := by
  constructor
  · rintro ⟨-, -, collected, isCollected, rfl⟩
    cases isCollected
    rfl
  · rintro rfl
    exact ⟨distinct, by simp, [], rfl, rfl⟩

/-- A member that no field asks for makes no difference. -/
theorem collects_unknown {name : String} {head : Value}
    (notFound : (fields.find? fun field => field.name = name) = none) :
    Collects fields clean ((name, head) :: rest) held result ↔
      Collects fields clean rest held result := by
  have unknown : name ∉ fields.map Field.name := by
    rw [isKnown_iff]
    simp [notFound]
  have notRead : fieldOfMember false fields name head.sorted = none := by
    rw [fieldOfMember_eq, notFound]
    rfl
  have sameNames : knownNames fields ((name, head) :: rest) = knownNames fields rest := by
    rw [knownNames_cons, if_neg unknown]
  have sameTaken :
      collectFields (fieldOfMember false fields) (sortedMembers ((name, head) :: rest)) =
        collectFields (fieldOfMember false fields) (sortedMembers rest) := by
    rw [sortedMembers, collectFields_cons_none notRead]
  constructor
  · rintro ⟨distinct, allClean, taken⟩
    exact ⟨sameNames ▸ distinct, (List.forall_mem_cons.mp allClean).2, sameTaken ▸ taken⟩
  · rintro ⟨distinct, allClean, taken⟩
    exact ⟨sameNames ▸ distinct,
      List.forall_mem_cons.mpr ⟨fun isKnown => absurd isKnown unknown, allClean⟩,
      sameTaken ▸ taken⟩

/-- Nothing is collected where a field is held before. -/
theorem not_collects_repeated {name : String} {head : Value}
    (isKnown : name ∈ fields.map Field.name) (isHeld : name ∈ held.map Prod.fst) :
    ¬Collects fields clean ((name, head) :: rest) held result := by
  rintro ⟨distinct, -, -⟩
  rw [knownNames_cons, if_pos isKnown, List.cons_append, List.nodup_cons] at distinct
  exact distinct.1 (List.mem_append_right _ isHeld)

/-- A field is taken, and held where the others are collected. -/
theorem collects_known {name : String} {head : Value} {field : Field}
    (found : (fields.find? fun field => field.name = name) = some field)
    (isKnown : name ∈ fields.map Field.name) :
    Collects fields clean ((name, head) :: rest) held result ↔
      ∃ value, (clean name head ∧ field.schema.ofValue false head.sorted = .ok value) ∧
        Collects fields clean rest ((name, value) :: held) result := by
  have isRead : fieldOfMember false fields name head.sorted =
      some (field.schema.ofValue false head.sorted) := by
    rw [fieldOfMember_eq, found]
    rfl
  have sameNames (value : Value) : (knownNames fields ((name, head) :: rest) ++
      held.map Prod.fst).Nodup ↔
      (knownNames fields rest ++ ((name, value) :: held).map Prod.fst).Nodup := by
    rw [knownNames_cons, if_pos isKnown]
    exact List.perm_middle.nodup_iff.symm
  constructor
  · rintro ⟨distinct, allClean, _, isCollected, rfl⟩
    obtain ⟨isClean, restClean⟩ := List.forall_mem_cons.mp allClean
    obtain ⟨value, collected, isTaken, restCollected, rfl⟩ :=
      (collectFields_cons_some isRead).mp isCollected
    exact ⟨value, ⟨isClean isKnown, isTaken⟩,
      ⟨(sameNames value).mp distinct, restClean, collected, restCollected, by simp⟩⟩
  · rintro ⟨value, ⟨isClean, isTaken⟩, distinct, restClean, collected, restCollected, rfl⟩
    refine ⟨(sameNames value).mpr distinct, List.forall_mem_cons.mpr ⟨fun _ => isClean, restClean⟩,
      (name, value) :: collected, ?_, by simp⟩
    exact (collectFields_cons_some isRead).mpr ⟨value, collected, isTaken, restCollected, rfl⟩

theorem find?_fieldReaders (fields : List Field) (levels : Nat) (name : String) :
    ((fieldReaders fields levels).find? fun field => field.1.name = name) =
      (fields.find? fun field => field.name = name).map fun field =>
        (field, field.schema.read levels) := by
  induction fields with
  | nil =>
      rw [fieldReaders]
      rfl
  | cons field rest inductionHypothesis =>
      obtain ⟨own, schema, absence⟩ := field
      rw [fieldReaders, List.find?_cons, List.find?_cons]
      by_cases isOwn : own = name
      · simp [isOwn, Field.name, Field.schema]
      · simpa [isOwn, Field.name] using inductionHypothesis

variable {levels : Nat} {cursor inside stop : Cursor}

/-- The members that are written are read one by one as they are collected. -/
theorem gives_readFieldMembers_iff
    (follows : ∀ field ∈ fields, Follows field.schema (clean field.name))
    {rounds : Nat} {first : Bool}
    (ran : Gives (readMembers (readWritten levels) rounds first) cursor members inside)
    (distinct : (held.map Prod.fst).Nodup) :
    Gives (readFieldMembers (fieldReaders fields levels) rounds held first) cursor result stop ↔
      inside = stop ∧ Collects fields clean members held result := by
  induction rounds generalizing cursor members first held with
  | zero =>
      obtain ⟨rfl, rfl⟩ := gives_pure_iff.mp ran
      rw [readFieldMembers, gives_pure_iff, collects_nil distinct, and_comm]
  | succ rounds inductionHypothesis =>
      rw [readMembers] at ran
      obtain ⟨goesOn, between, looked, ran⟩ := gives_bind_iff.mp ran
      rw [readFieldMembers, looked.bind_iff]
      cases goesOn with
      | false =>
          obtain ⟨rfl, rfl⟩ := gives_pure_iff.mp ran
          rw [if_neg Bool.false_ne_true, gives_pure_iff, collects_nil distinct, and_comm]
      | true =>
          rw [if_pos rfl]
          obtain ⟨name, behindName, named, ran⟩ := gives_bind_iff.mp ran
          obtain ⟨_, begin, colon, ran⟩ := gives_bind_iff.mp ran
          obtain ⟨head, behind, one, ran⟩ := gives_bind_iff.mp ran
          obtain ⟨rest, _, others, ran⟩ := gives_bind_iff.mp ran
          obtain ⟨rfl, rfl⟩ := gives_pure_iff.mp ran
          rw [named.bind_iff, find?_fieldReaders]
          cases found : fields.find? fun field => field.name = name with
          | none =>
              rw [Option.map_none, colon.bind_iff, (gives_skipValue one).bind_iff,
                inductionHypothesis others distinct, collects_unknown found]
          | some field =>
              have isField := List.mem_of_find?_eq_some found
              have sameName : field.name = name := by simpa using List.find?_some found
              have isKnown : name ∈ fields.map Field.name :=
                sameName ▸ List.mem_map_of_mem isField
              rw [Option.map_some]
              dsimp only
              split
              · rename_i isRepeated
                have isHeld : name ∈ held.map Prod.fst := by simpa using isRepeated
                simp [not_collects_repeated isKnown isHeld]
              · rename_i isNew
                have notHeld : name ∉ held.map Prod.fst := by simpa using isNew
                have stillDistinct (value : Value) :
                    (((name, value) :: held).map Prod.fst).Nodup :=
                  List.nodup_cons.mpr ⟨notHeld, distinct⟩
                rw [colon.bind_iff, gives_bind_iff, collects_known found isKnown]
                constructor
                · rintro ⟨value, _, taken, later⟩
                  obtain ⟨rfl, isClean, isTaken⟩ := ((follows field isField).gives_iff one).mp taken
                  obtain ⟨rfl, collects⟩ :=
                    (inductionHypothesis others (stillDistinct value)).mp later
                  exact ⟨rfl, value, ⟨sameName ▸ isClean, isTaken⟩, collects⟩
                · rintro ⟨rfl, value, ⟨isClean, isTaken⟩, collects⟩
                  refine ⟨value, behind, ?_,
                    (inductionHypothesis others (stillDistinct value)).mpr ⟨rfl, collects⟩⟩
                  exact ((follows field isField).gives_iff one).mpr
                    ⟨rfl, sameName.symm ▸ isClean, isTaken⟩

/-- The fields of an object are read if they are cleanly written and collected. -/
theorem gives_readFields_iff
    (follows : ∀ field ∈ fields, Follows field.schema (clean field.name))
    {rounds : Nat} {first : Bool}
    (ran : Gives (readMembers (readWritten levels) rounds first) cursor members inside)
    {result : List (String × Value)} :
    Gives (readFieldMembers (fieldReaders fields levels) rounds [] first) cursor result stop ↔
      inside = stop ∧ CleanFields fields clean (.object members) ∧
        ∃ collected, collectFields (fieldOfMember false fields) (sortedMembers members) =
          .ok collected ∧ collected.reverse = result := by
  have noneHeld : (([] : List (String × Value)).map Prod.fst).Nodup := List.nodup_nil
  rw [gives_readFieldMembers_iff follows ran noneHeld]
  refine and_congr_right fun _ => ?_
  constructor
  · rintro ⟨distinct, allClean, taken⟩
    exact ⟨⟨by simpa using distinct, allClean⟩, by simpa using taken⟩
  · rintro ⟨⟨distinct, allClean⟩, taken⟩
    exact ⟨by simpa using distinct, allClean, by simpa using taken⟩

end Members

/-! ## Arrays -/

section Items

variable {levels : Nat} {cursor inside ahead stop : Cursor} {clean : String → Value → Prop}
  {items : List Value}

theorem gives_noItem_iff {first goesOn : Bool} (isClosing : cursor.visible.rest.head? = some 0x5D) :
    Gives (hasNextItem first) cursor goesOn ahead ↔ false = goesOn ∧ cursor.visible = ahead := by
  rw [hasNextItem, gives_peekVisible, isClosing]
  exact gives_pure_iff

/-- An array that is closed has no item left, or one that is read and those behind it. -/
theorem gives_readItems_cases {rounds : Nat} {first : Bool}
    (ran : Gives (readItems (readWritten levels) rounds first) cursor items inside)
    (closed : Gives closeList inside () ahead) :
    (items = [] ∧ cursor.visible.rest.head? = some 0x5D ∧ cursor.visible.next = ahead) ∨
      (cursor.visible.rest.head? ≠ some 0x5D ∧ ∃ rounds item rest between behind,
        items = item :: rest ∧ Gives (hasNextItem first) cursor true between ∧
          Gives (readWritten levels) between item behind ∧
          Gives (readItems (readWritten levels) rounds false) behind rest inside) := by
  obtain ⟨isClosing, rfl⟩ := gives_closeList_iff.mp closed
  cases rounds with
  | zero =>
      obtain ⟨rfl, rfl⟩ := gives_pure_iff.mp ran
      exact .inl ⟨rfl, isClosing, rfl⟩
  | succ rounds =>
      rw [readItems] at ran
      obtain ⟨goesOn, between, looked, ran⟩ := gives_bind_iff.mp ran
      cases goesOn with
      | false =>
          obtain ⟨isNext, rfl⟩ := gives_noItem looked
          obtain ⟨rfl, rfl⟩ := gives_pure_iff.mp ran
          exact .inl ⟨rfl, isNext, by rw [Cursor.visible_visible]⟩
      | true =>
          obtain ⟨item, behind, one, ran⟩ := gives_bind_iff.mp ran
          obtain ⟨rest, _, others, ran⟩ := gives_bind_iff.mp ran
          obtain ⟨rfl, rfl⟩ := gives_pure_iff.mp ran
          obtain ⟨⟨byte, notClosing, isNext⟩, -⟩ := gives_nextItem looked
          exact .inr
            ⟨by simpa [isNext], rounds, item, rest, between, behind, rfl, looked, one, others⟩

/-- Two readers of a list, one behind the other. -/
theorem gives_joined_iff {α β : Type} {keep : α → List β} {result : List β} {first : Reader α}
    {later : Reader (List β)} :
    Gives (do let head ← first; let tail ← later; pure (keep head ++ tail)) cursor result stop ↔
      ∃ head between tail, Gives first cursor head between ∧ Gives later between tail stop ∧
        keep head ++ tail = result := by
  simp only [gives_bind_iff, gives_pure_iff]
  constructor
  · rintro ⟨head, between, isHead, tail, _, isTail, isResult, rfl⟩
    exact ⟨head, between, tail, isHead, isTail, isResult⟩
  · rintro ⟨head, between, tail, isHead, isTail, isResult⟩
    exact ⟨head, between, isHead, tail, stop, isTail, isResult, rfl⟩

/-- The items that are written are read field by field as they are taken. -/
theorem gives_readFieldItems_iff
    (follows : ∀ field ∈ fields, Follows field.schema (clean field.name))
    {rounds taken : Nat}
    (ran : Gives (readItems (readWritten levels) rounds (taken = 0)) cursor items inside)
    (closed : Gives closeList inside () ahead) {expected : String}
    {result : List (String × Value)} :
    (∃ between, Gives (readFieldItems expected taken (fieldReaders fields levels)) cursor result
        between ∧ Gives closeList between () stop) ↔
      ahead = stop ∧ (∀ place ∈ fields.zip items, clean place.1.name place.2) ∧
        items.length ≤ fields.length ∧
        fieldsOfItems false expected taken fields (sortedItems items) = .ok result := by
  induction fields generalizing rounds taken cursor inside items result with
  | nil =>
      rw [fieldReaders, readFieldItems]
      simp only [gives_pure_iff, gives_closeList_iff]
      rcases gives_readItems_cases ran closed with
        ⟨rfl, isClosing, rfl⟩ | ⟨notClosing, _, item, rest, _, _, rfl, _⟩
      · simp [isClosing, fieldsOfItems, and_comm]
      · simp [notClosing]
  | cons field fields inductionHypothesis =>
      obtain ⟨name, schema, absence⟩ := field
      have followsRest : ∀ field ∈ fields, Follows field.schema (clean field.name) :=
        fun field isField => follows field (List.mem_cons_of_mem _ isField)
      rw [fieldReaders, readFieldItems]
      rcases gives_readItems_cases ran closed with
        ⟨rfl, isClosing, rfl⟩ |
        ⟨notClosing, rounds, item, rest, between, behind, rfl, looked, one, others⟩
      · -- Past the end of the array, the closing bracket stays where it is.
        have nothing : Gives (hasNextItem (taken = 0)) cursor false cursor.visible :=
          (gives_noItem_iff isClosing).mpr ⟨rfl, rfl⟩
        have ranOn : Gives (readItems (readWritten levels) 0 (taken + 1 = 0)) cursor.visible []
            cursor.visible := gives_pure_iff.mpr ⟨rfl, rfl⟩
        have closedThere : Gives closeList cursor.visible () cursor.visible.next := by
          rw [gives_closeList_iff, Cursor.visible_visible]
          exact ⟨isClosing, rfl⟩
        simp only [nothing.bind_iff, Bool.false_eq_true, if_false]
        rw [sortedItems, fieldsOfItems]
        simp only [gives_joined_iff, joined_eq_ok_iff, gives_ofCheck_iff]
        have later {result : List (String × Value)} :=
          @inductionHypothesis _ _ _ followsRest _ _ ranOn closedThere result
        constructor
        · rintro ⟨_, ⟨head, _, tail, ⟨rfl, isHead⟩, isTail, isResult⟩, closedBehind⟩
          obtain ⟨isStop, -, -, isTail⟩ := later.mp ⟨_, isTail, closedBehind⟩
          exact ⟨isStop, by simp, Nat.zero_le _, head, tail, isHead, isTail, isResult⟩
        · rintro ⟨isStop, -, -, head, tail, isHead, isTail, isResult⟩
          obtain ⟨last, ranTail, closedBehind⟩ :=
            later.mpr ⟨isStop, by simp, Nat.zero_le _, isTail⟩
          exact ⟨last, ⟨head, _, tail, ⟨rfl, isHead⟩, ranTail, isResult⟩, closedBehind⟩
      · have ranOn : Gives (readItems (readWritten levels) rounds (taken + 1 = 0)) behind rest
            inside := by simpa using others
        simp only [looked.bind_iff, if_true]
        rw [sortedItems, fieldsOfItems, List.zip_cons_cons, List.forall_mem_cons]
        simp only [gives_joined_iff, joined_eq_ok_iff]
        have followed : Follows schema (clean name) := follows _ List.mem_cons_self
        have later {result : List (String × Value)} :=
          @inductionHypothesis _ _ _ followsRest _ _ ranOn closed result
        constructor
        · rintro ⟨_, ⟨head, _, tail, taken, isTail, isResult⟩, closedBehind⟩
          obtain ⟨rfl, isClean, isHead⟩ := (followed.gives_iff one).mp taken
          obtain ⟨isStop, restClean, fits, isTail⟩ := later.mp ⟨_, isTail, closedBehind⟩
          exact ⟨isStop, ⟨isClean, restClean⟩, Nat.succ_le_succ fits, head, tail, isHead, isTail,
            isResult⟩
        · rintro ⟨isStop, ⟨isClean, restClean⟩, fits, head, tail, isHead, isTail, isResult⟩
          obtain ⟨last, ranTail, closedBehind⟩ :=
            later.mpr ⟨isStop, restClean, Nat.le_of_succ_le_succ fits, isTail⟩
          have taken := (followed.gives_iff one).mpr ⟨rfl, isClean, isHead⟩
          exact ⟨last, ⟨head, behind, tail, taken, ranTail, isResult⟩, closedBehind⟩

end Items

/-! ## Records -/

section Records

variable {name : String} {value : Value}

theorem ofValue_scalar {held : Value} (noList : ∀ items, held ≠ .array items)
    (noObject : ∀ members, held ≠ .object members) :
    (Schema.record name fields).ofValue false held.sorted ≠ .ok value := by
  cases held with
  | array items => exact absurd rfl (noList items)
  | object members => exact absurd rfl (noObject members)
  | _ => simp [Value.sorted, Schema.ofValue]

end Records

/-- A record follows what is written if none of its fields is repeated there. -/
theorem follows_record {clean : String → Value → Prop} (name : String)
    (follows : ∀ field ∈ fields, Follows field.schema (clean field.name)) :
    Follows (.record name fields) (CleanFields fields clean) := by
  constructor
  intro levels cursor ahead written ran value stop
  rw [Schema.read, readRecord, gives_peekVisible]
  cases written_of_gives ran with
  | list bracket ranItems closed =>
      simp only [bracket, gives_placed_iff, entering, gives_skipByte]
      rw [Value.sorted, ofValue_array_iff, gives_bind_iff]
      simp only [gives_enclosed_iff, gives_pure_iff]
      constructor
      · rintro ⟨kept, _, ranFields, isValue, rfl⟩
        obtain ⟨rfl, isClean, fits, isKept⟩ :=
          (gives_readFieldItems_iff follows ranItems closed).mp ranFields
        exact ⟨rfl, isClean, kept, by simpa [sortedItems_eq] using fits, isKept, isValue⟩
      · rintro ⟨rfl, isClean, kept, fits, isKept, isValue⟩
        rw [sortedItems_eq, List.length_map] at fits
        exact ⟨kept, stop, (gives_readFieldItems_iff follows ranItems closed).mpr
          ⟨rfl, isClean, fits, isKept⟩, isValue, rfl⟩
  | @object _ members inside brace ranMembers closed =>
      simp only [brace, gives_placed_iff, entering, gives_skipByte, gives_remaining]
      rw [Value.sorted, ofValue_object_iff, gives_bind_iff]
      simp only [gives_enclosed_iff, gives_pure_iff, gives_bind_iff, gives_ofCheck_iff,
        gives_readFields_iff follows ranMembers]
      constructor
      · rintro ⟨kept, _, ⟨_, ⟨_, _, ⟨rfl, isClean, collected, isCollected, rfl⟩, rfl, isKept⟩,
          closedFields⟩, isValue, rfl⟩
        have distinct := (knownNames_sortedMembers fields members).symm ▸ isClean.1
        exact ⟨(closedFields.unique closed).2, isClean, kept,
          (assembled_iff distinct).mp ⟨collected, isCollected, isKept⟩, isValue⟩
      · rintro ⟨rfl, isClean, kept, isAssembled, isValue⟩
        have distinct := (knownNames_sortedMembers fields members).symm ▸ isClean.1
        obtain ⟨collected, isCollected, isKept⟩ := (assembled_iff distinct).mpr isAssembled
        exact ⟨kept, stop, ⟨inside, ⟨_, inside, ⟨rfl, isClean, collected, isCollected, rfl⟩, rfl,
          isKept⟩, closed⟩, isValue, rfl⟩
  | scalar noBracket noBrace isNull noList noObject found =>
      have refused : (Schema.record name fields).ofValue false written.sorted ≠ .ok value :=
        ofValue_scalar noList noObject
      split
      · contradiction
      · contradiction
      · simp [refused]

/-! ## Whole texts -/

section Texts

variable {bytes : Bytes} {value : Value}

/-- The value of a text is what is written there, sorted. -/
theorem parse_iff_written :
    parse bytes = .ok value ↔
      ∃ written, parseWritten bytes = .ok written ∧ written.sorted = value := by
  simp only [parse, parseWritten, gives_readAll_iff, readValue_eq, gives_map_iff]
  constructor
  · rintro ⟨ahead, ⟨written, ran, rfl⟩, nothingElse⟩
    exact ⟨written, ⟨ahead, ran, nothingElse⟩, rfl⟩
  · rintro ⟨written, ⟨ahead, ran, nothingElse⟩, rfl⟩
    exact ⟨ahead, ⟨written, ran, rfl⟩, nothingElse⟩

/-- A schema takes from a text what it takes of the value there, if that is cleanly written. -/
theorem Follows.parse_iff {schema : Schema} {clean : Value → Prop} (follows : Follows schema clean)
    {written : Value} (isWritten : parseWritten bytes = .ok written) :
    schema.parse bytes = .ok value ↔
      clean written ∧ schema.ofValue false written.sorted = .ok value := by
  obtain ⟨ahead, ran, nothingElse⟩ := gives_readAll_iff.mp isWritten
  rw [Schema.parse, gives_readAll_iff]
  constructor
  · rintro ⟨stop, taken, -⟩
    exact ((follows.gives_iff ran).mp taken).2
  · intro passes
    exact ⟨ahead, (follows.gives_iff ran).mpr ⟨rfl, passes⟩, nothingElse⟩

/-- Data are read from a text as from the value there, if that is cleanly written. -/
theorem Follows.parse_data_iff {α : Type} [Interpretation α] {clean : Value → Prop}
    (follows : Follows (Interpretation.schema α) clean) {written : Value}
    (isWritten : parseWritten bytes = .ok written) {data : α} :
    Interpretation.parse bytes = .ok data ↔
      clean written ∧ Interpretation.decode written.sorted = .ok data := by
  rw [Interpretation.parse, Interpretation.decode, bind_eq_ok_iff, bind_eq_ok_iff]
  simp only [follows.parse_iff isWritten, decode_eq_ok_iff, and_assoc, exists_and_left]

end Texts

end RpcEndpoint.Json
