import RpcEndpoint.Proofs.Json.Integers
import RpcEndpoint.Proofs.Json.Strings
import RpcEndpoint.Proofs.Json.Written

/-!
# Values in JSON text

What a value is printed as is read as that value, as it is written. Values with floats are left out,
and so are those that are nested too deep.
-/

namespace RpcEndpoint.Json

/-- Whether the value has integers only and its arrays and objects are nested to so many levels at
the most. -/
def Value.plain : Nat → Value → Bool
  | _, .number (.float _) => false
  | 0, .array _ => false
  | 0, .object _ => false
  | levels + 1, .array items => items.all (plain levels)
  | levels + 1, .object members => members.all fun member => plain levels member.2
  | _, _ => true

/-! ## Printed text -/

/-- Texts with commas in between. -/
def separated : List Bytes → Bytes
  | [] => []
  | first :: rest => first ++ rest.flatMap (0x2C :: ·)

/-- A string as it is printed. -/
def encodeName (name : String) : Bytes :=
  Bytes.quote :: (escaped name.toList ++ [Bytes.quote])

/-- A member as it is printed. -/
def encodeMember (member : String × Value) : Bytes :=
  encodeName member.1 ++ 0x3A :: member.2.encode

private theorem encodeText_renderItems (items : List Value) :
    encodeText (renderItems items) = separated (items.map Value.encode) := by
  induction items with
  | nil =>
      rfl
  | cons item rest inductionHypothesis =>
      cases rest with
      | nil =>
          exact (List.append_nil _).symm
      | cons next rest =>
          rw [renderItems, encodeText_append, encodeText_append, inductionHypothesis,
            List.append_assoc]
          rfl

private theorem encodeText_member (name : String) (value : Value) :
    encodeText (renderString name ++ ":" ++ value.render) = encodeMember (name, value) := by
  rw [encodeText_append, encodeText_append, encodeText_renderString, List.append_assoc]
  rfl

private theorem encodeText_renderMembers (members : List (String × Value)) :
    encodeText (renderMembers members) = separated (members.map encodeMember) := by
  induction members with
  | nil =>
      rfl
  | cons member rest inductionHypothesis =>
      obtain ⟨name, value⟩ := member
      cases rest with
      | nil =>
          rw [renderMembers, encodeText_member]
          exact (List.append_nil _).symm
      | cons next rest =>
          rw [renderMembers, encodeText_append, encodeText_append, encodeText_member,
            inductionHypothesis, List.append_assoc]
          rfl

theorem encode_array (items : List Value) :
    (Value.array items).encode = 0x5B :: (separated (items.map Value.encode) ++ [0x5D]) := by
  rw [Value.encode, Value.render, encodeText_append, encodeText_append, encodeText_renderItems]
  rfl

theorem encode_object (members : List (String × Value)) :
    (Value.object members).encode =
      0x7B :: (separated (members.map encodeMember) ++ [0x7D]) := by
  rw [Value.encode, Value.render, encodeText_append, encodeText_append,
    encodeText_renderMembers]
  rfl

theorem encode_string (text : String) : (Value.string text).encode = encodeName text :=
  encodeText_renderString text

/-- The sign of an integer and its digits. -/
theorem encode_integer (whole : Integer) :
    (Value.number (.integer whole)).encode =
      if whole.value < 0 then 0x2D :: digits whole.value.natAbs
      else digits whole.value.natAbs := by
  rw [Value.encode, Value.render, Number.render]
  cases whole.value with
  | ofNat number =>
      rw [if_neg (Int.not_lt.mpr (Int.natCast_nonneg number) : ¬ Int.ofNat number < 0)]
      exact encodeText_toString number
  | negSucc number =>
      rw [if_pos (Int.negSucc_lt_zero number)]
      change encodeText ("-" ++ toString (number + 1)) = _
      rw [encodeText_append, encodeText_toString]
      rfl

theorem isBlankByte_of_isDigit {byte : UInt8} (isDigit : Bytes.isDigit byte = true) :
    isBlankByte byte = false := by
  rw [Bool.eq_false_iff]
  intro isBlank
  simp only [isBlankByte, Bool.or_eq_true, decide_eq_true_eq] at isBlank
  rcases isBlank with ((rfl | rfl) | rfl) | rfl <;> contradiction

/-- The text begins with something that is no white space and closes no array. -/
def Begins (bytes : Bytes) : Prop :=
  ∃ byte rest, bytes = byte :: rest ∧ isBlankByte byte = false ∧ byte ≠ 0x5D

theorem begins_encode (value : Value) {levels : Nat} (plain : value.plain levels = true) :
    Begins value.encode := by
  cases value with
  | null =>
      exact ⟨0x6E, _, rfl, rfl, by decide⟩
  | bool held =>
      cases held with
      | true =>
          exact ⟨0x74, _, rfl, rfl, by decide⟩
      | false =>
          exact ⟨0x66, _, rfl, rfl, by decide⟩
  | number number =>
      cases number with
      | integer whole =>
          rw [encode_integer]
          split
          · exact ⟨0x2D, _, rfl, rfl, by decide⟩
          · cases isDigits : digits whole.value.natAbs with
            | nil =>
                exact absurd isDigits (digits_ne_nil _)
            | cons first rest =>
                have isDigit : Bytes.isDigit first = true :=
                  isDigit_of_mem_digits (isDigits ▸ List.mem_cons_self)
                refine ⟨first, rest, rfl, isBlankByte_of_isDigit isDigit, ?_⟩
                rintro rfl
                contradiction
      | float held =>
          cases levels <;> contradiction
  | string text =>
      exact ⟨Bytes.quote, _, encode_string text, rfl, by decide⟩
  | array items =>
      exact ⟨0x5B, _, encode_array items, rfl, by decide⟩
  | object members =>
      exact ⟨0x7B, _, encode_object members, rfl, by decide⟩

namespace Reader

/-! ## Items -/

theorem delimited_cons {byte : UInt8} (separates : byte = 0x2C ∨ byte = 0x5D ∨ byte = 0x7D)
    (rest : Bytes) : Delimited (byte :: rest) := by
  intro other isHead
  rw [← Option.some.inj isHead]
  exact separates

private theorem reads_noItem (first : Bool) (rest : Bytes) :
    Reads (hasNextItem first) [] (0x5D :: rest) false := by
  refine (reads_peekVisible rfl rest).look ?_
  exact reads_pure false _

private theorem reads_firstItem {bytes : Bytes} (begins : Begins bytes) (rest : Bytes) :
    Reads (hasNextItem true) [] (bytes ++ rest) true := by
  obtain ⟨byte, tail, rfl, visible, notClosing⟩ := begins
  refine (reads_peekVisible visible _).look ?_
  split
  · contradiction
  · rename_i isClosing
    exact absurd (Option.some.inj isClosing) notClosing
  · exact reads_pure true _

private theorem reads_nextItem {bytes : Bytes} (begins : Begins bytes) (rest : Bytes) :
    Reads (hasNextItem false) [0x2C] (bytes ++ rest) true := by
  obtain ⟨byte, tail, rfl, visible, notClosing⟩ := begins
  refine (reads_peekVisible rfl _).look ?_
  refine (reads_skipByte 0x2C _).step ?_
  refine (reads_peekVisible visible _).look ?_
  split
  · rename_i isClosing
    exact absurd (Option.some.inj isClosing) notClosing
  · exact reads_pure true _
  · contradiction

theorem delimited_separators
    (texts : List Bytes) {closing : UInt8} (closes : closing = 0x5D ∨ closing = 0x7D)
    (rest : Bytes) : Delimited (texts.flatMap (0x2C :: ·) ++ closing :: rest) := by
  cases texts with
  | nil =>
      exact delimited_cons (.inr closes) rest
  | cons next texts =>
      exact delimited_cons (.inl rfl) _

section Items

variable {item : Reader Value} {items : List Value}

private theorem reads_laterItems
    (reads : ∀ element ∈ items, ∀ rest, Delimited rest →
      Reads item element.encode rest element)
    (begins : ∀ element ∈ items, Begins element.encode)
    {fuel : Nat} (enough : items.length < fuel) (rest : Bytes) :
    Reads (readItems item fuel false) ((items.map Value.encode).flatMap (0x2C :: ·))
      (0x5D :: rest) items := by
  induction items generalizing fuel with
  | nil =>
      obtain ⟨fuel, rfl⟩ := Nat.exists_eq_succ_of_ne_zero (Nat.ne_of_gt enough)
      refine (reads_noItem false rest).look ?_
      exact reads_pure [] _
  | cons element items inductionHypothesis =>
      obtain ⟨fuel, rfl⟩ := Nat.exists_eq_succ_of_ne_zero (Nat.ne_of_gt (Nat.zero_lt_of_lt enough))
      have later := inductionHypothesis
        (fun other mem => reads other (List.mem_cons_of_mem element mem))
        (fun other mem => begins other (List.mem_cons_of_mem element mem))
        (Nat.lt_of_succ_lt_succ enough)
      rw [List.map_cons, List.flatMap_cons, List.cons_append, readItems]
      have goesOn := reads_nextItem (begins element List.mem_cons_self)
        ((items.map Value.encode).flatMap (0x2C :: ·) ++ 0x5D :: rest)
      rw [← List.append_assoc] at goesOn
      refine goesOn.step ?_
      rw [if_pos rfl]
      refine (reads element List.mem_cons_self _ (delimited_separators _ (.inl rfl) rest)).bind ?_
      exact later.map (element :: ·)

theorem reads_readItems
    (reads : ∀ element ∈ items, ∀ rest, Delimited rest →
      Reads item element.encode rest element)
    (begins : ∀ element ∈ items, Begins element.encode)
    {fuel : Nat} (enough : items.length < fuel) (rest : Bytes) :
    Reads (readItems item fuel true) (separated (items.map Value.encode)) (0x5D :: rest) items := by
  obtain ⟨fuel, rfl⟩ := Nat.exists_eq_succ_of_ne_zero (Nat.ne_of_gt (Nat.zero_lt_of_lt enough))
  cases items with
  | nil =>
      refine (reads_noItem true rest).look ?_
      exact reads_pure [] _
  | cons element items =>
      have later := reads_laterItems
        (fun other mem => reads other (List.mem_cons_of_mem element mem))
        (fun other mem => begins other (List.mem_cons_of_mem element mem))
        (Nat.lt_of_succ_lt_succ enough) rest
      rw [List.map_cons, separated, readItems]
      have goesOn := reads_firstItem (begins element List.mem_cons_self)
        ((items.map Value.encode).flatMap (0x2C :: ·) ++ 0x5D :: rest)
      rw [← List.append_assoc] at goesOn
      refine goesOn.look ?_
      rw [if_pos rfl]
      refine (reads element List.mem_cons_self _ (delimited_separators _ (.inl rfl) rest)).bind ?_
      exact later.map (element :: ·)

end Items

/-! ## Members -/

theorem reads_readKey (name : String) (rest : Bytes) :
    Reads readKey (encodeName name) rest name := by
  refine (reads_skipByte Bytes.quote _).step ?_
  exact reads_readText name rest

theorem reads_readColon (rest : Bytes) : Reads readColon [0x3A] rest () := by
  refine (reads_peekVisible rfl rest).look ?_
  exact reads_skipByte 0x3A rest

theorem reads_noKey (first : Bool) (rest : Bytes) :
    Reads (hasNextKey first) [] (0x7D :: rest) false := by
  refine (reads_peekVisible rfl rest).look ?_
  exact reads_pure false _

theorem reads_firstKey (name : String) (rest : Bytes) :
    Reads (hasNextKey true) [] (encodeName name ++ rest) true := by
  refine (reads_peekVisible rfl _).look ?_
  exact reads_pure true _

theorem reads_nextKey (name : String) (rest : Bytes) :
    Reads (hasNextKey false) [0x2C] (encodeName name ++ rest) true := by
  refine (reads_peekVisible rfl _).look ?_
  refine (reads_skipByte 0x2C _).step ?_
  refine (reads_peekVisible rfl _).look ?_
  exact reads_pure true _

section Members

variable {value : Reader Value} {members : List (String × Value)}

/-- One member and what comes behind it. -/
private theorem reads_member
    {member : String × Value} {more rest : Bytes} {others : List (String × Value)}
    (reads : Reads value member.2.encode (more ++ rest) member.2)
    {later : Reader (List (String × Value))} (goesOn : Reads later more rest others) :
    Reads
      (do
        let name ← readKey
        readColon
        let head ← value
        let rest ← later
        pure ((name, head) :: rest))
      (encodeMember member ++ more) rest (member :: others) := by
  rw [encodeMember, List.append_assoc, List.cons_append]
  refine (reads_readKey member.1 _).bind ?_
  refine (reads_readColon _).step ?_
  refine reads.bind ?_
  exact goesOn.map (member :: ·)

private theorem reads_laterMembers
    (reads : ∀ member ∈ members, ∀ rest, Delimited rest →
      Reads value member.2.encode rest member.2)
    {fuel : Nat} (enough : members.length < fuel) (rest : Bytes) :
    Reads (readMembers value fuel false) ((members.map encodeMember).flatMap (0x2C :: ·))
      (0x7D :: rest) members := by
  induction members generalizing fuel with
  | nil =>
      obtain ⟨fuel, rfl⟩ := Nat.exists_eq_succ_of_ne_zero (Nat.ne_of_gt enough)
      refine (reads_noKey false rest).look ?_
      exact reads_pure [] _
  | cons member members inductionHypothesis =>
      obtain ⟨fuel, rfl⟩ := Nat.exists_eq_succ_of_ne_zero (Nat.ne_of_gt (Nat.zero_lt_of_lt enough))
      have later := inductionHypothesis
        (fun other mem => reads other (List.mem_cons_of_mem member mem))
        (Nat.lt_of_succ_lt_succ enough)
      have one := reads_member
        (reads member List.mem_cons_self _ (delimited_separators _ (.inr rfl) rest)) later
      rw [List.map_cons, List.flatMap_cons, List.cons_append, readMembers]
      have goesOn := reads_nextKey member.1
        ((0x3A :: member.2.encode ++ (members.map encodeMember).flatMap (0x2C :: ·)) ++
          0x7D :: rest)
      rw [← List.append_assoc, ← List.append_assoc] at goesOn
      refine goesOn.step ?_
      rw [if_pos rfl]
      exact one

theorem reads_readMembers
    (reads : ∀ member ∈ members, ∀ rest, Delimited rest →
      Reads value member.2.encode rest member.2)
    {fuel : Nat} (enough : members.length < fuel) (rest : Bytes) :
    Reads (readMembers value fuel true) (separated (members.map encodeMember)) (0x7D :: rest)
      members := by
  obtain ⟨fuel, rfl⟩ := Nat.exists_eq_succ_of_ne_zero (Nat.ne_of_gt (Nat.zero_lt_of_lt enough))
  cases members with
  | nil =>
      refine (reads_noKey true rest).look ?_
      exact reads_pure [] _
  | cons member members =>
      have later := reads_laterMembers
        (fun other mem => reads other (List.mem_cons_of_mem member mem))
        (Nat.lt_of_succ_lt_succ enough) rest
      have one := reads_member
        (reads member List.mem_cons_self _ (delimited_separators _ (.inr rfl) rest)) later
      rw [List.map_cons, separated, readMembers]
      have goesOn := reads_firstKey member.1
        ((0x3A :: member.2.encode ++ (members.map encodeMember).flatMap (0x2C :: ·)) ++
          0x7D :: rest)
      rw [← List.append_assoc, ← List.append_assoc] at goesOn
      refine goesOn.look ?_
      rw [if_pos rfl]
      exact one

end Members

/-! ## Arrays and objects -/

private theorem reads_closeList (rest : Bytes) : Reads closeList [0x5D] rest () := by
  refine (reads_peekVisible rfl rest).look ?_
  exact reads_skipByte 0x5D rest

theorem reads_closeObject (rest : Bytes) : Reads closeObject [0x7D] rest () := by
  refine (reads_peekVisible rfl rest).look ?_
  exact reads_skipByte 0x7D rest

theorem length_le_separated (texts : List Bytes) :
    texts.length ≤ (separated texts).length + 1 := by
  cases texts with
  | nil =>
      exact Nat.zero_le _
  | cons first rest =>
      have commas : rest.length ≤ (rest.flatMap (0x2C :: ·)).length := by
        induction rest with
        | nil =>
            exact Nat.le_refl 0
        | cons next rest inductionHypothesis =>
            rw [List.flatMap_cons, List.length_append, List.length_cons, List.length_cons]
            omega
      rw [separated, List.length_append, List.length_cons]
      omega

/-- There are at least as many bytes as items. -/
theorem enough_rounds (texts : List Bytes) (closing : UInt8) (rest : Bytes) :
    texts.length < (separated texts ++ [closing] ++ rest).length + 1 := by
  have few := length_le_separated texts
  rw [List.length_append, List.length_append, List.length_singleton]
  omega

theorem reads_readList
    {item : Reader Value} {items : List Value}
    (reads : ∀ element ∈ items, ∀ rest, Delimited rest →
      Reads item element.encode rest element)
    (begins : ∀ element ∈ items, Begins element.encode) (rest : Bytes) :
    Reads (readList item) (Value.array items).encode rest items := by
  have enough := enough_rounds (items.map Value.encode) 0x5D rest
  rw [List.length_map] at enough
  rw [encode_array]
  refine (reads_skipByte 0x5B _).step ?_
  refine (reads_remaining _).look ?_
  exact (reads_readItems reads begins enough rest).enclosed (reads_closeList rest)

theorem reads_readObject
    {value : Reader Value} {members : List (String × Value)}
    (reads : ∀ member ∈ members, ∀ rest, Delimited rest →
      Reads value member.2.encode rest member.2) (rest : Bytes) :
    Reads (readObject value) (Value.object members).encode rest members := by
  have enough := enough_rounds (members.map encodeMember) 0x7D rest
  rw [List.length_map] at enough
  rw [encode_object]
  refine (reads_skipByte 0x7B _).step ?_
  refine (reads_remaining _).look ?_
  exact (reads_readMembers reads enough rest).enclosed (reads_closeObject rest)

/-! ## Values -/

/-- An integer is printed with a minus sign in front or with a digit. -/
theorem reads_numeral (whole : Integer) {rest : Bytes} (delimited : Delimited rest) :
    (∃ tail, (Value.number (.integer whole)).encode = 0x2D :: tail ∧
        Reads (readNumber true) tail rest (.integer whole)) ∨
      ∃ first tail, (Value.number (.integer whole)).encode = first :: tail ∧
        Bytes.isDigit first = true ∧
        Reads (readNumber false) (first :: tail) rest (.integer whole) := by
  have small : whole.value.natAbs < significandBound := by
    have least := whole.least_le
    have bound := whole.lt_bound
    simp only [leastInteger, integerBound, significandBound] at least bound ⊢
    omega
  have isWhole := wholeNumber_natAbs whole
  rw [encode_integer, ← isWhole]
  by_cases isNegative : whole.value < 0
  · rw [if_pos isNegative, decide_eq_true isNegative]
    exact .inl ⟨_, rfl, reads_readNumber true small delimited⟩
  · rw [if_neg isNegative, decide_eq_false isNegative]
    have reads := reads_readNumber false small delimited
    cases isDigits : digits whole.value.natAbs with
    | nil =>
        exact absurd isDigits (digits_ne_nil _)
    | cons first tail =>
        rw [isDigits] at reads
        exact .inr ⟨first, tail, rfl,
          isDigit_of_mem_digits (isDigits ▸ List.mem_cons_self), reads⟩

private theorem reads_integer
    (inner : Option (Reader Value)) (whole : Integer) {rest : Bytes} (delimited : Delimited rest) :
    Reads (readWrittenWith inner) (Value.number (.integer whole)).encode rest
      (.number (.integer whole)) := by
  rcases reads_numeral whole delimited with
    ⟨tail, isEncoded, reads⟩ | ⟨first, tail, isEncoded, isDigit, reads⟩
  · rw [isEncoded]
    refine (reads_peekVisible rfl _).look ?_
    refine (reads_skipByte 0x2D _).step ?_
    exact reads.map Value.number
  · rw [isEncoded]
    refine (reads_peekVisible (isBlankByte_of_isDigit isDigit) _).look ?_
    split
    all_goals rename_i isFirst
    · contradiction
    all_goals cases Option.some.inj isFirst
    -- A digit opens none of the other values.
    iterate 7 contradiction
    rw [if_pos isDigit]
    exact reads.map Value.number

/-- A value that opens no array and no object. -/
private theorem reads_scalar
    (inner : Option (Reader Value)) {value : Value} (plain : value.plain 0 = true) {rest : Bytes}
    (delimited : Delimited rest) :
    Reads (readWrittenWith inner) value.encode rest value := by
  cases value with
  | null =>
      refine (reads_peekVisible rfl _).look ?_
      refine (reads_skipByte 0x6E _).step ?_
      exact (reads_readWord [0x75, 0x6C, 0x6C] rest).last (reads_pure _ rest)
  | bool held =>
      cases held with
      | true =>
          refine (reads_peekVisible rfl _).look ?_
          refine (reads_skipByte 0x74 _).step ?_
          exact (reads_readWord [0x72, 0x75, 0x65] rest).last (reads_pure _ rest)
      | false =>
          refine (reads_peekVisible rfl _).look ?_
          refine (reads_skipByte 0x66 _).step ?_
          exact (reads_readWord [0x61, 0x6C, 0x73, 0x65] rest).last (reads_pure _ rest)
  | number number =>
      cases number with
      | integer whole =>
          exact reads_integer inner whole delimited
      | float held =>
          contradiction
  | string text =>
      rw [encode_string]
      refine (reads_peekVisible rfl _).look ?_
      refine (reads_skipByte Bytes.quote _).step ?_
      exact (reads_readText text rest).map Value.string
  | array items =>
      contradiction
  | object members =>
      contradiction

/-- A value is read as it was printed. -/
theorem reads_readWritten
    {levels : Nat} {value : Value} (plain : value.plain levels = true) {rest : Bytes}
    (delimited : Delimited rest) :
    Reads (readWritten levels) value.encode rest value := by
  induction levels generalizing value rest with
  | zero =>
      exact reads_scalar none plain delimited
  | succ levels inductionHypothesis =>
      cases value with
      | array items =>
          have allPlain := List.all_eq_true.mp plain
          have list := reads_readList
            (fun item mem rest delimited => inductionHypothesis (allPlain item mem) delimited)
            (fun item mem => begins_encode item (allPlain item mem)) rest
          have opened : Reads peekVisible [] ((Value.array items).encode ++ rest) (some 0x5B) := by
            rw [encode_array]
            exact reads_peekVisible rfl _
          refine opened.look ?_
          exact list.map Value.array
      | object members =>
          have allPlain := List.all_eq_true.mp plain
          have object := reads_readObject
            (fun member mem rest delimited => inductionHypothesis (allPlain member mem) delimited)
            rest
          have opened : Reads peekVisible [] ((Value.object members).encode ++ rest)
              (some 0x7B) := by
            rw [encode_object]
            exact reads_peekVisible rfl _
          refine opened.look ?_
          exact object.map Value.object
      | null | bool held | string text =>
          exact reads_scalar _ rfl delimited
      | number number =>
          cases number with
          | integer whole =>
              exact reads_scalar _ rfl delimited
          | float held =>
              contradiction

end Reader

/-- A text says what its value is printed as. -/
theorem parseWritten_encode {value : Value} (plain : value.plain nestingLimit = true) :
    parseWritten value.encode = .ok value :=
  (Reader.reads_readWritten plain delimited_nil).readAll

end RpcEndpoint.Json
