import RpcEndpoint.Json.Schema.OfText
import RpcEndpoint.Proofs.Json.Skipping

/-!
# Two routes through a schema

A schema takes a value from its text, or from the value that was read before. Both routes come to
the same where no field of a record is repeated; where one is, the text is refused.
-/

namespace RpcEndpoint.Json

open Reader

variable {levels : Nat} {cursor ahead stop : Cursor} {written value : Value}

/-! ## What is written -/

/-- How a value stands between two places of a text: with its items or its members in brackets, or
as a scalar, which is found as a whole. -/
inductive Written (cursor ahead : Cursor) : Nat → Value → Prop
  | list {levels : Nat} {items : List Value} {inside : Cursor}
      (bracket : cursor.visible.rest.head? = some 0x5B)
      (ran : Gives (readItems (readWritten levels) (cursor.visible.next.left + 1) true)
        cursor.visible.next items inside)
      (closed : Gives closeList inside () ahead) : Written cursor ahead (levels + 1) (.array items)
  | object {levels : Nat} {members : List (String × Value)} {inside : Cursor}
      (brace : cursor.visible.rest.head? = some 0x7B)
      (ran : Gives (readMembers (readWritten levels) (cursor.visible.next.left + 1) true)
        cursor.visible.next members inside)
      (closed : Gives closeObject inside () ahead) :
      Written cursor ahead (levels + 1) (.object members)
  | scalar {levels : Nat} {written : Value}
      (noBracket : cursor.visible.rest.head? ≠ some 0x5B)
      (noBrace : cursor.visible.rest.head? ≠ some 0x7B)
      (isNull : written = .null ↔ cursor.visible.rest.head? = some 0x6E)
      (noList : ∀ items, written ≠ .array items) (noObject : ∀ members, written ≠ .object members)
      (found : Gives readFound cursor written.found ahead) : Written cursor ahead levels written

private theorem written_of_inner (inner : Option Nat)
    (ran : Gives (readWrittenWith (inner.map readWritten)) cursor written ahead) :
    Written cursor ahead (inner.elim 0 (· + 1)) written := by
  unfold readWrittenWith at ran
  rw [gives_peekVisible] at ran
  split at ran
  case h_1 => exact absurd ran (not_gives_failAtNext _)
  all_goals rename_i isNext
  case h_2 | h_3 | h_4 =>
    rw [gives_skipByte] at ran
    obtain ⟨_, _, word, ran⟩ := gives_bind_iff.mp ran
    obtain ⟨rfl, rfl⟩ := gives_pure_iff.mp ran
    refine .scalar (by simp [isNext]) (by simp [isNext]) (by simp [isNext]) (by simp) (by simp) ?_
    simp only [readFound, gives_peekVisible, isNext, gives_skipByte]
    exact gives_bind_iff.mpr ⟨(), _, word, gives_pure_iff.mpr ⟨rfl, rfl⟩⟩
  case h_5 | h_6 =>
    rw [gives_skipByte] at ran
    obtain ⟨_, _, one, ran⟩ := gives_bind_iff.mp ran
    obtain ⟨rfl, rfl⟩ := gives_pure_iff.mp ran
    refine .scalar (by simp [isNext]) (by simp [isNext]) (by simp [isNext]) (by simp) (by simp) ?_
    simp only [readFound, gives_peekVisible, isNext, gives_skipByte]
    exact gives_bind_iff.mpr ⟨_, _, one, gives_pure_iff.mpr ⟨rfl, rfl⟩⟩
  case h_7 =>
    cases inner with
    | none => exact absurd ran (not_gives_failAtNext _)
    | some levels =>
        obtain ⟨items, _, list, ran⟩ := gives_bind_iff.mp ran
        obtain ⟨rfl, rfl⟩ := gives_pure_iff.mp ran
        rw [readList, gives_skipByte, gives_remaining] at list
        obtain ⟨inside, items, closed⟩ := gives_enclosed_iff.mp list
        exact .list isNext items closed
  case h_8 =>
    cases inner with
    | none => exact absurd ran (not_gives_failAtNext _)
    | some levels =>
        obtain ⟨members, _, object, ran⟩ := gives_bind_iff.mp ran
        obtain ⟨rfl, rfl⟩ := gives_pure_iff.mp ran
        rw [readObject, gives_skipByte, gives_remaining] at object
        obtain ⟨inside, members, closed⟩ := gives_enclosed_iff.mp object
        exact .object isNext members closed
  case h_9 =>
    split at ran
    · rename_i isDigit
      obtain ⟨number, _, one, ran⟩ := gives_bind_iff.mp ran
      obtain ⟨rfl, rfl⟩ := gives_pure_iff.mp ran
      refine .scalar (by simpa [isNext]) (by simpa [isNext]) (by simpa [isNext]) (by simp) (by simp) ?_
      simp only [readFound, gives_peekVisible, isNext, if_pos isDigit]
      exact gives_bind_iff.mpr ⟨number, _, one, gives_pure_iff.mpr ⟨rfl, rfl⟩⟩
    · exact absurd ran (not_gives_failAtNext _)

theorem written_of_gives (ran : Gives (readWritten levels) cursor written ahead) :
    Written cursor ahead levels written := by
  cases levels with
  | zero => exact written_of_inner none ran
  | succ levels => exact written_of_inner (some levels) ran

/-! ## Following -/

/-- The schema takes from a text what it takes of the value that is written there, if that value
is clean; else it takes nothing. -/
structure Follows (schema : Schema) (clean : Value → Prop) : Prop where
  gives_iff {levels : Nat} {cursor ahead : Cursor} {written : Value}
    (ran : Gives (readWritten levels) cursor written ahead) {value : Value} {stop : Cursor} :
    Gives (schema.read levels) cursor value stop ↔
      stop = ahead ∧ clean written ∧ schema.ofValue false written.sorted = .ok value

theorem Follows.congr
    {schema : Schema} {clean other : Value → Prop} (follows : Follows schema clean)
    (same : ∀ written, clean written ↔ other written) : Follows schema other := by
  constructor
  intro levels cursor ahead written ran value stop
  rw [follows.gives_iff ran, same]

theorem follows_any : Follows .any fun _ => True := by
  constructor
  intro levels cursor ahead written ran value stop
  rw [Schema.read, readValue_eq, gives_map_iff, Schema.ofValue]
  constructor
  · rintro ⟨other, again, rfl⟩
    obtain ⟨rfl, rfl⟩ := ran.unique again
    exact ⟨rfl, trivial, rfl⟩
  · rintro ⟨rfl, -, isValue⟩
    exact ⟨written, ran, Except.ok.inj isValue⟩

/-! ### Scalars -/

theorem gives_ofCheck_iff {α : Type} {outcome : Except Mismatch α} {value : α} :
    Gives (ofCheck outcome) cursor value stop ↔ cursor = stop ∧ outcome = .ok value := by
  cases outcome with
  | ok held => simp [ofCheck, gives_pure_iff, and_comm]
  | error cause => simp [ofCheck]

@[simp]
theorem not_gives_wrongType {α : Type} {expected : String} {value : α} :
    ¬Gives (wrongType expected) cursor value stop := by
  intro ran
  obtain ⟨found, _, _, failed⟩ := gives_bind_iff.mp (gives_placed_iff.mp ran)
  exact not_gives_mismatch _ failed

theorem gives_settle_iff {expected : String} {check : Value → Option (Except Mismatch Value)}
    {found : Found} :
    Gives (readScalar.settle expected check found written) cursor value stop ↔
      cursor = stop ∧ check written = some (.ok value) := by
  rw [readScalar.settle]
  split <;> simp [*, gives_ofCheck_iff]

/-- A schema of scalars follows the value that is written as it checks it. -/
theorem follows_scalar {schema : Schema} {expected : String}
    {check : Value → Option (Except Mismatch Value)}
    (isRead : ∀ levels, schema.read levels = readScalar expected check)
    (isChecked : ∀ held value,
      schema.ofValue false held = .ok value ↔ check held = some (.ok value))
    (noList : ∀ items, check (.array items) = none)
    (noObject : ∀ members, check (.object members) = none) : Follows schema fun _ => True := by
  constructor
  intro levels cursor ahead written ran value stop
  rw [isRead, isChecked, readScalar, gives_placed_iff]
  cases written_of_gives ran with
  | list bracket =>
      have found : Gives readFound cursor .sequence cursor.visible := by
        simp [readFound, bracket, gives_pure_iff]
      simp [found.bind_iff, Value.sorted, noList]
  | object brace =>
      have found : Gives readFound cursor .map cursor.visible := by
        simp [readFound, brace, gives_pure_iff]
      simp [found.bind_iff, Value.sorted, noObject]
  | scalar noBracket noBrace isNull isNoList isNoObject found =>
      rw [found.bind_iff]
      cases written with
      | null | bool _ | string _ => simp [Value.found, Value.sorted, gives_settle_iff, eq_comm]
      | number number =>
          cases number with
          | float _ => simp [Value.found, Value.sorted, gives_settle_iff, eq_comm]
          | integer whole =>
              have isWhole : Integer.ofInt? whole.value = some whole :=
                dif_pos ⟨whole.least_le, whole.lt_bound⟩
              simp [Value.found, Value.sorted, isWhole, gives_settle_iff, eq_comm]
      | array items => exact absurd rfl (isNoList items)
      | object members => exact absurd rfl (isNoObject members)

theorem follows_text (expected : String) : Follows (.text expected) fun _ => True := by
  refine follows_scalar (fun levels => by rw [Schema.read]) ?_ ?_ ?_
  · intro held value
    cases held <;> simp [Schema.ofValue]
  · intro items
    rfl
  · intro members
    rfl

theorem follows_integer (name : String) (least greatest : Int) :
    Follows (.integer name least greatest) fun _ => True := by
  refine follows_scalar (fun levels => by rw [Schema.read]) ?_ ?_ ?_
  · intro held value
    cases held with
    | number number => cases number <;> simp [Schema.ofValue]
    | _ => simp [Schema.ofValue]
  · intro items
    rfl
  · intro members
    rfl

/-! ### Choices and options -/

/-- One of several schemas is looked for in the value that was read before. -/
theorem follows_choice (name : String) (alternatives : List Schema) :
    Follows (.choice name alternatives) fun _ => True := by
  constructor
  intro levels cursor ahead written ran value stop
  have isRead : Gives (readValue levels) cursor written.sorted ahead := by
    rw [readValue_eq]
    exact gives_map_iff.mpr ⟨written, ran, rfl⟩
  have sameChoice : (Schema.choice name alternatives).ofValue true written.sorted =
      (Schema.choice name alternatives).ofValue false written.sorted := by
    rw [Schema.ofValue, Schema.ofValue]
  rw [Schema.read, readBuffered, isRead.bind_iff, gives_ofCheck_iff, sameChoice]
  simp [eq_comm]

/-- From the next visible byte on, the same is written. -/
theorem gives_written_visible (ran : Gives (readWritten levels) cursor written ahead) :
    Gives (readWritten levels) cursor.visible written ahead := by
  cases levels with
  | zero | succ levels =>
      rw [readWritten, readWrittenWith, gives_peekVisible] at ran ⊢
      rwa [Cursor.visible_visible]

/-- Where an `n` is next, the word for null is written. -/
theorem gives_written_null (levels : Nat) (isNext : cursor.visible.rest.head? = some 0x6E) :
    Gives (readWritten levels) cursor written ahead ↔
      Gives (do skipByte; readWord [0x75, 0x6C, 0x6C]; pure Value.null) cursor.visible written
        ahead := by
  cases levels with
  | zero | succ levels =>
      rw [readWritten, readWrittenWith, gives_peekVisible, isNext]
      exact .rfl

theorem isNull_iff (ran : Gives (readWritten levels) cursor written ahead) :
    written = .null ↔ cursor.visible.rest.head? = some 0x6E := by
  cases written_of_gives ran with
  | list bracket => simp [bracket]
  | object brace => simp [brace]
  | scalar noBracket noBrace isNull => exact isNull

theorem follows_optional {inner : Schema} {clean : Value → Prop} (follows : Follows inner clean)
    (cleanNull : clean .null) : Follows (.optional inner) clean := by
  constructor
  intro levels cursor ahead written ran value stop
  rw [Schema.read, gives_peekVisible]
  split
  · rename_i isNext
    have isNull := (isNull_iff ran).mpr isNext
    have ofNull : (Schema.optional inner).ofValue false (Value.sorted .null) = .ok .null := by
      simp [Value.sorted, Schema.ofValue]
    rw [← gives_written_null levels isNext]
    constructor
    · intro again
      obtain ⟨rfl, rfl⟩ := ran.unique again
      rw [isNull]
      exact ⟨rfl, cleanNull, ofNull⟩
    · rintro ⟨rfl, -, isValue⟩
      rw [isNull, ofNull] at isValue
      cases isValue
      exact isNull ▸ ran
  · rename_i notNext
    have notNull : written ≠ .null := fun isNull => notNext ((isNull_iff ran).mp isNull)
    rw [follows.gives_iff (gives_written_visible ran)]
    cases written with
    | null => contradiction
    | _ => simp [Schema.ofValue, Value.sorted]

end RpcEndpoint.Json
