import RpcEndpoint.Proofs.Json.Reads

/-!
# Single runs of readers

A reader that runs from a cursor gives a value and stops further ahead (`Gives`), or fails. The
rules take a run apart into the runs of the parts of the reader.
-/

namespace RpcEndpoint.Json

/-! ## Cursors -/

namespace Cursor

theorem left_skip (cursor : Cursor) (count : Nat) :
    (cursor.skip count).left = cursor.left - count := by
  rw [left_eq, rest_skip, List.length_drop, left_eq]

theorem left_next (cursor : Cursor) : cursor.next.left = cursor.left - 1 :=
  cursor.left_skip 1

theorem left_skipWhile_le (cursor : Cursor) (test : UInt8 → Bool) :
    (cursor.skipWhile test).left ≤ cursor.left := by
  rw [skipWhile, left_skip]
  exact Nat.sub_le _ _

/-- Where a byte is next, there is something left. -/
theorem left_pos {cursor : Cursor} {byte : UInt8} (isNext : cursor.rest.head? = some byte) :
    0 < cursor.left := by
  rw [left_eq]
  exact List.length_pos_iff.mpr fun isEmpty => by simp [isEmpty] at isNext

/-- The cursor at the next byte that is no white space. -/
def visible (cursor : Cursor) : Cursor :=
  cursor.skipWhile isBlankByte

theorem left_visible_le (cursor : Cursor) : cursor.visible.left ≤ cursor.left :=
  cursor.left_skipWhile_le isBlankByte

theorem rest_skipWhile (cursor : Cursor) (test : UInt8 → Bool) :
    (cursor.skipWhile test).rest = cursor.rest.dropWhile test := by
  rw [skipWhile, rest_skip]
  induction cursor.rest with
  | nil =>
      rfl
  | cons byte rest inductionHypothesis =>
      rw [List.takeWhile_cons, List.dropWhile_cons]
      split
      · exact inductionHypothesis
      · rfl

/-- Where no white space stands, none is read over. -/
theorem visible_visible (cursor : Cursor) : cursor.visible.visible = cursor.visible := by
  have noMore : cursor.visible.rest.takeWhile isBlankByte = [] := by
    rw [visible, rest_skipWhile]
    induction cursor.rest with
    | nil =>
        rfl
    | cons byte rest inductionHypothesis =>
        rw [List.dropWhile_cons]
        split
        · exact inductionHypothesis
        · exact List.takeWhile_cons_of_neg (by assumption)
  rw [visible, skipWhile, noMore]
  rfl

/-- Bytes that are read over one by one are read over together. -/
theorem skipWhile_next {cursor : Cursor} {test : UInt8 → Bool} {byte : UInt8}
    (isNext : cursor.rest.head? = some byte) (passes : test byte = true) :
    cursor.next.skipWhile test = cursor.skipWhile test := by
  obtain ⟨rest, isRest⟩ := List.head?_eq_some_iff.mp isNext
  rw [skipWhile, skipWhile, rest_next, isRest, List.tail_cons, List.takeWhile_cons, if_pos passes,
    List.length_cons, skip]

end Cursor

namespace Reader

variable {α β : Type} {cursor ahead : Cursor} {value : α}

/-- From the cursor the reader gives the value and stops ahead. -/
def Gives (reader : Reader α) (cursor : Cursor) (value : α) (ahead : Cursor) : Prop :=
  reader cursor = .ok value ahead

/-! ## Runs that give a value -/

theorem gives_bind_iff {reader : Reader α} {next : α → Reader β} {result : β} :
    Gives (reader >>= next) cursor result ahead ↔
      ∃ value between, Gives reader cursor value between ∧
        Gives (next value) between result ahead := by
  constructor
  · intro ran
    change EStateM.bind reader next cursor = _ at ran
    unfold EStateM.bind at ran
    split at ran
    · rename_i value between first
      exact ⟨value, between, first, ran⟩
    · contradiction
  · rintro ⟨value, between, first, second⟩
    exact (bind_eq first next).trans second

theorem Gives.unique {reader : Reader α} {other : α} {stop : Cursor}
    (first : Gives reader cursor value ahead) (second : Gives reader cursor other stop) :
    value = other ∧ ahead = stop := by
  rw [Gives, first] at second
  cases second
  exact ⟨rfl, rfl⟩

/-- Behind a reader that gives a value, the next one goes on. -/
theorem Gives.bind_iff {reader : Reader α} {next : α → Reader β} {result : β} {stop : Cursor}
    (first : Gives reader cursor value ahead) :
    Gives (reader >>= next) cursor result stop ↔ Gives (next value) ahead result stop := by
  rw [Gives, bind_eq first, Gives]

theorem gives_map_iff {reader : Reader α} {change : α → β} {result : β} :
    Gives (change <$> reader) cursor result ahead ↔
      ∃ value, Gives reader cursor value ahead ∧ change value = result := by
  rw [map_eq_pure_bind, gives_bind_iff]
  constructor
  · rintro ⟨value, between, first, second⟩
    cases second
    exact ⟨value, first, rfl⟩
  · rintro ⟨value, first, rfl⟩
    exact ⟨value, ahead, first, rfl⟩

theorem gives_pure_iff {other : α} :
    Gives (pure other) cursor value ahead ↔ other = value ∧ cursor = ahead := by
  constructor
  · intro ran
    cases ran
    exact ⟨rfl, rfl⟩
  · rintro ⟨rfl, rfl⟩
    rfl

@[simp]
theorem not_gives_failHere (malformation : Malformation) :
    ¬Gives (failHere malformation) cursor value ahead :=
  nofun

@[simp]
theorem not_gives_failAtNext (malformation : Malformation) :
    ¬Gives (failAtNext malformation) cursor value ahead :=
  nofun

@[simp]
theorem not_gives_mismatch (cause : Mismatch) : ¬Gives (mismatch cause) cursor value ahead :=
  nofun

@[simp]
theorem not_gives_throw (fault : Fault) : ¬Gives (throw fault) cursor value ahead :=
  nofun

section Steps

variable {result : β}

@[simp]
theorem gives_peek {next : Option UInt8 → Reader β} :
    Gives (peek >>= next) cursor result ahead ↔
      Gives (next cursor.rest.head?) cursor result ahead :=
  .rfl

@[simp]
theorem gives_skipByte {next : Unit → Reader β} :
    Gives (skipByte >>= next) cursor result ahead ↔ Gives (next ()) cursor.next result ahead :=
  .rfl

@[simp]
theorem gives_nextByte {next : Option UInt8 → Reader β} :
    Gives (nextByte >>= next) cursor result ahead ↔
      Gives (next cursor.rest.head?) cursor.next result ahead :=
  .rfl

@[simp]
theorem gives_takeWhile {test : UInt8 → Bool} {next : Bytes → Reader β} :
    Gives (takeWhile test >>= next) cursor result ahead ↔
      Gives (next (cursor.rest.takeWhile test)) (cursor.skipWhile test) result ahead :=
  .rfl

@[simp]
theorem gives_peekVisible {next : Option UInt8 → Reader β} :
    Gives (peekVisible >>= next) cursor result ahead ↔
      Gives (next cursor.visible.rest.head?) cursor.visible result ahead :=
  .rfl

@[simp]
theorem gives_remaining {next : Nat → Reader β} :
    Gives (remaining >>= next) cursor result ahead ↔ Gives (next cursor.left) cursor result ahead :=
  .rfl

@[simp]
theorem gives_get {next : Cursor → Reader β} :
    Gives (get >>= next) cursor result ahead ↔ Gives (next cursor) cursor result ahead :=
  .rfl

@[simp]
theorem gives_set {other : Cursor} {next : PUnit → Reader β} :
    Gives (set other >>= next) cursor result ahead ↔ Gives (next ⟨⟩) other result ahead :=
  .rfl

end Steps

@[simp]
theorem gives_skipByte_iff : Gives skipByte cursor () ahead ↔ cursor.next = ahead := by
  constructor
  · intro ran
    cases ran
    rfl
  · rintro rfl
    rfl

/-! ## Readers around others -/

theorem gives_placed_iff {reader : Reader α} :
    Gives (placed reader) cursor value ahead ↔ Gives reader cursor value ahead := by
  unfold Gives placed
  cases reader cursor with
  | ok given stop => exact .rfl
  | error fault stop => exact ⟨nofun, nofun⟩

theorem gives_enclosed_iff {body : Reader α} {close : Reader Unit} :
    Gives (enclosed body close) cursor value ahead ↔
      ∃ inside, Gives body cursor value inside ∧ Gives close inside () ahead := by
  unfold Gives enclosed
  cases body cursor with
  | ok given inside =>
      dsimp only
      cases closed : close inside with
      | ok nothing stop =>
          constructor
          · intro isResult
            cases isResult
            exact ⟨inside, rfl, closed⟩
          · rintro ⟨other, isOther, closedOther⟩
            cases isOther
            rw [closed] at closedOther
            cases closedOther
            rfl
      | error fault stop =>
          refine ⟨fun failed => by contradiction, ?_⟩
          rintro ⟨other, isOther, closedOther⟩
          cases isOther
          rw [closed] at closedOther
          contradiction
  | error fault inside =>
      dsimp only
      refine ⟨fun failed => ?_, fun ⟨_, failed, _⟩ => by contradiction⟩
      cases closed : close inside with
      | ok nothing stop | error fault stop =>
          rw [closed] at failed
          contradiction

theorem gives_readAll_iff {reader : Reader α} {bytes : Bytes} :
    readAll reader bytes = .ok value ↔
      ∃ ahead, Gives reader (.start bytes) value ahead ∧ ahead.visible.rest = [] := by
  constructor
  · intro isRead
    unfold readAll at isRead
    dsimp only at isRead
    split at isRead
    · rename_i given stop ran
      cases isRead
      obtain ⟨other, ahead, first, ran⟩ := gives_bind_iff.mp ran
      rw [gives_peekVisible] at ran
      split at ran
      · rename_i nothingElse
        obtain ⟨rfl, -⟩ := gives_pure_iff.mp ran
        exact ⟨ahead, first, List.head?_eq_none_iff.mp nothingElse⟩
      · exact absurd ran (not_gives_failAtNext _)
    · contradiction
  · rintro ⟨ahead, first, nothingElse⟩
    have atEnd : Gives peekVisible ahead none ahead.visible := by
      rw [Gives, peekVisible, ← List.head?_eq_none_iff.mpr nothingElse]
      rfl
    rw [readAll, bind_eq first, bind_eq atEnd]
    rfl

/-! ## Brackets and separators -/

theorem gives_closeList_iff :
    Gives closeList cursor () ahead ↔
      cursor.visible.rest.head? = some 0x5D ∧ cursor.visible.next = ahead := by
  rw [closeList, gives_peekVisible]
  split
  all_goals
    rename_i isNext
    simp_all
  split <;> simp

theorem gives_closeObject_iff :
    Gives closeObject cursor () ahead ↔
      cursor.visible.rest.head? = some 0x7D ∧ cursor.visible.next = ahead := by
  rw [closeObject, gives_peekVisible]
  split
  all_goals
    rename_i isNext
    simp_all

theorem gives_readColon_iff :
    Gives readColon cursor () ahead ↔
      cursor.visible.rest.head? = some 0x3A ∧ cursor.visible.next = ahead := by
  rw [readColon, gives_peekVisible]
  split
  all_goals
    rename_i isNext
    simp_all

theorem gives_noItem {first : Bool} (ran : Gives (hasNextItem first) cursor false ahead) :
    cursor.visible.rest.head? = some 0x5D ∧ cursor.visible = ahead := by
  rw [hasNextItem, gives_peekVisible] at ran
  split at ran
  · exact absurd ran (not_gives_failAtNext _)
  · exact ⟨by assumption, (gives_pure_iff.mp ran).2⟩
  · split at ran
    · simp [gives_pure_iff] at ran
    · split at ran
      · rw [gives_skipByte, gives_peekVisible] at ran
        split at ran <;> simp [gives_pure_iff] at ran
      · exact absurd ran (not_gives_failAtNext _)

/-- An item begins at the next visible byte, or at the one that follows a comma. -/
theorem gives_nextItem {first : Bool} (ran : Gives (hasNextItem first) cursor true ahead) :
    (∃ byte, byte ≠ 0x5D ∧ cursor.visible.rest.head? = some byte) ∧
      ((first = true ∧ cursor.visible = ahead) ∨
        (first = false ∧ cursor.visible.rest.head? = some 0x2C ∧
          cursor.visible.next.visible = ahead)) := by
  rw [hasNextItem, gives_peekVisible] at ran
  split at ran
  · exact absurd ran (not_gives_failAtNext _)
  · simp [gives_pure_iff] at ran
  · rename_i byte notClosing isNext
    refine ⟨⟨byte, notClosing, isNext⟩, ?_⟩
    split at ran
    · rename_i isFirst
      exact .inl ⟨isFirst, (gives_pure_iff.mp ran).2⟩
    · rename_i notFirst
      split at ran
      · rename_i isComma
        rw [gives_skipByte, gives_peekVisible] at ran
        refine .inr ⟨by simpa using notFirst, by rw [isNext, isComma], ?_⟩
        split at ran
        · exact absurd ran (not_gives_failAtNext _)
        · exact (gives_pure_iff.mp ran).2
        · exact absurd ran (not_gives_failAtNext _)
      · exact absurd ran (not_gives_failAtNext _)

theorem gives_noKey {first : Bool} (ran : Gives (hasNextKey first) cursor false ahead) :
    cursor.visible.rest.head? = some 0x7D ∧ cursor.visible = ahead := by
  rw [hasNextKey, gives_peekVisible] at ran
  split at ran
  · exact absurd ran (not_gives_failAtNext _)
  · exact ⟨by assumption, (gives_pure_iff.mp ran).2⟩
  · split at ran
    · split at ran <;> simp [gives_pure_iff] at ran
    · split at ran
      · rw [gives_skipByte, gives_peekVisible] at ran
        split at ran <;> simp [gives_pure_iff] at ran
      · exact absurd ran (not_gives_failAtNext _)

/-- A member begins with the quote of its name. -/
theorem gives_nextKey {first : Bool} (ran : Gives (hasNextKey first) cursor true ahead) :
    ahead.rest.head? = some Bytes.quote ∧
      ((first = true ∧ cursor.visible = ahead) ∨
        (first = false ∧ cursor.visible.rest.head? = some 0x2C ∧
          cursor.visible.next.visible = ahead)) := by
  rw [hasNextKey, gives_peekVisible] at ran
  split at ran
  · exact absurd ran (not_gives_failAtNext _)
  · simp [gives_pure_iff] at ran
  · rename_i byte notClosing isNext
    split at ran
    · rename_i isFirst
      split at ran
      · rename_i isQuote
        cases (gives_pure_iff.mp ran).2
        exact ⟨by rw [isNext, isQuote], .inl ⟨isFirst, rfl⟩⟩
      · exact absurd ran (not_gives_failAtNext _)
    · rename_i notFirst
      split at ran
      · rename_i isComma
        rw [gives_skipByte, gives_peekVisible] at ran
        split at ran
        · rename_i isQuote
          cases (gives_pure_iff.mp ran).2
          exact ⟨isQuote, .inr ⟨by simpa using notFirst, by rw [isNext, isComma], rfl⟩⟩
        all_goals exact absurd ran (not_gives_failAtNext _)
      · exact absurd ran (not_gives_failAtNext _)

end Reader

end RpcEndpoint.Json
