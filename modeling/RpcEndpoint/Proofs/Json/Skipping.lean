import RpcEndpoint.Json.Skip
import RpcEndpoint.Proofs.Json.Runs
import RpcEndpoint.Proofs.Json.Written

/-!
# What is read over

The scanner for unwanted values is laxer than the reader. Where the reader gives a value, the
scanner stops at the same place.
-/

namespace RpcEndpoint.Json.Reader

variable {cursor ahead : Cursor}

/-- The scanner gets from the cursor to a place that is not in front of it. -/
def Passes (scanner : Reader Unit) (cursor ahead : Cursor) : Prop :=
  Gives scanner cursor () ahead ∧ ahead.left ≤ cursor.left

/-! ## Numbers -/

theorem ahead_of_floatOfParts {negative : Bool} {significand : Nat} {exponent : Int}
    {number : Number}
    (ran : Gives (floatOfParts negative significand exponent) cursor number ahead) :
    ahead = cursor := by
  unfold floatOfParts at ran
  split at ran
  · exact (gives_pure_iff.mp ran).2.symm
  · exact absurd ran (not_gives_failHere _)

/-- A first digit is read over with those behind it. -/
theorem gives_skipDigits {byte : UInt8} (isNext : cursor.rest.head? = some byte)
    (isDigit : Bytes.isDigit byte = true) :
    Gives (do skipDigit; skipDigits) cursor () (cursor.skipWhile Bytes.isDigit) := by
  simp only [skipDigit, bind_assoc, gives_nextByte, isNext, if_pos isDigit, pure_bind]
  rw [skipDigits, gives_takeWhile, Cursor.skipWhile_next isNext isDigit]
  exact gives_pure_iff.mpr ⟨rfl, rfl⟩

/-- What the digits of an exponent stand for is settled behind them. -/
private theorem ahead_of_exponent
    {negative fits isTooGreat : Bool} {significand : Nat} {exponent : Int} {other : Cursor}
    {number otherwise : Number}
    (ran : Gives
      (if fits then floatOfParts negative significand exponent
        else if isTooGreat then do
          set other
          failHere .numberOutOfRange
        else pure otherwise)
      cursor number ahead) :
    ahead = cursor := by
  split at ran
  · exact ahead_of_floatOfParts ran
  · split at ran
    · simp at ran
    · exact (gives_pure_iff.mp ran).2.symm

theorem passes_exponent {negative : Bool} {significand : Nat} {start : Int} {number : Number}
    (ran : Gives (readExponent negative significand start) cursor number ahead) :
    Passes skipExponent cursor ahead := by
  simp only [readExponent, gives_skipByte, gives_peek] at ran
  have behindSign := cursor.next.next.left_skipWhile_le Bytes.isDigit
  have behindMark := cursor.next.left_skipWhile_le Bytes.isDigit
  simp only [Cursor.left_next] at behindSign behindMark
  -- With a sign or without one, the digits are read over as they were read.
  split at ran
  all_goals
    rename_i sign
    simp only [gives_skipByte, pure_bind, gives_peek] at ran
    split at ran
    · exact absurd ran (not_gives_failHere _)
    · simp at ran
    · rename_i foundDigit
      obtain ⟨byte, isNext, isDigit⟩ := Option.map_eq_some_iff.mp foundDigit
      simp only [gives_get, gives_takeWhile] at ran
      cases ahead_of_exponent ran
      refine ⟨?_, by omega⟩
      simp only [skipExponent, gives_skipByte, gives_peek, sign]
      exact gives_skipDigits isNext isDigit

theorem passes_scale {negative : Bool} {significand : Nat} {exponent : Int} {number : Number}
    (ran : Gives (readScale negative significand exponent) cursor number ahead) :
    Passes skipScale cursor ahead := by
  unfold readScale at ran
  rw [gives_peek] at ran
  split at ran
  all_goals
    rename_i mark
    simp only [Passes, skipScale, gives_peek, mark]
  · exact passes_exponent ran
  · exact passes_exponent ran
  · cases ahead_of_floatOfParts ran
    exact ⟨gives_pure_iff.mpr ⟨rfl, rfl⟩, Nat.le_refl _⟩

theorem passes_fraction {negative : Bool} {significand : Nat} {exponent : Int} {number : Number}
    (isPoint : cursor.rest.head? = some 0x2E)
    (ran : Gives (readFraction negative significand exponent) cursor number ahead) :
    Passes skipFraction cursor ahead := by
  unfold readFraction at ran
  rw [gives_skipByte, gives_takeWhile] at ran
  unfold skipFraction
  simp only [Passes, gives_peek, isPoint, gives_skipByte, gives_takeWhile]
  split at ran
  · rw [gives_peek] at ran
    split at ran <;> simp at ran
  · rename_i isSome
    rw [if_neg isSome]
    obtain ⟨passes, isBehind⟩ := passes_scale ran
    have behindPoint := cursor.next.left_skipWhile_le Bytes.isDigit
    rw [Cursor.left_next] at behindPoint
    exact ⟨passes, by omega⟩

theorem passes_onlyExponent
    {negative : Bool} {significand : Nat} {exponent : Int} {number : Number}
    (isMark : cursor.rest.head? = some 0x65 ∨ cursor.rest.head? = some 0x45)
    (ran : Gives (readExponent negative significand exponent) cursor number ahead) :
    Passes skipFraction cursor ahead := by
  unfold skipFraction skipScale
  rcases isMark with isMark | isMark
  all_goals
    simpa [Passes, isMark] using passes_exponent ran

theorem passes_noFraction
    (noPoint : cursor.rest.head? = some 0x2E → False)
    (noMark : cursor.rest.head? = some 0x65 → False)
    (noCapital : cursor.rest.head? = some 0x45 → False) :
    Passes skipFraction cursor cursor := by
  unfold skipFraction skipScale
  simp [Passes, gives_pure_iff]

/-- What follows a zero is no digit. -/
private theorem passes_behindZero {negative : Bool} {number : Number}
    (ran : Gives
      (do
        match ← peek with
        | some 0x2E => readFraction negative 0 0
        | some 0x65 | some 0x45 => readExponent negative 0 0
        | some second =>
          if Bytes.isDigit second then failAtNext .invalidNumber
          else pure (wholeNumber negative 0)
        | none => pure (wholeNumber negative 0))
      cursor number ahead) :
    Passes skipFraction cursor ahead ∧ cursor.rest.head?.map Bytes.isDigit ≠ some true := by
  rw [gives_peek] at ran
  split at ran
  all_goals
    rename_i isNext
    simp only [isNext]
  · exact ⟨passes_fraction isNext ran, by decide⟩
  · exact ⟨passes_onlyExponent (.inl isNext) ran, by decide⟩
  · exact ⟨passes_onlyExponent (.inr isNext) ran, by decide⟩
  · split at ran
    · exact absurd ran (not_gives_failAtNext _)
    · rename_i notDigit
      cases (gives_pure_iff.mp ran).2
      exact ⟨passes_noFraction (by simpa [isNext]) (by simpa [isNext]) (by simpa [isNext]),
        by simpa using notDigit⟩
  · cases (gives_pure_iff.mp ran).2
    exact ⟨passes_noFraction (by simp [isNext]) (by simp [isNext]) (by simp [isNext]),
      by simp⟩

private theorem passes_behindDigits
    {negative isShort : Bool} {significand : Nat} {exponent : Int} {whole number : Number}
    (ran : Gives
      (do
        match ← peek with
        | some 0x2E => readFraction negative significand exponent
        | some 0x65 | some 0x45 => readExponent negative significand exponent
        | _ =>
          if isShort then pure whole
          else floatOfParts negative significand exponent)
      cursor number ahead) :
    Passes skipFraction cursor ahead := by
  rw [gives_peek] at ran
  split at ran
  · exact passes_fraction (by assumption) ran
  · exact passes_onlyExponent (.inl (by assumption)) ran
  · exact passes_onlyExponent (.inr (by assumption)) ran
  · rename_i noPoint noMark noCapital
    have isAhead : ahead = cursor := by
      split at ran
      · exact (gives_pure_iff.mp ran).2.symm
      · exact ahead_of_floatOfParts ran
    rw [isAhead]
    exact passes_noFraction noPoint noMark noCapital

theorem passes_number {negative : Bool} {number : Number}
    (ran : Gives (readNumber negative) cursor number ahead) :
    Gives skipNumber cursor () ahead ∧ ahead.left < cursor.left := by
  unfold readNumber at ran
  rw [gives_peek] at ran
  unfold skipNumber
  rw [gives_peek]
  split at ran
  · exact absurd ran (not_gives_failHere _)
  · rename_i first isFirst
    have isSome := Cursor.left_pos isFirst
    have behindFirst := cursor.left_next
    split at ran
    · simp at ran
    · rename_i isDigit
      simp only [Bool.not_eq_true, Bool.not_eq_false'] at isDigit
      rw [isFirst]
      split at ran
      · rename_i isZero
        subst isZero
        rw [gives_skipByte] at ran
        obtain ⟨⟨fraction, isBehind⟩, notDigit⟩ := passes_behindZero ran
        refine ⟨?_, by omega⟩
        simpa only [gives_skipByte, gives_peek] using fraction
      · rename_i notZero
        rw [gives_takeWhile] at ran
        obtain ⟨fraction, isBehind⟩ := passes_behindDigits ran
        have behindDigits := cursor.next.left_skipWhile_le Bytes.isDigit
        rw [Cursor.skipWhile_next isFirst isDigit] at behindDigits
        refine ⟨?_, by omega⟩
        split
        · rename_i isZero
          exact absurd (Option.some.inj isZero) notZero
        · rw [← bind_assoc]
          exact gives_bind_iff.mpr ⟨(), _, gives_skipDigits isFirst isDigit, fraction⟩

/-! ## Strings -/

theorem left_of_readHexEscape {code : Nat} (ran : Gives readHexEscape cursor code ahead) :
    ahead.left ≤ cursor.left := by
  simp only [readHexEscape, gives_get, gives_set] at ran
  split at ran
  · exact absurd ran (not_gives_failHere _)
  · split at ran
    · cases (gives_pure_iff.mp ran).2
      rw [Cursor.left_skip]
      exact Nat.sub_le _ _
    · exact absurd ran (not_gives_failHere _)

theorem gives_readPairMark_iff {expected : UInt8} :
    Gives (readPairMark expected) cursor () ahead ↔
      cursor.rest.head? = some expected ∧ cursor.next = ahead := by
  rw [readPairMark, gives_nextByte]
  split
  · rename_i isNone
    simp [isNone]
  · rename_i byte isNext
    rw [isNext, Option.some.injEq]
    split <;> simp [gives_pure_iff, *]

/-- Reading over content at a backslash. -/
theorem gives_skipContent_escape {fuel : Nat} (isNext : cursor.rest.head? = some Bytes.backslash) :
    Gives (skipContent (fuel + 1)) cursor () ahead ↔
      Gives (do skipEscape; skipContent fuel) cursor.next () ahead := by
  rw [skipContent, gives_peek, isNext]
  dsimp only
  rw [if_neg (by decide), gives_skipByte, if_neg (by decide), if_pos rfl]

theorem gives_skipEscape_numeric {fuel code : Nat} {behind : Cursor}
    (isNext : cursor.rest.head? = some 0x75) (ran : Gives readHexEscape cursor.next code behind)
    (later : Gives (skipContent fuel) behind () ahead) :
    Gives (do skipEscape; skipContent fuel) cursor () ahead := by
  refine gives_bind_iff.mpr ⟨(), behind, ?_, later⟩
  rw [skipEscape, gives_nextByte, isNext]
  exact gives_bind_iff.mpr ⟨code, behind, ran, gives_pure_iff.mpr ⟨rfl, rfl⟩⟩

/-- Where a numeric escape is read, one or two escapes are read over. -/
theorem gives_skipEscape_of_numeric {character : Char} {behind : Cursor}
    (isNext : cursor.rest.head? = some 0x75)
    (ran : Gives readNumericEscape cursor.next character behind)
    (later : ∀ fuel, behind.left < fuel → Gives (skipContent fuel) behind () ahead)
    {fuel : Nat} (enough : cursor.left < fuel) :
    Gives (do skipEscape; skipContent fuel) cursor () ahead ∧ behind.left ≤ cursor.left := by
  have isSome := cursor.left_next
  unfold readNumericEscape at ran
  obtain ⟨unit, between, first, ran⟩ := gives_bind_iff.mp ran
  have isBehind := left_of_readHexEscape first
  split at ran
  · exact absurd ran (not_gives_failHere _)
  · split at ran
    · cases (gives_pure_iff.mp ran).2
      exact ⟨gives_skipEscape_numeric isNext first (later _ (by omega)), by omega⟩
    · obtain ⟨_, between, mark, ran⟩ := gives_bind_iff.mp ran
      obtain ⟨isBackslash, rfl⟩ := gives_readPairMark_iff.mp mark
      obtain ⟨_, between, mark, ran⟩ := gives_bind_iff.mp ran
      obtain ⟨isMark, rfl⟩ := gives_readPairMark_iff.mp mark
      obtain ⟨second, between, last, ran⟩ := gives_bind_iff.mp ran
      have isLast := left_of_readHexEscape last
      split at ran
      · exact absurd ran (not_gives_failHere _)
      · cases (gives_pure_iff.mp ran).2
        -- The second half of a pair is read over as another escape.
        have isPair := Cursor.left_pos isBackslash
        rw [Cursor.left_next, Cursor.left_next] at isLast
        obtain ⟨fuel, rfl⟩ := Nat.exists_eq_add_of_lt (Nat.zero_lt_of_lt enough)
        refine ⟨gives_skipEscape_numeric isNext first ?_, by omega⟩
        rw [Nat.zero_add, gives_skipContent_escape isBackslash]
        exact gives_skipEscape_numeric isMark last (later _ (by omega))

/-- Where an escape is read, one or two are read over. -/
theorem gives_skipEscape {character : Char} {behind : Cursor}
    (ran : Gives readEscape cursor character behind)
    (later : ∀ fuel, behind.left < fuel → Gives (skipContent fuel) behind () ahead)
    {fuel : Nat} (enough : cursor.left < fuel) :
    Gives (do skipEscape; skipContent fuel) cursor () ahead ∧ behind.left ≤ cursor.left := by
  unfold readEscape at ran
  rw [gives_nextByte] at ran
  split at ran
  case h_1 | h_11 => exact absurd ran (not_gives_failHere _)
  case h_10 isNext => exact gives_skipEscape_of_numeric isNext ran later enough
  all_goals
    rename_i isNext
    cases (gives_pure_iff.mp ran).2
    have isBehind := cursor.left_next
    refine ⟨gives_bind_iff.mpr ⟨(), _, ?_, later _ (by omega)⟩, by omega⟩
    rw [skipEscape, gives_nextByte, isNext]
    exact gives_pure_iff.mpr ⟨rfl, rfl⟩

theorem gives_skipContent {rounds : Nat} {content : Bytes}
    (ran : Gives (readContent rounds) cursor content ahead) :
    (∀ fuel, cursor.left < fuel → Gives (skipContent fuel) cursor () ahead) ∧
      ahead.left < cursor.left := by
  -- A surrogate pair is one round of the reader and two of the scanner, so that only the bytes
  -- that are left bound those of the scanner.
  induction rounds generalizing cursor content with
  | zero =>
      exact absurd ran (not_gives_failHere _)
  | succ rounds inductionHypothesis =>
      rw [readContent, gives_nextByte] at ran
      split at ran
      · exact absurd ran (not_gives_failHere _)
      · rename_i byte isNext
        have isSome := Cursor.left_pos isNext
        have behindByte := cursor.left_next
        split at ran
        · rename_i isQuote
          subst isQuote
          cases (gives_pure_iff.mp ran).2
          refine ⟨fun fuel enough => ?_, by omega⟩
          obtain ⟨fuel, rfl⟩ := Nat.exists_eq_succ_of_ne_zero (Nat.ne_zero_of_lt enough)
          rw [skipContent, gives_peek, isNext]
          dsimp only
          rw [if_neg (by decide), gives_skipByte, if_pos rfl]
          exact gives_pure_iff.mpr ⟨rfl, rfl⟩
        · rename_i notQuote
          split at ran
          · rename_i isBackslash
            subst isBackslash
            obtain ⟨character, behind, escape, ran⟩ := gives_bind_iff.mp ran
            obtain ⟨rest, _, content, ran⟩ := gives_bind_iff.mp ran
            cases (gives_pure_iff.mp ran).2
            obtain ⟨later, isBehind⟩ := inductionHypothesis content
            have behindEscape := (gives_skipEscape escape later (Nat.lt_succ_self _)).2
            refine ⟨fun fuel enough => ?_, by omega⟩
            obtain ⟨fuel, rfl⟩ := Nat.exists_eq_succ_of_ne_zero (Nat.ne_zero_of_lt enough)
            rw [gives_skipContent_escape isNext]
            exact (gives_skipEscape escape later (by omega)).1
          · rename_i notBackslash
            split at ran
            · exact absurd ran (not_gives_failHere _)
            · rename_i notControl
              obtain ⟨rest, _, content, ran⟩ := gives_bind_iff.mp ran
              cases (gives_pure_iff.mp ran).2
              obtain ⟨later, isBehind⟩ := inductionHypothesis content
              refine ⟨fun fuel enough => ?_, by omega⟩
              obtain ⟨fuel, rfl⟩ := Nat.exists_eq_succ_of_ne_zero (Nat.ne_zero_of_lt enough)
              rw [skipContent, gives_peek, isNext]
              dsimp only
              rw [if_neg notControl, gives_skipByte, if_neg notQuote, if_neg notBackslash]
              exact later fuel (by omega)

theorem passes_text {text : String} (ran : Gives readText cursor text ahead) :
    Passes skipText cursor ahead := by
  rw [readText, gives_remaining] at ran
  obtain ⟨content, between, content, ran⟩ := gives_bind_iff.mp ran
  obtain ⟨passes, isBehind⟩ := gives_skipContent content
  have isAhead : ahead = between := by
    split at ran
    · exact (gives_pure_iff.mp ran).2.symm
    · rw [gives_get] at ran
      exact absurd ran (not_gives_throw _)
  rw [Passes, skipText, gives_remaining, isAhead]
  exact ⟨passes _ (Nat.lt_succ_self _), Nat.le_of_lt isBehind⟩

/-! ## Words -/

theorem left_of_readWord {word : Bytes} (ran : Gives (readWord word) cursor () ahead) :
    ahead.left ≤ cursor.left := by
  induction word generalizing cursor with
  | nil =>
      cases (gives_pure_iff.mp ran).2
      exact Nat.le_refl _
  | cons expected word inductionHypothesis =>
      rw [readWord, gives_nextByte] at ran
      split at ran
      · exact absurd ran (not_gives_failHere _)
      · split at ran
        · have isBehind := inductionHypothesis ran
          rw [Cursor.left_next] at isBehind
          omega
        · exact absurd ran (not_gives_failHere _)

/-! ## Nesting -/

/-- What is left to read over where an enclosure has a value behind it, or none yet. -/
def skipRest (fuel : Nat) (enclosures : List Enclosure) (afterValue : Bool) : Reader Unit := do
  let left ← closeEnclosures enclosures afterValue
  if left.isEmpty then pure () else skipNested fuel left

variable {stop : Cursor} {fuel : Nat} {enclosures : List Enclosure}

theorem skipNested_succ (fuel : Nat) (enclosures : List Enclosure) :
    skipNested (fuel + 1) enclosures = (do
      match ← skipScalar with
      | some opened => skipRest fuel (opened :: enclosures) false
      | none => skipRest fuel enclosures true) := by
  rw [skipNested]
  refine bind_congr fun begun => ?_
  cases begun <;> rfl

/-- Nothing changes if the white space in front of a value is read over first. -/
theorem gives_skipNested_visible :
    Gives (skipNested (fuel + 1) enclosures) cursor.visible () stop ↔
      Gives (skipNested (fuel + 1) enclosures) cursor () stop := by
  rw [skipNested_succ, gives_bind_iff, gives_bind_iff, skipScalar]
  simp only [gives_peekVisible, Cursor.visible_visible]

theorem gives_skipRest_close {enclosure : Enclosure} {afterValue : Bool}
    (isClosing : cursor.visible.rest.head? = some enclosure.closing) :
    Gives (skipRest fuel (enclosure :: enclosures) afterValue) cursor () stop ↔
      Gives (skipRest fuel enclosures true) cursor.visible.next () stop := by
  rw [skipRest, closeEnclosures, bind_assoc, gives_peekVisible, isClosing]
  simp [skipRest]

theorem gives_skipRest_item
    (isNext : ∃ byte, byte ≠ 0x5D ∧ cursor.visible.rest.head? = some byte) :
    Gives (skipRest fuel (.list :: enclosures) false) cursor () stop ↔
      Gives (skipNested fuel (.list :: enclosures)) cursor.visible () stop := by
  obtain ⟨byte, notClosing, isNext⟩ := isNext
  rw [skipRest, closeEnclosures, bind_assoc, gives_peekVisible, isNext]
  simp [Enclosure.closing, notClosing]

theorem gives_skipRest_comma (isComma : cursor.visible.rest.head? = some 0x2C) :
    Gives (skipRest fuel (.list :: enclosures) true) cursor () stop ↔
      Gives (skipNested fuel (.list :: enclosures)) cursor.visible.next () stop := by
  rw [skipRest, closeEnclosures, bind_assoc, gives_peekVisible, isComma]
  simp [Enclosure.closing]

/-! ### Members -/

theorem left_of_readColon (ran : Gives readColon cursor () ahead) : ahead.left ≤ cursor.left := by
  obtain ⟨-, rfl⟩ := gives_readColon_iff.mp ran
  rw [Cursor.left_next]
  have isBehind := cursor.left_visible_le
  omega

theorem passes_name {name : String} {between : Cursor}
    (isQuote : cursor.visible.rest.head? = some Bytes.quote)
    (named : Gives readKey cursor.visible name between) (colon : Gives readColon between () ahead) :
    Passes skipName cursor ahead := by
  rw [readKey, gives_skipByte] at named
  obtain ⟨passes, behindName⟩ := passes_text named
  have behindColon := left_of_readColon colon
  have isBehind := cursor.left_visible_le
  rw [Cursor.left_next] at behindName
  refine ⟨?_, by omega⟩
  rw [skipName, gives_peekVisible, isQuote]
  simp only [Bytes.quote, gives_skipByte]
  exact gives_bind_iff.mpr ⟨(), between, passes, colon⟩

theorem gives_skipRest_name {between : Cursor}
    (isQuote : cursor.visible.rest.head? = some Bytes.quote)
    (named : Gives skipName cursor () between)
    (later : Gives (skipNested fuel (.object :: enclosures)) between () stop) :
    Gives (skipRest fuel (.object :: enclosures) false) cursor () stop := by
  have fromVisible : Gives skipName cursor.visible () between := by
    rw [skipName, gives_peekVisible] at named ⊢
    rwa [Cursor.visible_visible]
  have entered : Gives (do skipName; skipNested fuel (.object :: enclosures)) cursor.visible ()
      stop := gives_bind_iff.mpr ⟨(), between, fromVisible, later⟩
  rw [skipRest, closeEnclosures, bind_assoc, gives_peekVisible, isQuote]
  simpa [Enclosure.closing, Bytes.quote] using entered

theorem gives_skipRest_commaName {between : Cursor}
    (isComma : cursor.visible.rest.head? = some 0x2C)
    (named : Gives skipName cursor.visible.next () between)
    (later : Gives (skipNested fuel (.object :: enclosures)) between () stop) :
    Gives (skipRest fuel (.object :: enclosures) true) cursor () stop := by
  have entered : Gives (do skipName; skipNested fuel (.object :: enclosures)) cursor.visible.next ()
      stop := gives_bind_iff.mpr ⟨(), between, named, later⟩
  rw [skipRest, closeEnclosures, bind_assoc, gives_peekVisible, isComma]
  simpa [Enclosure.closing] using entered

/-! ### Values -/

/-- With enough rounds, what is left at the cursor is read over up to the stop. -/
def RestOver (enclosures : List Enclosure) (afterValue : Bool) (cursor stop : Cursor) : Prop :=
  ∀ fuel, cursor.left < fuel → Gives (skipRest fuel enclosures afterValue) cursor () stop

/-- The value between two places is read over, inside whatever encloses it. -/
def ValueOver (cursor behind : Cursor) : Prop :=
  behind.left < cursor.left ∧
    ∀ enclosures stop, RestOver enclosures true behind stop →
      ∀ fuel, cursor.left < fuel → Gives (skipNested fuel enclosures) cursor () stop

/-- What the reader reads is read over. -/
def ReadOver {α : Type} (reader : Reader α) : Prop :=
  ∀ {cursor value behind}, Gives reader cursor value behind → ValueOver cursor behind

/-- What is left in an enclosure is read over, inside whatever encloses it. -/
def ClosedOver (enclosure : Enclosure) (afterValue : Bool) (cursor ahead : Cursor) : Prop :=
  ahead.left < cursor.left ∧
    ∀ enclosures stop, RestOver enclosures true ahead stop →
      RestOver (enclosure :: enclosures) afterValue cursor stop

theorem closedOver {enclosure : Enclosure} {afterValue : Bool}
    (isClosing : cursor.visible.rest.head? = some enclosure.closing) :
    ClosedOver enclosure afterValue cursor cursor.visible.next := by
  have isSome := Cursor.left_pos isClosing
  have isBehind := cursor.left_visible_le
  have behindBracket := cursor.visible.left_next
  refine ⟨by omega, fun enclosures stop later fuel enough => ?_⟩
  rw [gives_skipRest_close isClosing]
  exact later fuel (by omega)

section Inside

variable {α : Type} {item : Reader α}

theorem ReadOver.items (readOver : ReadOver item) {rounds : Nat} {first : Bool} {items : List α}
    {inside : Cursor} (ran : Gives (readItems item rounds first) cursor items inside)
    (closed : Gives closeList inside () ahead) :
    ClosedOver .list (!first) cursor ahead := by
  obtain ⟨isClosing, rfl⟩ := gives_closeList_iff.mp closed
  -- By the rounds of the reader. The scanner has rounds of its own, one for each value at any
  -- depth; there are enough of them because every value takes a byte.
  induction rounds generalizing cursor items first with
  | zero =>
      cases (gives_pure_iff.mp ran).2
      exact closedOver isClosing
  | succ rounds inductionHypothesis =>
      rw [readItems] at ran
      obtain ⟨goesOn, between, looked, ran⟩ := gives_bind_iff.mp ran
      cases goesOn with
      | false =>
          obtain ⟨-, rfl⟩ := gives_noItem looked
          cases (gives_pure_iff.mp ran).2
          rw [Cursor.visible_visible] at isClosing ⊢
          exact closedOver isClosing
      | true =>
          obtain ⟨isNext, looked⟩ := gives_nextItem looked
          obtain ⟨head, behind, one, ran⟩ := gives_bind_iff.mp ran
          obtain ⟨rest, _, others, ran⟩ := gives_bind_iff.mp ran
          cases (gives_pure_iff.mp ran).2
          obtain ⟨isLast, restOver⟩ := inductionHypothesis others
          obtain ⟨isBehind, covers⟩ := readOver one
          have visible := cursor.left_visible_le
          rcases looked with ⟨rfl, rfl⟩ | ⟨rfl, isComma, rfl⟩
          · refine ⟨by omega, fun enclosures stop later fuel enough => ?_⟩
            rw [Bool.not_true, gives_skipRest_item isNext]
            exact covers _ _ (restOver _ _ later) fuel (by omega)
          · have behindComma := cursor.visible.left_next
            have visibleAgain := cursor.visible.next.left_visible_le
            refine ⟨by omega, fun enclosures stop later fuel enough => ?_⟩
            obtain ⟨fuel, rfl⟩ := Nat.exists_eq_succ_of_ne_zero (Nat.ne_zero_of_lt enough)
            rw [Bool.not_false, gives_skipRest_comma isComma, ← gives_skipNested_visible]
            exact covers _ _ (restOver _ _ later) _ (by omega)

theorem ReadOver.members (readOver : ReadOver item) {rounds : Nat} {first : Bool}
    {members : List (String × α)} {inside : Cursor}
    (ran : Gives (readMembers item rounds first) cursor members inside)
    (closed : Gives closeObject inside () ahead) :
    ClosedOver .object (!first) cursor ahead := by
  obtain ⟨isClosing, rfl⟩ := gives_closeObject_iff.mp closed
  induction rounds generalizing cursor members first with
  | zero =>
      cases (gives_pure_iff.mp ran).2
      exact closedOver isClosing
  | succ rounds inductionHypothesis =>
      rw [readMembers] at ran
      obtain ⟨goesOn, between, looked, ran⟩ := gives_bind_iff.mp ran
      cases goesOn with
      | false =>
          obtain ⟨-, rfl⟩ := gives_noKey looked
          cases (gives_pure_iff.mp ran).2
          rw [Cursor.visible_visible] at isClosing ⊢
          exact closedOver isClosing
      | true =>
          obtain ⟨isQuote, looked⟩ := gives_nextKey looked
          obtain ⟨name, behindName, named, ran⟩ := gives_bind_iff.mp ran
          obtain ⟨_, begin, colon, ran⟩ := gives_bind_iff.mp ran
          obtain ⟨head, behind, one, ran⟩ := gives_bind_iff.mp ran
          obtain ⟨rest, _, others, ran⟩ := gives_bind_iff.mp ran
          cases (gives_pure_iff.mp ran).2
          obtain ⟨isLast, restOver⟩ := inductionHypothesis others
          obtain ⟨isBehind, covers⟩ := readOver one
          have visible := cursor.left_visible_le
          rcases looked with ⟨rfl, rfl⟩ | ⟨rfl, isComma, rfl⟩
          · obtain ⟨passes, behindColon⟩ := passes_name isQuote named colon
            refine ⟨by omega, fun enclosures stop later fuel enough => ?_⟩
            rw [Bool.not_true]
            exact gives_skipRest_name isQuote passes
              (covers _ _ (restOver _ _ later) fuel (by omega))
          · obtain ⟨passes, behindColon⟩ := passes_name isQuote named colon
            have behindComma := cursor.visible.left_next
            refine ⟨by omega, fun enclosures stop later fuel enough => ?_⟩
            rw [Bool.not_false]
            exact gives_skipRest_commaName isComma passes
              (covers _ _ (restOver _ _ later) fuel (by omega))

end Inside

theorem gives_none {scanner : Reader Unit} (scanned : Gives scanner cursor () ahead) :
    Gives (do scanner; pure (none : Option Enclosure)) cursor none ahead :=
  gives_bind_iff.mpr ⟨(), ahead, scanned, gives_pure_iff.mpr ⟨rfl, rfl⟩⟩

/-- A scalar is read over where it is scanned. -/
private theorem over_scalar {behind : Cursor} (scanned : Gives skipScalar cursor none behind)
    (isBehind : behind.left < cursor.left) : ValueOver cursor behind := by
  refine ⟨isBehind, fun enclosures stop later fuel enough => ?_⟩
  obtain ⟨fuel, rfl⟩ := Nat.exists_eq_succ_of_ne_zero (Nat.ne_zero_of_lt enough)
  rw [skipNested_succ]
  exact gives_bind_iff.mpr ⟨none, behind, scanned, later fuel (by omega)⟩

/-- An enclosure is read over where its bracket is scanned and what it holds is read over. -/
private theorem over_enclosure {enclosure : Enclosure} {inside behind : Cursor}
    (scanned : Gives skipScalar cursor (some enclosure) inside)
    (isInside : inside.left < cursor.left) (closed : ClosedOver enclosure false inside behind) :
    ValueOver cursor behind := by
  obtain ⟨isBehind, restOver⟩ := closed
  refine ⟨by omega, fun enclosures stop later fuel enough => ?_⟩
  obtain ⟨fuel, rfl⟩ := Nat.exists_eq_succ_of_ne_zero (Nat.ne_zero_of_lt enough)
  rw [skipNested_succ]
  exact gives_bind_iff.mpr
    ⟨some enclosure, inside, scanned, restOver enclosures stop later fuel (by omega)⟩

private theorem readOver_writtenWith {inner : Option (Reader Value)}
    (insideOver : ∀ item, inner = some item → ReadOver item) :
    ReadOver (readWrittenWith inner) := by
  intro cursor value behind ran
  unfold readWrittenWith at ran
  rw [gives_peekVisible] at ran
  have visible := cursor.left_visible_le
  have behindFirst := cursor.visible.left_next
  split at ran
  case h_1 => exact absurd ran (not_gives_failAtNext _)
  all_goals
    rename_i isNext
    have isSome := Cursor.left_pos isNext
  case h_2 | h_3 | h_4 =>
    rw [gives_skipByte] at ran
    obtain ⟨_, _, word, ran⟩ := gives_bind_iff.mp ran
    cases (gives_pure_iff.mp ran).2
    have behindWord := left_of_readWord word
    refine over_scalar ?_ (by omega)
    simp only [skipScalar, gives_peekVisible, isNext, gives_skipByte]
    exact gives_none word
  case h_5 =>
    rw [gives_skipByte] at ran
    obtain ⟨number, _, number, ran⟩ := gives_bind_iff.mp ran
    cases (gives_pure_iff.mp ran).2
    obtain ⟨passes, behindNumber⟩ := passes_number number
    refine over_scalar ?_ (by omega)
    simp only [skipScalar, gives_peekVisible, isNext, gives_skipByte]
    exact gives_none passes
  case h_6 =>
    rw [gives_skipByte] at ran
    obtain ⟨text, _, text, ran⟩ := gives_bind_iff.mp ran
    cases (gives_pure_iff.mp ran).2
    obtain ⟨passes, behindText⟩ := passes_text text
    refine over_scalar ?_ (by omega)
    simp only [skipScalar, gives_peekVisible, isNext, gives_skipByte]
    exact gives_none passes
  case h_7 =>
    split at ran
    · exact absurd ran (not_gives_failAtNext _)
    · rename_i item
      obtain ⟨items, _, list, ran⟩ := gives_bind_iff.mp ran
      cases (gives_pure_iff.mp ran).2
      rw [readList, gives_skipByte, gives_remaining] at list
      obtain ⟨inside, items, closed⟩ := gives_enclosed_iff.mp list
      have scanned : Gives skipScalar cursor (some .list) cursor.visible.next := by
        simp only [skipScalar, gives_peekVisible, isNext, gives_skipByte]
        exact gives_pure_iff.mpr ⟨rfl, rfl⟩
      exact over_enclosure scanned (by omega)
        (ReadOver.items (insideOver item rfl) items closed)
  case h_8 =>
    split at ran
    · exact absurd ran (not_gives_failAtNext _)
    · rename_i value
      obtain ⟨members, _, object, ran⟩ := gives_bind_iff.mp ran
      cases (gives_pure_iff.mp ran).2
      rw [readObject, gives_skipByte, gives_remaining] at object
      obtain ⟨inside, members, closed⟩ := gives_enclosed_iff.mp object
      have scanned : Gives skipScalar cursor (some .object) cursor.visible.next := by
        simp only [skipScalar, gives_peekVisible, isNext, gives_skipByte]
        exact gives_pure_iff.mpr ⟨rfl, rfl⟩
      exact over_enclosure scanned (by omega)
        (ReadOver.members (insideOver value rfl) members closed)
  case h_9 =>
    split at ran
    · rename_i isDigit
      obtain ⟨number, _, number, ran⟩ := gives_bind_iff.mp ran
      cases (gives_pure_iff.mp ran).2
      obtain ⟨passes, behindNumber⟩ := passes_number number
      refine over_scalar ?_ (by omega)
      simp only [skipScalar, gives_peekVisible, isNext, if_pos isDigit]
      exact gives_none passes
    · exact absurd ran (not_gives_failAtNext _)

private theorem readOver_written (levels : Nat) : ReadOver (readWritten levels) := by
  induction levels with
  | zero =>
      exact readOver_writtenWith fun _ isItem => by contradiction
  | succ levels inductionHypothesis =>
      refine readOver_writtenWith fun item isItem => ?_
      cases isItem
      exact inductionHypothesis

/-- Where a value is read, the scanner stops behind it, too. -/
theorem gives_skipValue {levels : Nat} {value : Value}
    (ran : Gives (readWritten levels) cursor value ahead) : Gives skipValue cursor () ahead := by
  obtain ⟨-, covers⟩ := readOver_written levels ran
  rw [skipValue, gives_remaining]
  refine covers [] ahead (fun fuel enough => ?_) _ (Nat.lt_succ_self _)
  rw [skipRest, closeEnclosures]
  exact gives_pure_iff.mpr ⟨rfl, rfl⟩

end RpcEndpoint.Json.Reader
