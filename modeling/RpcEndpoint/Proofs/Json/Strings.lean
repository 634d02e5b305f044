import RpcEndpoint.Json.Printer
import RpcEndpoint.Proofs.Json.Reads
import RpcEndpoint.Proofs.Text.Utf8

/-!
# Strings in JSON text

What a string is printed as is read as that string, whatever characters it has.
-/

namespace RpcEndpoint.Json

/-- The characters between the quotes of a string, as bytes. -/
def escaped (characters : List Char) : Bytes :=
  characters.flatMap fun character => (escapeChar character).flatMap String.utf8EncodeChar

theorem encodeText_renderString (text : String) :
    encodeText (renderString text) =
      Bytes.quote :: (escaped text.toList ++ [Bytes.quote]) := by
  have quoted : String.utf8EncodeChar '\"' = [Bytes.quote] := by decide
  rw [renderString, encodeText_ofList, List.flatMap_cons, List.flatMap_append, quoted,
    List.flatMap_assoc, List.flatMap_singleton, quoted]
  rfl

/-! ## Plain characters -/

/-- A byte that stands for itself inside a string. -/
def Plain (byte : UInt8) : Prop :=
  byte ≠ Bytes.quote ∧ byte ≠ Bytes.backslash ∧ ¬ byte < 0x20

/-- A character that is not escaped. -/
structure Unescaped (character : Char) : Prop where
  noQuote : character ≠ '\"'
  noBackslash : character ≠ '\\'
  noControl : 0x20 ≤ character.toNat

theorem Unescaped.escapeChar_eq
    {character : Char} (unescaped : Unescaped character) : escapeChar character = [character] := by
  have noControl := unescaped.noControl
  have other {control : Char} (isControl : control.toNat < 0x20) : character ≠ control := by
    rintro rfl
    omega
  rw [escapeChar, if_neg unescaped.noQuote, if_neg unescaped.noBackslash,
    if_neg (other (by decide)), if_neg (other (by decide)), if_neg (other (by decide)),
    if_neg (other (by decide)), if_neg (other (by decide)), if_neg (by omega)]

theorem Unescaped.plain
    {character : Char} (unescaped : Unescaped character) {byte : UInt8}
    (mem : byte ∈ String.utf8EncodeChar character) : Plain byte := by
  have noControl := unescaped.noControl
  by_cases ascii : character.toNat < 0x80
  · rw [utf8EncodeChar_ascii ascii, List.mem_singleton] at mem
    have sameCode : byte.toNat = character.toNat := by
      rw [mem, UInt8.toNat_ofNat']
      exact Nat.mod_eq_of_lt (by omega)
    have differs {special : Char} {code : UInt8} (different : character ≠ special)
        (isCode : code.toNat = special.toNat) : byte ≠ code := by
      rintro rfl
      exact different (Char.toNat_inj.mp (sameCode.symm.trans isCode))
    refine ⟨differs unescaped.noQuote (by decide), differs unescaped.noBackslash (by decide), ?_⟩
    rw [UInt8.lt_iff_toNat_lt, sameCode]
    exact Nat.not_lt_of_le noControl
  · have large := Utf8.le_of_mem_utf8EncodeChar (Nat.le_of_not_lt ascii) mem
    have differs {code : UInt8} (small : code.toNat < 0x80) : byte ≠ code := by
      rintro rfl
      omega
    refine ⟨differs (by decide), differs (by decide), ?_⟩
    rw [UInt8.lt_iff_toNat_lt]
    intro isControl
    have : byte.toNat < 0x20 := isControl
    omega

namespace Reader

variable {more rest content : Bytes}

private theorem reads_plainByte
    {byte : UInt8} (plain : Plain byte) {fuel : Nat}
    (later : Reads (readContent fuel) more rest content) :
    Reads (readContent (fuel + 1)) (byte :: more) rest (byte :: content) := by
  obtain ⟨noQuote, noBackslash, noControl⟩ := plain
  refine (reads_nextByte byte (more ++ rest)).step ?_
  dsimp only
  rw [if_neg noQuote, if_neg noBackslash, if_neg noControl]
  exact later.map (byte :: ·)

private theorem reads_plainBytes
    {bytes : Bytes} (plain : ∀ byte ∈ bytes, Plain byte) {fuel : Nat}
    (later : Reads (readContent fuel) more rest content) :
    Reads (readContent (fuel + bytes.length)) (bytes ++ more) rest (bytes ++ content) := by
  induction bytes with
  | nil =>
      exact later
  | cons byte bytes inductionHypothesis =>
      refine reads_plainByte (plain byte List.mem_cons_self) (inductionHypothesis ?_)
      exact fun other mem => plain other (List.mem_cons_of_mem byte mem)

/-! ## Escapes -/

private theorem reads_escape
    {character : Char} {bytes : Bytes}
    (escape : Reads readEscape bytes (more ++ rest) character) {fuel : Nat}
    (later : Reads (readContent fuel) more rest content) :
    Reads (readContent (fuel + 1)) (Bytes.backslash :: (bytes ++ more)) rest
      (String.utf8EncodeChar character ++ content) := by
  refine (reads_nextByte Bytes.backslash (bytes ++ more ++ rest)).step ?_
  dsimp only
  rw [if_neg (by decide), if_pos rfl]
  exact escape.bind (later.map (String.utf8EncodeChar character ++ ·))

private theorem reads_hexEscape
    {digits : Bytes} (four : digits.length = 4) {code : Nat}
    (isCode : hexNumber? digits = some code) (rest : Bytes) :
    Reads readHexEscape digits rest code := by
  intro cursor isRest
  have taken : cursor.rest.take 4 = digits := by
    rw [isRest, ← four, List.take_left]
  refine ⟨cursor.skip digits.length, ?_, ?_⟩
  · have enough : ¬ digits.length < 4 := Nat.not_lt.mpr (Nat.le_of_eq four.symm)
    change (if (cursor.rest.take 4).length < 4 then _ else _ : Reader Nat) _ = _
    rw [taken, if_neg enough, isCode]
    rfl
  · rw [Cursor.rest_skip, isRest, List.drop_left]

private theorem hexDigit_ascii {value : Nat} (isDigit : value < 16) :
    (Bytes.hexDigit value).toNat < 0x80 := by
  have all : ∀ value < 16, (Bytes.hexDigit value).toNat < 0x80 := by
    decide
  exact all value isDigit

/-- A control character is escaped by its number. -/
private theorem hexNumber?_control {code : Nat} (control : code < 0x20) :
    hexNumber? [0x30, 0x30, UInt8.ofNat (Bytes.hexDigit (code / 16)).toNat,
      UInt8.ofNat (Bytes.hexDigit (code % 16)).toNat] = some code := by
  have all : ∀ code < 0x20,
      hexNumber? [0x30, 0x30, UInt8.ofNat (Bytes.hexDigit (code / 16)).toNat,
        UInt8.ofNat (Bytes.hexDigit (code % 16)).toNat] = some code := by
    decide
  exact all code control

private theorem reads_control
    {character : Char} (control : character.toNat < 0x20) (rest : Bytes) :
    Reads readEscape
      [0x75, 0x30, 0x30, UInt8.ofNat (Bytes.hexDigit (character.toNat / 16)).toNat,
        UInt8.ofNat (Bytes.hexDigit (character.toNat % 16)).toNat] rest character := by
  refine (reads_nextByte 0x75 _).step ?_
  change Reads readNumericEscape _ _ _
  refine (reads_hexEscape rfl (hexNumber?_control control) rest).last ?_
  have noTrail : (0xDC00 ≤ character.toNat && character.toNat ≤ 0xDFFF) = false := by
    rw [decide_eq_false (by omega : ¬ 0xDC00 ≤ character.toNat)]
    rfl
  rw [noTrail, if_neg (by decide), if_pos (by simp; omega), Char.ofNat_toNat]
  exact reads_pure character rest

/-- Every character is read as it was, and takes no more rounds than it has bytes. -/
private theorem reads_character (character : Char) :
    ∃ rounds ≤ ((escapeChar character).flatMap String.utf8EncodeChar).length,
      ∀ {more rest content : Bytes} {fuel : Nat},
        Reads (readContent fuel) more rest content →
          Reads (readContent (fuel + rounds))
            ((escapeChar character).flatMap String.utf8EncodeChar ++ more) rest
            (String.utf8EncodeChar character ++ content) := by
  have oneRound {bytes : Bytes} (escape : ∀ rest, Reads readEscape bytes rest character)
      (isEscape : (escapeChar character).flatMap String.utf8EncodeChar =
        Bytes.backslash :: bytes) :
      ∃ rounds ≤ ((escapeChar character).flatMap String.utf8EncodeChar).length,
        ∀ {more rest content : Bytes} {fuel : Nat},
          Reads (readContent fuel) more rest content →
            Reads (readContent (fuel + rounds))
              ((escapeChar character).flatMap String.utf8EncodeChar ++ more) rest
              (String.utf8EncodeChar character ++ content) := by
    rw [isEscape]
    exact ⟨1, Nat.le_add_left 1 _, fun later => reads_escape (escape _) later⟩
  have letter {mark : UInt8} (isLetter : ∀ rest, Reads readEscape [mark] rest character)
      (isEscape : (escapeChar character).flatMap String.utf8EncodeChar =
        [Bytes.backslash, mark]) := oneRound isLetter isEscape
  by_cases isQuote : character = '\"'
  · subst isQuote
    exact letter (fun rest => (reads_nextByte 0x22 rest).step (reads_pure _ rest)) (by decide)
  by_cases isBackslash : character = '\\'
  · subst isBackslash
    exact letter (fun rest => (reads_nextByte 0x5C rest).step (reads_pure _ rest)) (by decide)
  by_cases isControl : character.toNat < 0x20
  · by_cases isBack : character = '\x08'
    · subst isBack
      exact letter (fun rest => (reads_nextByte 0x62 rest).step (reads_pure _ rest)) (by decide)
    by_cases isFeed : character = '\x0c'
    · subst isFeed
      exact letter (fun rest => (reads_nextByte 0x66 rest).step (reads_pure _ rest)) (by decide)
    by_cases isNewline : character = '\n'
    · subst isNewline
      exact letter (fun rest => (reads_nextByte 0x6E rest).step (reads_pure _ rest)) (by decide)
    by_cases isReturn : character = '\r'
    · subst isReturn
      exact letter (fun rest => (reads_nextByte 0x72 rest).step (reads_pure _ rest)) (by decide)
    by_cases isTab : character = '\t'
    · subst isTab
      exact letter (fun rest => (reads_nextByte 0x74 rest).step (reads_pure _ rest)) (by decide)
    · refine oneRound (reads_control isControl) ?_
      rw [escapeChar, if_neg isQuote, if_neg isBackslash, if_neg isBack, if_neg isFeed,
        if_neg isNewline, if_neg isReturn, if_neg isTab, if_pos isControl]
      simp only [List.flatMap_cons, List.flatMap_nil,
        utf8EncodeChar_ascii (hexDigit_ascii (by omega : character.toNat / 16 < 16)),
        utf8EncodeChar_ascii (hexDigit_ascii (by omega : character.toNat % 16 < 16))]
      rfl
  · have unescaped : Unescaped character := ⟨isQuote, isBackslash, Nat.le_of_not_lt isControl⟩
    rw [unescaped.escapeChar_eq, List.flatMap_singleton]
    exact ⟨_, Nat.le_refl _, reads_plainBytes fun byte mem => unescaped.plain mem⟩

/-- The content of a string is read up to its closing quote. -/
private theorem reads_readContent
    (characters : List Char) {fuel : Nat} (enough : (escaped characters).length < fuel)
    (rest : Bytes) :
    Reads (readContent fuel) (escaped characters ++ [Bytes.quote]) rest
      (characters.flatMap String.utf8EncodeChar) := by
  induction characters generalizing fuel with
  | nil =>
      obtain ⟨fuel, rfl⟩ := Nat.exists_eq_succ_of_ne_zero (Nat.ne_of_gt enough)
      refine (reads_nextByte Bytes.quote rest).step ?_
      dsimp only
      rw [if_pos rfl]
      exact reads_pure [] rest
  | cons character characters inductionHypothesis =>
      obtain ⟨rounds, few, reads⟩ := reads_character character
      have isLength : (escaped (character :: characters)).length =
          ((escapeChar character).flatMap String.utf8EncodeChar).length +
            (escaped characters).length := List.length_append
      have later := @inductionHypothesis (fuel - rounds) (by omega)
      have whole := reads later
      rw [Nat.sub_add_cancel (by omega), ← List.append_assoc] at whole
      exact whole

/-- A string is read after its opening quote. -/
theorem reads_readText (text : String) (rest : Bytes) :
    Reads readText (escaped text.toList ++ [Bytes.quote]) rest text := by
  refine (reads_remaining _).look ?_
  have enough : (escaped text.toList).length <
      (escaped text.toList ++ [Bytes.quote] ++ rest).length + 1 := by
    simp only [List.length_append]
    omega
  have content := reads_readContent text.toList enough rest
  rw [← encodeText_eq] at content
  refine content.last ?_
  rw [Utf8.text?_encodeText]
  exact reads_pure text rest

end Reader

end RpcEndpoint.Json
