import RpcEndpoint.Text.Utf8

/-!
# Text and its bytes

The bytes of a text are those of its characters one after another, and reading them gives the
characters back, whatever comes behind them. No other bytes are read as a text.
-/

namespace RpcEndpoint

/-! ## The bytes of a text -/

theorem encodeText_eq (text : String) :
    encodeText text = text.toList.flatMap String.utf8EncodeChar := by
  rw [encodeText, ← String.utf8Encode_toList, List.utf8Encode]
  exact List.toList_data_toByteArray

theorem encodeText_ofList (characters : List Char) :
    encodeText (String.ofList characters) = characters.flatMap String.utf8EncodeChar := by
  rw [encodeText_eq, String.toList_ofList]

theorem encodeText_append (left right : String) :
    encodeText (left ++ right) = encodeText left ++ encodeText right := by
  rw [encodeText_eq, encodeText_eq, encodeText_eq, String.toList_append, List.flatMap_append]

/-- A character below U+0080 is one byte. -/
theorem utf8EncodeChar_ascii
    {character : Char} (ascii : character.toNat < 0x80) :
    String.utf8EncodeChar character = [UInt8.ofNat character.toNat] := by
  have small : character.val.toNat ≤ 0x7F := Nat.le_of_lt_succ ascii
  rw [String.utf8EncodeChar, if_pos small]
  rfl

theorem length_flatMap_ascii
    {characters : List Char} (ascii : ∀ character ∈ characters, character.toNat < 0x80) :
    (characters.flatMap String.utf8EncodeChar).length = characters.length := by
  induction characters with
  | nil => rfl
  | cons character rest inductionHypothesis =>
      have restAscii : ∀ other ∈ rest, other.toNat < 0x80 :=
        fun other mem => ascii other (List.mem_cons_of_mem character mem)
      rw [List.flatMap_cons, List.length_append, inductionHypothesis restAscii,
        utf8EncodeChar_ascii (ascii character List.mem_cons_self), List.length_singleton,
        List.length_cons, Nat.add_comm]

/-! ## Reading one character -/

namespace Utf8

private theorem toNat_ofNat {value : Nat} (small : value < 256) :
    (UInt8.ofNat value).toNat = value := by
  rw [UInt8.toNat_ofNat']
  exact Nat.mod_eq_of_lt small

private theorem continuationBits_ofNat {bits : Nat} (small : bits < 0x40) :
    continuationBits (UInt8.ofNat (bits + 0x80)) = bits := by
  have isByte : (UInt8.ofNat (bits + 0x80)).toNat = bits + 0x80 := toNat_ofNat (by omega)
  have isDifference :
      continuationBits (UInt8.ofNat (bits + 0x80)) = (UInt8.ofNat (bits + 0x80)).toNat - 0x80 :=
    rfl
  omega

/-- The bytes of a character beyond U+007F are none of the ASCII bytes. -/
theorem le_of_mem_utf8EncodeChar
    {character : Char} (large : 0x80 ≤ character.toNat) {byte : UInt8}
    (mem : byte ∈ String.utf8EncodeChar character) : 0x80 ≤ byte.toNat := by
  have beyond {bits mark : Nat} (isMark : 0x80 ≤ mark) (small : bits + mark < 256)
      (isByte : byte = UInt8.ofNat (bits + mark)) : 0x80 ≤ byte.toNat := by
    rw [isByte, toNat_ofNat small]
    omega
  have notOne : ¬ character.val.toNat ≤ 0x7F := Nat.not_le_of_lt large
  simp only [String.utf8EncodeChar, if_neg notOne] at mem
  split at mem
  · rcases List.mem_cons.mp mem with isByte | mem
    · exact beyond (by decide) (by omega) isByte
    · exact beyond (by decide) (by omega) (List.mem_singleton.mp mem)
  split at mem
  · rcases List.mem_cons.mp mem with isByte | mem
    · exact beyond (by decide) (by omega) isByte
    rcases List.mem_cons.mp mem with isByte | mem
    · exact beyond (by decide) (by omega) isByte
    · exact beyond (by decide) (by omega) (List.mem_singleton.mp mem)
  · rcases List.mem_cons.mp mem with isByte | mem
    · exact beyond (by decide) (by omega) isByte
    rcases List.mem_cons.mp mem with isByte | mem
    · exact beyond (by decide) (by omega) isByte
    rcases List.mem_cons.mp mem with isByte | mem
    · exact beyond (by decide) (by omega) isByte
    · exact beyond (by decide) (by omega) (List.mem_singleton.mp mem)

/-- Whether a byte lies between two others can be read off the numbers. -/
private theorem between_iff (least greatest byte : UInt8) :
    (least ≤ byte && byte ≤ greatest) = true ↔
      least.toNat ≤ byte.toNat ∧ byte.toNat ≤ greatest.toNat := by
  rw [Bool.and_eq_true, decide_eq_true_eq, decide_eq_true_eq, UInt8.le_iff_toNat_le,
    UInt8.le_iff_toNat_le]

private theorem not_ascii {lead : UInt8} (large : 0x80 ≤ lead.toNat) : ¬ lead < 0x80 := by
  rw [UInt8.not_lt, UInt8.le_iff_toNat_le]
  exact large

private theorem isContinuation_of_bounds
    {byte : UInt8} (least : 0x80 ≤ byte.toNat) (greatest : byte.toNat ≤ 0xBF) :
    isContinuation byte = true :=
  (between_iff 0x80 0xBF byte).mpr ⟨least, greatest⟩

/-- A continuation may follow every lead byte but four, which each shut out a part of them. -/
private theorem isSecond_of_bounds
    {lead second : UInt8} (least : 0x80 ≤ second.toNat) (greatest : second.toNat ≤ 0xBF)
    (notOverlong : lead.toNat = 0xE0 → 0xA0 ≤ second.toNat)
    (noSurrogate : lead.toNat = 0xED → second.toNat ≤ 0x9F)
    (notOverlongFour : lead.toNat = 0xF0 → 0x90 ≤ second.toNat)
    (inRange : lead.toNat = 0xF4 → second.toNat ≤ 0x8F) :
    isSecond lead second = true := by
  unfold isSecond
  split
  · rename_i isLead
    subst isLead
    exact (between_iff _ _ _).mpr ⟨notOverlong rfl, greatest⟩
  split
  · rename_i isLead
    subst isLead
    exact (between_iff _ _ _).mpr ⟨least, noSurrogate rfl⟩
  split
  · rename_i isLead
    subst isLead
    exact (between_iff _ _ _).mpr ⟨notOverlongFour rfl, greatest⟩
  split
  · rename_i isLead
    subst isLead
    exact (between_iff _ _ _).mpr ⟨least, inRange rfl⟩
  · exact isContinuation_of_bounds least greatest

private theorem not_between {low high byte : UInt8} (above : high.toNat < byte.toNat) :
    ¬ (low ≤ byte && byte ≤ high) = true := fun bounds =>
  Nat.not_le_of_lt above ((between_iff low high byte).mp bounds).2

private theorem readChar?_one
    {byte : UInt8} (small : byte.toNat < 0x80) (rest : Bytes) :
    readChar? (byte :: rest) = some (Char.ofNat byte.toNat, rest) := by
  have isAscii : byte < 0x80 := UInt8.lt_iff_toNat_lt.mpr small
  simp only [readChar?, if_pos isAscii]

private theorem readChar?_two
    {lead second : UInt8} (least : 0xC2 ≤ lead.toNat) (greatest : lead.toNat ≤ 0xDF)
    (follows : isContinuation second = true) (rest : Bytes) :
    readChar? (lead :: second :: rest) =
      some (Char.ofNat ((lead.toNat - 0xC0) * 64 + continuationBits second), rest) := by
  have notOne : ¬ lead < 0x80 := not_ascii (by omega)
  have isLead := (between_iff 0xC2 0xDF lead).mpr ⟨least, greatest⟩
  simp only [readChar?, if_neg notOne, if_pos isLead, if_pos follows]

private theorem readChar?_three
    {lead second third : UInt8} (least : 0xE0 ≤ lead.toNat) (greatest : lead.toNat ≤ 0xEF)
    (follows : isSecond lead second = true) (followsToo : isContinuation third = true)
    (rest : Bytes) :
    readChar? (lead :: second :: third :: rest) =
      some (Char.ofNat (((lead.toNat - 0xE0) * 64 + continuationBits second) * 64
        + continuationBits third), rest) := by
  have notOne : ¬ lead < 0x80 := not_ascii (by omega)
  have notTwo : ¬ (0xC2 ≤ lead && lead ≤ 0xDF) = true :=
    not_between (Nat.lt_of_lt_of_le (by decide) least)
  have isLead := (between_iff 0xE0 0xEF lead).mpr ⟨least, greatest⟩
  have bothFollow : (isSecond lead second && isContinuation third) = true := by
    rw [follows, followsToo]
    rfl
  simp only [readChar?, if_neg notOne, if_neg notTwo, if_pos isLead, if_pos bothFollow]

private theorem readChar?_four
    {lead second third fourth : UInt8} (least : 0xF0 ≤ lead.toNat) (greatest : lead.toNat ≤ 0xF4)
    (follows : isSecond lead second = true) (followsToo : isContinuation third = true)
    (followsLast : isContinuation fourth = true) (rest : Bytes) :
    readChar? (lead :: second :: third :: fourth :: rest) =
      some (Char.ofNat ((((lead.toNat - 0xF0) * 64 + continuationBits second) * 64
        + continuationBits third) * 64 + continuationBits fourth), rest) := by
  have notOne : ¬ lead < 0x80 := not_ascii (by omega)
  have notTwo : ¬ (0xC2 ≤ lead && lead ≤ 0xDF) = true :=
    not_between (Nat.lt_of_lt_of_le (by decide) least)
  have notThree : ¬ (0xE0 ≤ lead && lead ≤ 0xEF) = true :=
    not_between (Nat.lt_of_lt_of_le (by decide) least)
  have isLead := (between_iff 0xF0 0xF4 lead).mpr ⟨least, greatest⟩
  have allFollow :
      (isSecond lead second && isContinuation third && isContinuation fourth) = true := by
    rw [follows, followsToo, followsLast]
    rfl
  simp only [readChar?, if_neg notOne, if_neg notTwo, if_neg notThree, if_pos isLead,
    if_pos allFollow]

/-- The bytes of a character are read as that character. -/
theorem readChar?_append (character : Char) (rest : Bytes) :
    readChar? (String.utf8EncodeChar character ++ rest) = some (character, rest) := by
  have isValid : character.val.toNat < 0xD800 ∨
      0xDFFF < character.val.toNat ∧ character.val.toNat < 0x110000 :=
    character.valid
  have restored : Char.ofNat character.val.toNat = character := Char.ofNat_toNat character
  generalize isCode : character.val.toNat = code at isValid restored
  have same {value : Nat} (isSame : value = code) :
      some (Char.ofNat value, rest) = some (character, rest) := by
    rw [isSame, restored]
  simp only [String.utf8EncodeChar, isCode]
  split
  · have isByte : (UInt8.ofNat code).toNat = code := toNat_ofNat (by omega)
    simp only [List.cons_append, List.nil_append]
    rw [readChar?_one (by omega)]
    exact same isByte
  split
  · have isLead : (UInt8.ofNat (code / 64 % 0x20 + 0xC0)).toNat = code / 64 + 0xC0 := by
      rw [toNat_ofNat (by omega)]
      omega
    have isLast : (UInt8.ofNat (code % 0x40 + 0x80)).toNat = code % 0x40 + 0x80 :=
      toNat_ofNat (by omega)
    simp only [List.cons_append, List.nil_append]
    rw [readChar?_two (by omega) (by omega) (isContinuation_of_bounds (by omega) (by omega)),
      continuationBits_ofNat (by omega)]
    exact same (by omega)
  split
  · have isLead : (UInt8.ofNat (code / 4096 % 0x10 + 0xE0)).toNat = code / 4096 + 0xE0 := by
      rw [toNat_ofNat (by omega)]
      omega
    have isNext : (UInt8.ofNat (code / 64 % 0x40 + 0x80)).toNat = code / 64 % 0x40 + 0x80 :=
      toNat_ofNat (by omega)
    have isLast : (UInt8.ofNat (code % 0x40 + 0x80)).toNat = code % 0x40 + 0x80 :=
      toNat_ofNat (by omega)
    simp only [List.cons_append, List.nil_append]
    rw [readChar?_three (by omega) (by omega)
      (isSecond_of_bounds (by omega) (by omega) (by omega) (by omega) (by omega) (by omega))
      (isContinuation_of_bounds (by omega) (by omega)), continuationBits_ofNat (by omega),
      continuationBits_ofNat (by omega)]
    exact same (by omega)
  · have isLead : (UInt8.ofNat (code / 262144 % 0x08 + 0xF0)).toNat = code / 262144 + 0xF0 := by
      rw [toNat_ofNat (by omega)]
      omega
    have isNext : (UInt8.ofNat (code / 4096 % 0x40 + 0x80)).toNat = code / 4096 % 0x40 + 0x80 :=
      toNat_ofNat (by omega)
    have isThird : (UInt8.ofNat (code / 64 % 0x40 + 0x80)).toNat = code / 64 % 0x40 + 0x80 :=
      toNat_ofNat (by omega)
    have isLast : (UInt8.ofNat (code % 0x40 + 0x80)).toNat = code % 0x40 + 0x80 :=
      toNat_ofNat (by omega)
    simp only [List.cons_append, List.nil_append]
    rw [readChar?_four (by omega) (by omega)
      (isSecond_of_bounds (by omega) (by omega) (by omega) (by omega) (by omega) (by omega))
      (isContinuation_of_bounds (by omega) (by omega))
      (isContinuation_of_bounds (by omega) (by omega)), continuationBits_ofNat (by omega),
      continuationBits_ofNat (by omega), continuationBits_ofNat (by omega)]
    exact same (by omega)

/-- What a second byte is bounded by, also where the lead byte in front of it shuts out a part. -/
private theorem bounds_of_isSecond
    {lead second : UInt8} (follows : isSecond lead second = true) :
    0x80 ≤ second.toNat ∧ second.toNat ≤ 0xBF ∧
      (lead.toNat = 0xE0 → 0xA0 ≤ second.toNat) ∧
      (lead.toNat = 0xED → second.toNat ≤ 0x9F) ∧
      (lead.toNat = 0xF0 → 0x90 ≤ second.toNat) ∧
      (lead.toNat = 0xF4 → second.toNat ≤ 0x8F) := by
  have differs {byte : UInt8} (isOther : ¬ lead = byte) : lead.toNat ≠ byte.toNat :=
    fun same => isOther (UInt8.toNat_inj.mp same)
  unfold isSecond at follows
  by_cases isFirst : lead = 0xE0
  · rw [if_pos isFirst, between_iff] at follows
    subst isFirst
    simp at follows ⊢
    omega
  by_cases isNext : lead = 0xED
  · rw [if_neg isFirst, if_pos isNext, between_iff] at follows
    subst isNext
    simp at follows ⊢
    omega
  by_cases isThird : lead = 0xF0
  · rw [if_neg isFirst, if_neg isNext, if_pos isThird, between_iff] at follows
    subst isThird
    simp at follows ⊢
    omega
  by_cases isLast : lead = 0xF4
  · rw [if_neg isFirst, if_neg isNext, if_neg isThird, if_pos isLast, between_iff] at follows
    subst isLast
    simp at follows ⊢
    omega
  rw [if_neg isFirst, if_neg isNext, if_neg isThird, if_neg isLast, isContinuation,
    between_iff] at follows
  exact ⟨follows.1, follows.2, fun same => absurd same (differs isFirst),
    fun same => absurd same (differs isNext), fun same => absurd same (differs isThird),
    fun same => absurd same (differs isLast)⟩

private theorem bounds_of_isContinuation
    {byte : UInt8} (follows : isContinuation byte = true) :
    0x80 ≤ byte.toNat ∧ byte.toNat ≤ 0xBF :=
  (between_iff 0x80 0xBF byte).mp follows

private theorem toNat_val_ofNat
    {code : Nat} (isValid : code < 0xD800 ∨ 0xDFFF < code ∧ code < 0x110000) :
    (Char.ofNat code).val.toNat = code := by
  rw [Char.ofNat, dif_pos isValid]
  rfl

private theorem eq_ofNat {byte : UInt8} {value : Nat} (same : byte.toNat = value) :
    byte = UInt8.ofNat value := by
  rw [← same, UInt8.ofNat_toNat]

private theorem utf8EncodeChar_one {byte : UInt8} (small : byte.toNat < 0x80) :
    String.utf8EncodeChar (Char.ofNat byte.toNat) = [byte] := by
  have isValid : byte.toNat < 0xD800 ∨ 0xDFFF < byte.toNat ∧ byte.toNat < 0x110000 := by omega
  have isCode := toNat_val_ofNat isValid
  rw [String.utf8EncodeChar, isCode, if_pos (by omega), ← eq_ofNat rfl]

private theorem utf8EncodeChar_two
    {lead second : UInt8} (least : 0xC2 ≤ lead.toNat) (greatest : lead.toNat ≤ 0xDF)
    (follows : isContinuation second = true) :
    String.utf8EncodeChar
      (Char.ofNat ((lead.toNat - 0xC0) * 64 + continuationBits second)) = [lead, second] := by
  have bounds := bounds_of_isContinuation follows
  unfold continuationBits
  generalize isCode : (lead.toNat - 0xC0) * 64 + (second.toNat - 0x80) = code
  have isFirst : lead = UInt8.ofNat (code / 64 % 0x20 + 0xC0) := eq_ofNat (by omega)
  have isLast : second = UInt8.ofNat (code % 0x40 + 0x80) := eq_ofNat (by omega)
  rw [String.utf8EncodeChar, toNat_val_ofNat (by omega), if_neg (by omega), if_pos (by omega),
    ← isFirst, ← isLast]

private theorem utf8EncodeChar_three
    {lead second third : UInt8} (least : 0xE0 ≤ lead.toNat) (greatest : lead.toNat ≤ 0xEF)
    (follows : isSecond lead second = true) (followsToo : isContinuation third = true) :
    String.utf8EncodeChar
      (Char.ofNat (((lead.toNat - 0xE0) * 64 + continuationBits second) * 64
        + continuationBits third)) = [lead, second, third] := by
  obtain ⟨bounds, upper, notOverlong, noSurrogate, -, -⟩ := bounds_of_isSecond follows
  have boundsToo := bounds_of_isContinuation followsToo
  unfold continuationBits
  generalize isCode : ((lead.toNat - 0xE0) * 64 + (second.toNat - 0x80)) * 64
    + (third.toNat - 0x80) = code
  have isFirst : lead = UInt8.ofNat (code / 4096 % 0x10 + 0xE0) := eq_ofNat (by omega)
  have isNext : second = UInt8.ofNat (code / 64 % 0x40 + 0x80) := eq_ofNat (by omega)
  have isLast : third = UInt8.ofNat (code % 0x40 + 0x80) := eq_ofNat (by omega)
  rw [String.utf8EncodeChar, toNat_val_ofNat (by omega), if_neg (by omega), if_neg (by omega),
    if_pos (by omega), ← isFirst, ← isNext, ← isLast]

private theorem utf8EncodeChar_four
    {lead second third fourth : UInt8} (least : 0xF0 ≤ lead.toNat) (greatest : lead.toNat ≤ 0xF4)
    (follows : isSecond lead second = true) (followsToo : isContinuation third = true)
    (followsLast : isContinuation fourth = true) :
    String.utf8EncodeChar
      (Char.ofNat ((((lead.toNat - 0xF0) * 64 + continuationBits second) * 64
        + continuationBits third) * 64 + continuationBits fourth)) =
      [lead, second, third, fourth] := by
  obtain ⟨bounds, upper, -, -, notOverlong, inRange⟩ := bounds_of_isSecond follows
  have boundsToo := bounds_of_isContinuation followsToo
  have boundsLast := bounds_of_isContinuation followsLast
  unfold continuationBits
  generalize isCode : (((lead.toNat - 0xF0) * 64 + (second.toNat - 0x80)) * 64
    + (third.toNat - 0x80)) * 64 + (fourth.toNat - 0x80) = code
  have isFirst : lead = UInt8.ofNat (code / 262144 % 0x08 + 0xF0) := eq_ofNat (by omega)
  have isNext : second = UInt8.ofNat (code / 4096 % 0x40 + 0x80) := eq_ofNat (by omega)
  have isThird : third = UInt8.ofNat (code / 64 % 0x40 + 0x80) := eq_ofNat (by omega)
  have isLast : fourth = UInt8.ofNat (code % 0x40 + 0x80) := eq_ofNat (by omega)
  rw [String.utf8EncodeChar, toNat_val_ofNat (by omega), if_neg (by omega), if_neg (by omega),
    if_neg (by omega), ← isFirst, ← isNext, ← isThird, ← isLast]

/-- Only the bytes of a character are read as that character. -/
theorem eq_append_of_readChar?
    {bytes rest : Bytes} {character : Char} (read : readChar? bytes = some (character, rest)) :
    bytes = String.utf8EncodeChar character ++ rest := by
  unfold readChar? at read
  split at read
  · contradiction
  split at read
  · rename_i isAscii
    obtain ⟨rfl, rfl⟩ := Prod.mk.inj (Option.some.inj read)
    rw [utf8EncodeChar_one (UInt8.lt_iff_toNat_lt.mp isAscii)]
    rfl
  split at read
  · rename_i isLead
    have leadBounds := (between_iff 0xC2 0xDF _).mp isLead
    split at read
    · split at read
      · rename_i follows
        obtain ⟨rfl, rfl⟩ := Prod.mk.inj (Option.some.inj read)
        rw [utf8EncodeChar_two leadBounds.1 leadBounds.2 follows]
        rfl
      · contradiction
    · contradiction
  split at read
  · rename_i isLead
    have leadBounds := (between_iff 0xE0 0xEF _).mp isLead
    split at read
    · split at read
      · rename_i follows
        obtain ⟨rfl, rfl⟩ := Prod.mk.inj (Option.some.inj read)
        rw [Bool.and_eq_true] at follows
        rw [utf8EncodeChar_three leadBounds.1 leadBounds.2 follows.1 follows.2]
        rfl
      · contradiction
    · contradiction
  split at read
  · rename_i isLead
    have leadBounds := (between_iff 0xF0 0xF4 _).mp isLead
    split at read
    · split at read
      · rename_i follows
        obtain ⟨rfl, rfl⟩ := Prod.mk.inj (Option.some.inj read)
        rw [Bool.and_eq_true, Bool.and_eq_true] at follows
        rw [utf8EncodeChar_four leadBounds.1 leadBounds.2 follows.1.1 follows.1.2 follows.2]
        rfl
      · contradiction
    · contradiction
  · contradiction

/-! ## Reading all characters -/

theorem decodePrefix_flatMap (characters : List Char) :
    decodePrefix (characters.flatMap String.utf8EncodeChar) = (characters, []) := by
  induction characters with
  | nil =>
      rw [decodePrefix]
      rfl
  | cons character rest inductionHypothesis =>
      rw [List.flatMap_cons, decodePrefix]
      split
      · rename_i unread
        rw [readChar?_append] at unread
        contradiction
      · rename_i other tail read
        rw [readChar?_append] at read
        obtain ⟨rfl, rfl⟩ := Prod.mk.inj (Option.some.inj read)
        rw [inductionHypothesis]

theorem eq_flatMap_of_decodePrefix
    {bytes rest : Bytes} {characters : List Char}
    (decoded : decodePrefix bytes = (characters, rest)) :
    bytes = characters.flatMap String.utf8EncodeChar ++ rest := by
  induction characters generalizing bytes with
  | nil =>
      rw [decodePrefix] at decoded
      split at decoded
      · exact (Prod.mk.inj decoded).2
      · cases (Prod.mk.inj decoded).1
  | cons character others inductionHypothesis =>
      rw [decodePrefix] at decoded
      split at decoded
      · cases (Prod.mk.inj decoded).1
      · rename_i first tail read
        obtain ⟨sameFirst, isRest⟩ := Prod.mk.inj decoded
        obtain ⟨rfl, isOthers⟩ := List.cons.inj sameFirst
        have later : tail = others.flatMap String.utf8EncodeChar ++ rest :=
          inductionHypothesis (Prod.ext isOthers isRest)
        rw [eq_append_of_readChar? read, List.flatMap_cons, List.append_assoc, ← later]

/-- The well-formed byte strings are the encodings of texts. -/
theorem decode?_eq_some_iff {bytes : Bytes} {characters : List Char} :
    decode? bytes = some characters ↔ bytes = characters.flatMap String.utf8EncodeChar := by
  constructor
  · intro decoded
    unfold decode? at decoded
    split at decoded
    · rename_i found isPrefix
      cases decoded
      rw [eq_flatMap_of_decodePrefix isPrefix, List.append_nil]
    · contradiction
  · rintro rfl
    rw [decode?, decodePrefix_flatMap]

theorem decode?_encodeText (text : String) :
    decode? (encodeText text) = some text.toList := by
  rw [encodeText_eq, decode?, decodePrefix_flatMap]

theorem text?_encodeText (text : String) : text? (encodeText text) = some text := by
  rw [text?, decode?_encodeText, Option.map_some, String.ofList_toList]

end Utf8

end RpcEndpoint
