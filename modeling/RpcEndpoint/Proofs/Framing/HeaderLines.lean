import Mathlib.Data.List.Induction
import Mathlib.Data.List.TakeWhile
import Mathlib.Data.Nat.Digits.Defs
import RpcEndpoint.Proofs.Framing.Grammar
import RpcEndpoint.Proofs.Framing.Header

/-!
# The lines of a header block

A block is a row of lines with an end of line between any two. The first line whose name is the
right one decides what is read, and the others are of no account.
-/

namespace RpcEndpoint

/-! ## Blanks around a text -/

namespace Text

/-- Without the blanks around it the text is the core. -/
def Trims (text core : List Char) : Prop :=
  ∃ ahead behind, text = ahead ++ core ++ behind ∧
    (∀ character ∈ ahead ++ behind, isBlank character = true) ∧
    (∀ character, core.head? = some character ∨ core.getLast? = some character →
      isBlank character = false)

private theorem trimEnd_append_of_blank
    {core behind : List Char} (blank : ∀ character ∈ behind, isBlank character = true) :
    trimEnd (core ++ behind) = trimEnd core := by
  unfold trimEnd
  rw [List.reverse_append, List.dropWhile_append]
  have dropped : behind.reverse.dropWhile isBlank = [] := by
    rw [List.dropWhile_eq_nil_iff]
    simpa using blank
  simp [dropped]

private theorem trimEnd_eq_self
    {core : List Char}
    (last : ∀ character, core.getLast? = some character → isBlank character = false) :
    trimEnd core = core := by
  have kept : core.reverse.dropWhile isBlank = core.reverse := by
    cases backwards : core.reverse with
    | nil =>
        rfl
    | cons character rest =>
        have isLast : core.getLast? = some character := by
          rw [← List.head?_reverse, backwards, List.head?_cons]
        rw [List.dropWhile_cons, last character isLast]
        rfl
  rw [trimEnd, kept, List.reverse_reverse]

private theorem exists_trimEnd (text : List Char) :
    ∃ behind, text = trimEnd text ++ behind ∧
      (∀ character ∈ behind, isBlank character = true) ∧
      ∀ character, (trimEnd text).getLast? = some character → isBlank character = false := by
  refine ⟨(text.reverse.takeWhile isBlank).reverse, ?_, ?_, ?_⟩
  · rw [trimEnd, ← List.reverse_append, List.takeWhile_append_dropWhile, List.reverse_reverse]
  · intro character isBehind
    exact List.mem_takeWhile_imp (List.mem_reverse.mp isBehind)
  · intro character isLast
    rw [trimEnd, List.getLast?_reverse] at isLast
    have stops := List.head?_dropWhile_not isBlank text.reverse
    rw [isLast] at stops
    simpa using stops

/-- There is one way to take the blanks away, and `trim` does it. -/
theorem trims_iff {text core : List Char} : Trims text core ↔ trim text = core := by
  constructor
  · rintro ⟨ahead, behind, rfl, blank, ends⟩
    have aheadBlank : ∀ character ∈ ahead, isBlank character = true :=
      fun character isAhead => blank character (List.mem_append_left _ isAhead)
    have behindBlank : ∀ character ∈ behind, isBlank character = true :=
      fun character isBehind => blank character (List.mem_append_right _ isBehind)
    have dropped : (ahead ++ core ++ behind).dropWhile isBlank =
        (core ++ behind).dropWhile isBlank := by
      rw [List.append_assoc, List.dropWhile_append, List.dropWhile_eq_nil_iff.mpr aheadBlank]
      rfl
    rw [trim, dropped]
    cases core with
    | nil =>
        rw [List.nil_append, List.dropWhile_eq_nil_iff.mpr behindBlank]
        rfl
    | cons first rest =>
        have isFirst : isBlank first = false := ends first (.inl rfl)
        have kept : (first :: rest ++ behind).dropWhile isBlank = first :: rest ++ behind := by
          simp [isFirst]
        rw [kept, trimEnd_append_of_blank behindBlank]
        exact trimEnd_eq_self fun character isLast => ends character (.inr isLast)
  · rintro rfl
    obtain ⟨behind, isRest, behindBlank, last⟩ := exists_trimEnd (text.dropWhile isBlank)
    refine ⟨text.takeWhile isBlank, behind, ?_, ?_, ?_⟩
    · rw [trim, List.append_assoc, ← isRest, List.takeWhile_append_dropWhile]
    · intro character isAround
      rcases List.mem_append.mp isAround with isAhead | isBehind
      · exact List.mem_takeWhile_imp isAhead
      · exact behindBlank character isBehind
    · rintro character (isFirst | isLast)
      · -- What the rest begins with is what the trimmed text begins with, if anything does.
        have isHead : (text.dropWhile isBlank).head? = some character := by
          rw [isRest, List.head?_append]
          simp only [trim] at isFirst
          rw [isFirst]
          rfl
        have stops := List.head?_dropWhile_not isBlank text
        rw [isHead] at stops
        simpa using stops
      · exact last character isLast

/-! ## Numbers -/

/-- One or more decimal digits, perhaps with one plus sign in front, write a number that fits a
machine word. -/
def Writes (text : List Char) (number : Nat) : Prop :=
  ∃ digits, (text = digits ∨ text = '+' :: digits) ∧ digits ≠ [] ∧
    (∀ digit ∈ digits, digit.isDigit = true) ∧
    Nat.ofDigits 10 (digits.reverse.map fun digit => digit.toNat - '0'.toNat) = number ∧
    number < 2 ^ 64

theorem digitsValue_eq_ofDigits (digits : List Char) :
    digitsValue digits =
      Nat.ofDigits 10 (digits.reverse.map fun digit => digit.toNat - '0'.toNat) := by
  induction digits using List.reverseRecOn with
  | nil =>
      rfl
  | append_singleton digits digit inductionHypothesis =>
      rw [List.reverse_append, List.map_append, List.reverse_singleton, List.map_singleton,
        List.singleton_append, Nat.ofDigits_cons, ← inductionHypothesis]
      simp only [digitsValue, List.foldl_append, List.foldl_cons, List.foldl_nil]
      omega

theorem wordOfDigits?_eq_some_iff {digits : List Char} {number : Nat} :
    wordOfDigits? digits = some number ↔
      digits ≠ [] ∧ (∀ digit ∈ digits, digit.isDigit = true) ∧ digitsValue digits = number ∧
        number < wordBound := by
  have noWord : (digits.isEmpty || !digits.all Char.isDigit) = false ↔
      digits ≠ [] ∧ ∀ digit ∈ digits, digit.isDigit = true := by
    simp
  unfold wordOfDigits?
  rw [← and_assoc, ← noWord]
  cases digits.isEmpty || !digits.all Char.isDigit with
  | true =>
      simp
  | false =>
      by_cases fits : digitsValue digits < wordBound
      · simp only [Bool.false_eq_true, if_false, if_pos fits, Option.some.injEq, true_and]
        constructor
        · rintro rfl
          exact ⟨rfl, fits⟩
        · rintro ⟨rfl, -⟩
          rfl
      · simp only [Bool.false_eq_true, if_false, if_neg fits, reduceCtorEq, true_and, false_iff]
        rintro ⟨rfl, small⟩
        exact fits small

end Text

namespace Framing

open Text (Trims Writes decimal)

theorem parseLength?_eq_some_iff {text : List Char} {number : Nat} :
    parseLength? text = some number ↔ Writes text number := by
  have isWord {digits : List Char} : Text.wordOfDigits? digits = some number ↔
      digits ≠ [] ∧ (∀ digit ∈ digits, digit.isDigit = true) ∧
        Nat.ofDigits 10 (digits.reverse.map fun digit => digit.toNat - '0'.toNat) = number ∧
        number < 2 ^ 64 := by
    rw [Text.wordOfDigits?_eq_some_iff, Text.digitsValue_eq_ofDigits]
    rfl
  constructor
  · intro parsed
    unfold parseLength? at parsed
    split at parsed
    · rename_i digits
      exact ⟨digits, .inr rfl, isWord.mp parsed⟩
    · exact ⟨text, .inl rfl, isWord.mp parsed⟩
  · rintro ⟨digits, rfl | rfl, word⟩
    · -- A plus sign is no digit, so that the digits are read as they stand.
      unfold parseLength?
      split
      · have isPlus : ('+' : Char).isDigit = true := word.2.1 '+' List.mem_cons_self
        contradiction
      · exact isWord.mpr word
    · exact isWord.mpr word

/-! ## Lines -/

/-- What ends a line. -/
def lineEnd : List Char := ['\r', '\n']

/-- No line ends within the text. -/
def Unbroken (text : List Char) : Prop :=
  ¬ lineEnd <:+: text

theorem Unbroken.tail
    {character : Char} {rest : List Char} (unbroken : Unbroken (character :: rest)) :
    Unbroken rest :=
  fun broken => unbroken (broken.trans (List.suffix_cons character rest).isInfix)

private theorem lines_cons
    {character : Char} {rest : List Char}
    (goesOn : ∀ others, character = '\r' → rest ≠ '\n' :: others) :
    lines (character :: rest) =
      match lines rest with
      | [] => [[character]]
      | line :: others => (character :: line) :: others :=
  lines.eq_3 character rest goesOn

theorem lines_of_unbroken {line : List Char} (unbroken : Unbroken line) : lines line = [line] := by
  induction line with
  | nil =>
      rfl
  | cons character rest inductionHypothesis =>
      rw [lines_cons, inductionHypothesis unbroken.tail]
      rintro others rfl rfl
      exact unbroken ⟨[], others, rfl⟩

theorem lines_append
    {line : List Char} (unbroken : Unbroken line) (text : List Char) :
    lines (line ++ lineEnd ++ text) = line :: lines text := by
  induction line with
  | nil =>
      rfl
  | cons character rest inductionHypothesis =>
      have later := inductionHypothesis unbroken.tail
      rw [List.cons_append, List.cons_append, lines_cons, later]
      rintro others rfl isFeed
      cases rest with
      | nil =>
          simp [lineEnd] at isFeed
      | cons next rest =>
          obtain ⟨rfl, -⟩ := List.cons.inj isFeed
          exact unbroken ⟨[], rest, rfl⟩

/-- The lines of a block. -/
def joinLines (texts : List (List Char)) : List Char :=
  lineEnd.intercalate texts

theorem joinLines_cons_cons (line next : List Char) (others : List (List Char)) :
    joinLines (line :: next :: others) = line ++ lineEnd ++ joinLines (next :: others) := by
  simp [joinLines, List.intercalate]

/-- Lines that are joined are found again. -/
theorem lines_joinLines
    {line : List Char} {others : List (List Char)}
    (unbroken : ∀ text ∈ line :: others, Unbroken text) :
    lines (joinLines (line :: others)) = line :: others := by
  induction others generalizing line with
  | nil =>
      have isLine : joinLines [line] = line := by simp [joinLines, List.intercalate]
      rw [isLine]
      exact lines_of_unbroken (unbroken line List.mem_cons_self)
  | cons next others inductionHypothesis =>
      rw [joinLines_cons_cons, lines_append (unbroken line List.mem_cons_self),
        inductionHypothesis fun text isText => unbroken text (List.mem_cons_of_mem _ isText)]

private theorem joinLines_cons_character
    (character : Char) (line : List Char) (others : List (List Char)) :
    joinLines ((character :: line) :: others) = character :: joinLines (line :: others) := by
  cases others with
  | nil =>
      simp [joinLines, List.intercalate]
  | cons next others =>
      rw [joinLines_cons_cons, joinLines_cons_cons]
      rfl

/-- Every text is joined of lines, and in none of them a line ends. -/
theorem joined_lines (text : List Char) :
    lines text ≠ [] ∧ joinLines (lines text) = text ∧ ∀ line ∈ lines text, Unbroken line := by
  fun_induction lines text with
  | case1 =>
      refine ⟨by simp, rfl, ?_⟩
      intro line isLine
      rw [List.mem_singleton.mp isLine]
      simp [Unbroken, lineEnd]
  | case2 rest inductionHypothesis =>
      obtain ⟨nonempty, joined, unbroken⟩ := inductionHypothesis
      refine ⟨by simp, ?_, ?_⟩
      · cases isLines : lines rest with
        | nil =>
            exact absurd isLines nonempty
        | cons line others =>
            rw [joinLines_cons_cons, ← isLines, joined]
            rfl
      · intro line isLine
        rcases List.mem_cons.mp isLine with rfl | isLater
        · simp [Unbroken, lineEnd]
        · exact unbroken line isLater
  | case3 character rest goesOn isLines inductionHypothesis =>
      exact absurd isLines inductionHypothesis.1
  | case4 character rest goesOn line others isLines inductionHypothesis =>
      obtain ⟨-, joined, unbroken⟩ := inductionHypothesis
      rw [isLines] at joined unbroken
      refine ⟨by simp, ?_, ?_⟩
      · rw [joinLines_cons_character, joined]
      · intro other isOther
        rcases List.mem_cons.mp isOther with rfl | isLater
        · intro broken
          rcases List.infix_cons_iff.mp broken with ⟨behind, atFront⟩ | later
          · -- The next character is the first one of this line.
            obtain ⟨isReturn, isFeed⟩ := List.cons.inj atFront
            apply goesOn (joinLines (behind :: others)) isReturn.symm
            rw [← joined, ← isFeed]
            exact joinLines_cons_character '\n' behind others
          · exact unbroken line List.mem_cons_self later
        · exact unbroken other (List.mem_cons_of_mem _ isLater)

/-! ## The line that counts -/

theorem splitAtColon?_eq_some_iff {line before behind : List Char} :
    splitAtColon? line = some (before, behind) ↔ line = before ++ ':' :: behind ∧ ':' ∉ before := by
  fun_induction splitAtColon? line generalizing before with
  | case1 =>
      simp
  | case2 rest =>
      cases before with
      | nil =>
          simp
      | cons first before =>
          simp only [Option.some.injEq, Prod.mk.injEq, reduceCtorEq, false_and, false_iff]
          rintro ⟨same, noColon⟩
          exact noColon ((List.cons.inj same).1 ▸ List.mem_cons_self)
  | case3 character rest notColon inductionHypothesis =>
      cases before with
      | nil =>
          simp only [List.not_mem_nil, not_false_eq_true, and_true, List.nil_append,
            List.cons.injEq, Option.map_eq_some_iff, Prod.mk.injEq, reduceCtorEq, false_and,
            and_false, exists_false, false_iff, not_and]
          exact fun isColon => absurd isColon notColon
      | cons first before =>
          rw [List.cons_append, List.cons.injEq, List.mem_cons, not_or, Option.map_eq_some_iff]
          constructor
          · rintro ⟨⟨earlier, later⟩, isSplit, same⟩
            obtain ⟨sameBefore, rfl⟩ := Prod.mk.inj same
            obtain ⟨rfl, rfl⟩ := List.cons.inj sameBefore
            obtain ⟨isRest, noColon⟩ := inductionHypothesis.mp isSplit
            exact ⟨⟨rfl, isRest⟩, Ne.symm notColon, noColon⟩
          · rintro ⟨⟨rfl, isRest⟩, -, noColon⟩
            exact ⟨(before, behind), inductionHypothesis.mpr ⟨isRest, noColon⟩, rfl⟩

/-- The line names the length by this value. -/
def NamesLength (line value : List Char) : Prop :=
  ∃ before behind name, line = before ++ ':' :: behind ∧ ':' ∉ before ∧ Trims before name ∧
    name.map Char.toLower = "content-length".toList ∧ Trims behind value

theorem lengthValue?_eq_some_iff {line value : List Char} :
    lengthValue? line = some value ↔ NamesLength line value := by
  have sameName (name : List Char) : sameIgnoringCase name lengthName.toList = true ↔
      name.map Char.toLower = "content-length".toList := by
    have isName : lengthName.toList.map Char.toLower = "content-length".toList := by decide
    rw [sameIgnoringCase, isName, decide_eq_true_eq]
  constructor
  · intro named
    unfold lengthValue? at named
    split at named
    · rename_i before behind isSplit
      obtain ⟨isLine, noColon⟩ := splitAtColon?_eq_some_iff.mp isSplit
      split at named
      · rename_i isName
        exact ⟨before, behind, Text.trim before, isLine, noColon, Text.trims_iff.mpr rfl,
          (sameName _).mp isName, Text.trims_iff.mpr (Option.some.inj named)⟩
      · contradiction
    · contradiction
  · rintro ⟨before, behind, name, isLine, noColon, isTrimmed, isName, isValue⟩
    have isSplit := splitAtColon?_eq_some_iff.mpr ⟨isLine, noColon⟩
    rw [lengthValue?, isSplit]
    dsimp only
    rw [Text.trims_iff.mp isTrimmed, if_pos ((sameName name).mpr isName), Text.trims_iff.mp isValue]

theorem lengthValue?_eq_none_iff {line : List Char} :
    lengthValue? line = none ↔ ∀ value, ¬ NamesLength line value := by
  rw [Option.eq_none_iff_forall_ne_some]
  simp only [ne_eq, lengthValue?_eq_some_iff]

/-- The first of the lines that names the length names it by this value. -/
def FirstNamed (texts : List (List Char)) (value : List Char) : Prop :=
  ∃ before line behind, texts = before ++ line :: behind ∧ NamesLength line value ∧
    ∀ other ∈ before, ∀ otherValue, ¬ NamesLength other otherValue

theorem findSome?_lengthValue?_iff {texts : List (List Char)} {value : List Char} :
    texts.findSome? lengthValue? = some value ↔ FirstNamed texts value := by
  rw [List.findSome?_eq_some_iff]
  simp only [lengthValue?_eq_some_iff, lengthValue?_eq_none_iff]
  rfl

theorem findSome?_lengthValue?_eq_none_iff {texts : List (List Char)} :
    texts.findSome? lengthValue? = none ↔ ∀ line ∈ texts, ∀ value, ¬ NamesLength line value := by
  simp only [List.findSome?_eq_none_iff, lengthValue?_eq_none_iff]

/-! ## Blocks -/

/-- The block of these lines, as it is sent. -/
def blockOf (texts : List (List Char)) : Bytes :=
  (joinLines texts).flatMap String.utf8EncodeChar

/-- What the first line of the right name makes of a block. -/
theorem payloadLength_blockOf
    {texts : List (List Char)} (unbroken : ∀ line ∈ texts, Unbroken line) :
    payloadLength (blockOf texts) =
      match texts.findSome? lengthValue? with
      | none => .error .missingLength
      | some value =>
        match parseLength? value with
        | none => .error (.invalidLength (String.ofList value))
        | some length => .ok length := by
  have isText : Utf8.decode? (blockOf texts) = some (joinLines texts) :=
    Utf8.decode?_eq_some_iff.mpr rfl
  have selected : (lines (joinLines texts)).findSome? lengthValue? =
      texts.findSome? lengthValue? := by
    cases texts with
    | nil =>
        -- A block without lines is read as one empty line, which names nothing.
        rfl
    | cons line others =>
        rw [lines_joinLines unbroken]
  cases found : texts.findSome? lengthValue? with
  | none =>
      simp [payloadLength, isText, selected, found]
  | some value =>
      cases isLength : parseLength? value with
      | none | some length =>
          simp [payloadLength, isText, selected, found, isLength]

theorem blockOf_lengthLine (payload : Bytes) :
    blockOf [lengthLine payload.length] = header payload := by
  simp [blockOf, header, joinLines, List.intercalate]

theorem unbroken_lengthLine (length : Nat) : Unbroken (lengthLine length) := by
  rintro ⟨before, behind, same⟩
  have isReturn : '\r' ∈ lengthLine length := by
    rw [← same]
    simp [lineEnd]
  exact (mem_lengthLine isReturn).2 rfl

/-- A block that is no text is refused as such, and every text is a block of lines. Of such a block
the first line counts whose name, without the blanks around it and in either case of its letters,
is the right one. What stands behind its colon, again without blanks, is the length if it writes a
number that fits a machine word, and is named in the refusal if it does not; without such a line no
length is there. So the lines around it are of no account, as long as no line of that name comes
before it; and what is written in front of a payload is read as the length of the payload, whatever
other lines are put around it. -/
theorem first_length_line_decides :
    (∀ block, payloadLength block = .error .invalidEncoding ↔
      ∀ text : List Char, block ≠ text.flatMap String.utf8EncodeChar) ∧
    (∀ text : List Char, ∃ texts, (∀ line ∈ texts, Unbroken line) ∧
      blockOf texts = text.flatMap String.utf8EncodeChar) ∧
    (∀ texts, (∀ line ∈ texts, Unbroken line) →
      (∀ length, payloadLength (blockOf texts) = .ok length ↔
        ∃ value, FirstNamed texts value ∧ Writes value length) ∧
      (∀ refused, payloadLength (blockOf texts) = .error (.invalidLength refused) ↔
        ∃ value, FirstNamed texts value ∧ (∀ length, ¬ Writes value length) ∧
          refused = String.ofList value) ∧
      (payloadLength (blockOf texts) = .error .missingLength ↔
        ∀ line ∈ texts, ∀ value, ¬ NamesLength line value)) ∧
    (∀ line value before behind earlier later, NamesLength line value →
      (∀ other ∈ before ++ earlier, ∀ otherValue, ¬ NamesLength other otherValue) →
      (∀ other ∈ line :: before ++ behind ++ earlier ++ later, Unbroken other) →
      payloadLength (blockOf (before ++ line :: behind)) =
        payloadLength (blockOf (earlier ++ line :: later))) ∧
    ∀ payload : Bytes, payload.length < 2 ^ 64 → ∃ line,
      encodeFrame payload = blockOf [line] ++ separator ++ payload ∧
        ∀ before behind, (∀ other ∈ before, ∀ value, ¬ NamesLength other value) →
          (∀ other ∈ before ++ behind, Unbroken other) →
          payloadLength (blockOf (before ++ line :: behind)) = .ok payload.length := by
  -- Which value is found depends on the first line of the name only.
  have found {line value : List Char} {before : List (List Char)} (named : NamesLength line value)
      (unnamed : ∀ other ∈ before, ∀ otherValue, ¬ NamesLength other otherValue)
      (behind : List (List Char)) :
      (before ++ line :: behind).findSome? lengthValue? = some value :=
    findSome?_lengthValue?_iff.mpr ⟨before, line, behind, rfl, named, unnamed⟩
  refine ⟨fun block => payloadLength_eq_invalidEncoding_iff, ?_, ?_, ?_, ?_⟩
  · intro text
    obtain ⟨-, joined, unbroken⟩ := joined_lines text
    refine ⟨lines text, unbroken, ?_⟩
    rw [blockOf, joined]
  · intro texts unbroken
    rw [payloadLength_blockOf unbroken, ← findSome?_lengthValue?_eq_none_iff]
    simp only [← findSome?_lengthValue?_iff, ← parseLength?_eq_some_iff]
    cases isFound : texts.findSome? lengthValue? with
    | none =>
        simp
    | some value =>
        cases isNumber : parseLength? value with
        | none =>
            simp [isNumber, eq_comm]
        | some length =>
            simp [isNumber, eq_comm]
  · intro line value before behind earlier later named unnamed unbroken
    have unbrokenFirst : ∀ other ∈ before ++ line :: behind, Unbroken other := by
      intro other isOther
      apply unbroken other
      simp only [List.mem_append, List.mem_cons] at isOther ⊢
      tauto
    have unbrokenSecond : ∀ other ∈ earlier ++ line :: later, Unbroken other := by
      intro other isOther
      apply unbroken other
      simp only [List.mem_append, List.mem_cons] at isOther ⊢
      tauto
    rw [payloadLength_blockOf unbrokenFirst, payloadLength_blockOf unbrokenSecond,
      found named (fun other isOther => unnamed other (List.mem_append_left _ isOther)) behind,
      found named (fun other isOther => unnamed other (List.mem_append_right _ isOther)) later]
  · intro payload small
    refine ⟨lengthLine payload.length, ?_, ?_⟩
    · rw [encodeFrame_eq, blockOf_lengthLine]
    · intro before behind unnamed unbrokenOthers
      have named : NamesLength (lengthLine payload.length) (decimal payload.length) :=
        lengthValue?_eq_some_iff.mp (lengthValue?_lengthLine payload.length)
      have unbroken : ∀ other ∈ before ++ lengthLine payload.length :: behind, Unbroken other := by
        intro other isOther
        rcases List.mem_append.mp isOther with isBefore | isHere
        · exact unbrokenOthers other (List.mem_append_left _ isBefore)
        · rcases List.mem_cons.mp isHere with rfl | isBehind
          · exact unbroken_lengthLine payload.length
          · exact unbrokenOthers other (List.mem_append_right _ isBehind)
      rw [payloadLength_blockOf unbroken, found named unnamed behind]
      dsimp only
      rw [parseLength?_decimal small]

instance : DecidablePred Unbroken :=
  fun text => inferInstanceAs (Decidable (¬ lineEnd <:+: text))

/-- The line that counts, with blanks around its name and its value. -/
def namingLine : List Char := "\u00a0cOnTeNt-lEnGtH\t:\u3000+007 ".toList

/-- A line with another name, one without a colon and one without a name. -/
def lookAlikes : List (List Char) :=
  ["Content-Lengths: 1".toList, "Content-Length 2\r".toList, ": Content-Length: 3".toList]

/-- Another line of the name, which comes too late. -/
def lateLine : List Char := "Content-Length: 9".toList

theorem look_alikes_are_passed_over :
    payloadLength (blockOf (lookAlikes ++ namingLine :: [lateLine])) = .ok 7 ∧
      payloadLength (blockOf ([] ++ namingLine :: lookAlikes)) =
        payloadLength (blockOf (lookAlikes ++ namingLine :: [lateLine])) := by
  have unbroken : ∀ line ∈ namingLine :: [] ++ lookAlikes ++ lookAlikes ++ [lateLine],
      Unbroken line := by
    decide +kernel
  have named : NamesLength namingLine ['+', '0', '0', '7'] :=
    lengthValue?_eq_some_iff.mp (by decide +kernel)
  have writes : Writes ['+', '0', '0', '7'] 7 :=
    parseLength?_eq_some_iff.mp rfl
  have unnamed : ∀ other ∈ lookAlikes, ∀ value, ¬ NamesLength other value := by
    have noValue : ∀ other ∈ lookAlikes, lengthValue? other = none := by decide +kernel
    exact fun other isOther => lengthValue?_eq_none_iff.mp (noValue other isOther)
  obtain ⟨-, -, decides, passesOver, -⟩ := first_length_line_decides
  refine ⟨?_, ?_⟩
  · have isFirst : FirstNamed (lookAlikes ++ namingLine :: [lateLine]) ['+', '0', '0', '7'] :=
      ⟨lookAlikes, namingLine, [lateLine], rfl, named, unnamed⟩
    have whole : ∀ line ∈ lookAlikes ++ namingLine :: [lateLine], Unbroken line := by
      decide +kernel
    exact ((decides _ whole).1 7).mpr ⟨_, isFirst, writes⟩
  · exact passesOver namingLine _ [] lookAlikes lookAlikes [lateLine] named unnamed unbroken

end Framing

end RpcEndpoint
