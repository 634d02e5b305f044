import RpcEndpoint.Process.Numeral

/-!
# Sort keys

Orders of texts, and the keys that say which order holds for which part of a line.
-/

namespace RpcEndpoint.Program.Sort

/-! ## Orders of texts

Texts are compared byte by byte, or by the numbers, months or versions that they begin with. -/

def isBlank (character : Char) : Bool :=
  character = ' ' || character = '\t'

/-! ### Numbers -/

/-- The number at the beginning of a text: its sign, its whole part, the digits behind its point
without zeros that say nothing, and what stands behind it. -/
structure LeadingNumber where
  isNegative : Bool
  whole : Nat
  part : List Char
  rest : List Char

def leadingNumber (text : String) : LeadingNumber :=
  let visible := text.toList.dropWhile isBlank
  let (isNegative, digits) := match visible with
    | '-' :: rest => (true, rest)
    | rest => (false, rest)
  let whole := digits.takeWhile Char.isDigit
  let behind := digits.drop whole.length
  let (part, rest) := match behind with
    | '.' :: more =>
      let part := more.takeWhile Char.isDigit
      (part, more.drop part.length)
    | _ => ([], behind)
  let significant := (part.reverse.dropWhile (· = '0')).reverse
  let number := (String.ofList whole).toNat?.getD 0
  ⟨isNegative && !(number = 0 && significant.isEmpty), number, significant, rest⟩

def LeadingNumber.isZero (number : LeadingNumber) : Bool :=
  number.whole = 0 && number.part.isEmpty

/-- The order of two numbers at the beginnings of texts. -/
def LeadingNumber.compare (left right : LeadingNumber) : Ordering :=
  let sizes := (Ord.compare left.whole right.whole).then
    (Ord.compare (String.ofList left.part) (String.ofList right.part))
  match left.isNegative, right.isNegative with
  | true, false => .lt
  | false, true => .gt
  | true, true => sizes.swap
  | false, false => sizes

def compareNumbers (left right : String) : Ordering :=
  (leadingNumber left).compare (leadingNumber right)

/-- The powers that the letters behind numbers stand for. -/
def scales : List (Char × Int) :=
  [('k', 1), ('K', 1), ('M', 2), ('G', 3), ('T', 4), ('P', 5), ('E', 6), ('Z', 7), ('Y', 8),
    ('R', 9), ('Q', 10)]

/-- The power behind a number, which is negative for a negative one. -/
def LeadingNumber.scale (number : LeadingNumber) : Int :=
  if number.isZero then 0
  else
    let scale := ((number.rest.head?.bind fun letter => scales.lookup letter).getD 0)
    if number.isNegative then -scale else scale

/-- The order of two numbers with letters for their powers. -/
def compareScaled (left right : String) : Ordering :=
  let left := leadingNumber left
  let right := leadingNumber right
  (Ord.compare left.scale right.scale).then (left.compare right)

/-- The place of a text among numbers of all kinds: what is no number comes first, then what is not
a number by name, then the numbers from one infinity to the other. -/
inductive General where
  | absent
  | undefined
  | number (real : Numeral.Signed)

def general (text : String) : General :=
  match Numeral.readSigned? text with
  | none => .absent
  | some (real, _) => if real.magnitude = .none then .undefined else .number real

/-- The order of two numbers. -/
def compareReals (left right : Numeral.Signed) : Ordering :=
  let signed (real : Numeral.Signed) : Option (Int × Nat) :=
    real.magnitude.ratio?.map fun ratio =>
      (if real.negative then -(ratio.numerator : Int) else ratio.numerator, ratio.denominator)
  match signed left, signed right with
  | some (a, b), some (c, d) => Ord.compare (a * d) (c * b)
  | none, some _ => if left.negative then .lt else .gt
  | some _, none => if right.negative then .gt else .lt
  | none, none =>
    if left.negative = right.negative then .eq else if left.negative then .lt else .gt

def compareGeneral (left right : String) : Ordering :=
  match general left, general right with
  | .absent, .absent | .undefined, .undefined => .eq
  | .absent, _ => .lt
  | _, .absent => .gt
  | .undefined, _ => .lt
  | _, .undefined => .gt
  | .number left, .number right => compareReals left right

/-! ### Months -/

def months : List String :=
  ["JAN", "FEB", "MAR", "APR", "MAY", "JUN", "JUL", "AUG", "SEP", "OCT", "NOV", "DEC"]

/-- The number of the month that a text begins with, or zero. -/
def month (text : String) : Nat :=
  let letters := (text.toList.dropWhile isBlank).take 3
  match months.idxOf? (String.ofList (letters.map Char.toUpper)) with
  | some index => index + 1
  | none => 0

/-! ### Versions -/

/-- The weight of a character between the numbers of a version; the end weighs less than all but a
tilde. -/
def weight (character? : Option Char) : Int :=
  match character? with
  | none => -1
  | some character =>
    if character.isDigit then 0
    else if character.isAlpha then character.toNat
    else if character = '~' then -2
    else character.toNat + 256

/-- The order of two runs of other characters than digits, by the weights of the characters. -/
def compareRuns : List Char → List Char → Ordering
  | [], [] => .eq
  | [], second :: _ => Ord.compare (weight none) (weight (some second))
  | first :: _, [] => Ord.compare (weight (some first)) (weight none)
  | first :: left, second :: right =>
    (Ord.compare (weight (some first)) (weight (some second))).then (compareRuns left right)

/-- The order of two versions: runs of other characters and numbers in turn, so many at the most. A
run that ends where the other version has digits stands before it unless it is longer. -/
def compareParts : Nat → List Char → List Char → Ordering
  | 0, _, _ => .eq
  | fuel + 1, left, right =>
    if left.isEmpty && right.isEmpty then .eq
    else
      let leftRun := left.takeWhile (!Char.isDigit ·)
      let rightRun := right.takeWhile (!Char.isDigit ·)
      -- A digit behind a shorter run weighs zero and not as little as the end.
      let ended (run rest : List Char) (other : List Char) : List Char :=
        if run.length < other.length && run.length < rest.length then run ++ ['0'] else run
      let leftDigits := (left.drop leftRun.length).takeWhile Char.isDigit
      let rightDigits := (right.drop rightRun.length).takeWhile Char.isDigit
      let value (digits : List Char) : Nat := (String.ofList digits).toNat?.getD 0
      (compareRuns (ended leftRun left rightRun) (ended rightRun right leftRun)).then
        ((Ord.compare (value leftDigits) (value rightDigits)).then
          (compareParts fuel (left.drop (leftRun.length + leftDigits.length))
            (right.drop (rightRun.length + rightDigits.length))))

/-- Whether characters are an ending: a point, a letter, and then letters and digits. -/
def isEnding (characters : List Char) : Bool :=
  match characters with
  | '.' :: first :: rest =>
    (first.isAlpha || first = '~') && rest.all fun one => one.isAlphanum || one = '~'
  | _ => false

/-- A name without its endings. The name does not become empty. -/
def withoutEndings : Nat → List Char → List Char
  | 0, name => name
  | fuel + 1, name =>
    let last := (name.reverse.takeWhile (· ≠ '.')).reverse
    let before := name.take (name.length - last.length - 1)
    if !before.isEmpty && isEnding ('.' :: last) && last.length < name.length then
      withoutEndings fuel before
    else name

/-- The order of two names of versions. -/
def compareVersions (left right : String) : Ordering :=
  let rank (name : String) : Nat :=
    if name.isEmpty then 0
    else if name = "." then 1
    else if name = ".." then 2
    else if name.startsWith "." then 3
    else 4
  let whole := (left.length + right.length) + 1
  let names (text : String) : List Char := withoutEndings text.length text.toList
  (Ord.compare (rank left) (rank right)).then
    ((compareParts whole (names left) (names right)).then
      (compareParts whole left.toList right.toList))

/-! ## Keys

A key names a part of a line and says how it is compared. -/

/-! ### Manners -/

/-- What texts are compared by. -/
inductive Measure where
  | text
  | number
  | scaled
  | general
  | month
  | version
deriving Repr, DecidableEq

/-- How texts are compared. -/
structure Manner where
  measure : Measure
  folds : Bool
  /-- Whether all but blanks, letters and digits is passed by. -/
  plain : Bool
  /-- Whether what cannot be seen is passed by. -/
  visible : Bool
  reverse : Bool
  /-- Whether the blanks in front of a text are passed by. -/
  skipsBlanks : Bool
deriving Repr, DecidableEq

/-- The letters of the measures. -/
def measures : List (Char × Measure) :=
  [('g', .general), ('h', .scaled), ('M', .month), ('n', .number), ('V', .version)]

/-- The manner that letters ask for. -/
def mannerOf (has : Char → Bool) : Manner :=
  ⟨((measures.find? fun held => has held.1).map Prod.snd).getD .text, has 'f', has 'd',
    has 'i' && !has 'd', has 'r', has 'b'⟩

/-- The letters that do not go together, if there are several measures. -/
def conflict? (has : Char → Bool) : Option String :=
  let ignores := if has 'd' || has 'i' || has 'R' then 1 else 0
  let isVersion := has 'V'
  let count := ((measures.filter fun held => held.1 ≠ 'V' && has held.1).length)
    + (if isVersion || 0 < ignores then 1 else 0)
  if count ≤ 1 then none
  else
    some (String.ofList (['d', 'f', 'g', 'h', 'i', 'M', 'n', 'R', 'V'].filter fun letter =>
      has letter && !(letter = 'i' && has 'd')))

/-- The order of two texts. -/
def Manner.compare (manner : Manner) (left right : String) : Ordering :=
  let keeps (character : Char) : Bool :=
    (!manner.plain || isBlank character || character.isAlphanum)
      && (!manner.visible || ' ' ≤ character && character ≤ '~')
  let face (text : String) : String :=
    let kept := if manner.plain || manner.visible then String.ofList (text.toList.filter keeps)
      else text
    if manner.folds then kept.map Char.toUpper else kept
  let order := match manner.measure with
    | .text => Ord.compare (face left) (face right)
    | .number => compareNumbers left right
    | .scaled => compareScaled left right
    | .general => compareGeneral left right
    | .month => Ord.compare (month left) (month right)
    | .version => compareVersions left right
  if manner.reverse then order.swap else order

/-! ### Parts of lines -/

/-- A part of a line, from a character of a field through a character of a field. -/
structure Key where
  firstField : Nat
  firstCharacter : Nat
  /-- The last field, and the last character in it if it is not the whole field. -/
  last : Option (Nat × Nat)
  /-- The letters behind the numbers. -/
  letters : List Char
deriving Repr, DecidableEq

/-- Removes a field from the front. Without a separator a field is made of blanks and what follows
them. -/
def dropField (separator : Option Char) (line : List Char) : List Char :=
  match separator with
  | some separator => (line.dropWhile (· ≠ separator)).drop 1
  | none => (line.dropWhile isBlank).dropWhile (!isBlank ·)

/-- Removes so many fields from the front. -/
def dropFields (separator : Option Char) : Nat → List Char → List Char
  | 0, line => line
  | count + 1, line => dropFields separator count (dropField separator line)

/-- The part of a line that a key names. -/
def Key.part (key : Key) (separator : Option Char) (skipsBlanks : Bool) (line : String) : String :=
  let characters := line.toList
  let enter (fields offset : Nat) : List Char :=
    let field := dropFields separator fields characters
    (if skipsBlanks then field.dropWhile isBlank else field).drop offset
  let start := enter (key.firstField - 1) (key.firstCharacter - 1)
  let left :=
    match key.last with
    | none => 0
    | some (field, 0) =>
      let inside := dropFields separator (field - 1) characters
      match separator with
      | some separator => (inside.dropWhile (· ≠ separator)).length
      | none => (dropField none inside).length
    | some (field, character) => (enter (field - 1) character).length
  String.ofList (start.take (start.length - left))

/-! ### Reading -/

/-- Reads a number at the front. -/
def readCounted (characters : List Char) : Option (Nat × List Char) :=
  let digits := characters.takeWhile Char.isDigit
  (String.ofList digits).toNat?.map fun number => (number, characters.drop digits.length)

/-- Reads the position of a character behind a point, if there is one. -/
def readOffset (standard : Nat) (characters : List Char) : Option (Nat × List Char) :=
  match characters with
  | '.' :: rest => readCounted rest
  | _ => some (standard, characters)

/-- The letters that may stand in a key. -/
def keyLetters : List Char :=
  ['b', 'd', 'f', 'g', 'h', 'i', 'M', 'n', 'R', 'r', 'V']

/-- Reads a key. -/
def readKey (written : String) : Except String Key :=
  let specification := "invalid field specification '" ++ written ++ "'"
  let count (place rest : String) : String :=
    "invalid number " ++ place ++ ": invalid count at start of '" ++ rest ++ "'"
  let finish (first offset : Nat) (last : Option (Nat × Nat)) (letters rest : List Char) :
      Except String Key :=
    if rest.isEmpty then .ok ⟨first, offset, last, letters⟩
    else .error ("stray character in field spec: " ++ specification)
  match readCounted written.toList with
  | none => .error (count "at field start" written)
  | some (0, _) => .error ("field number is zero: " ++ specification)
  | some (first, rest) =>
    match readOffset 1 rest with
    | none => .error (count "after '.'" (String.ofList (rest.drop 1)))
    | some (0, _) => .error ("character offset is zero: " ++ specification)
    | some (offset, rest) =>
      let letters := rest.takeWhile keyLetters.contains
      match rest.drop letters.length with
      | ',' :: rest =>
        match readCounted rest with
        | none => .error (count "after ','" (String.ofList rest))
        | some (0, _) => .error ("field number is zero: " ++ specification)
        | some (last, rest) =>
          match readOffset 0 rest with
          | none => .error (count "after '.'" (String.ofList (rest.drop 1)))
          | some (lastOffset, rest) =>
            let more := rest.takeWhile keyLetters.contains
            finish first offset (some (last, lastOffset)) (letters ++ more)
              (rest.drop more.length)
      | rest => finish first offset none letters rest

/-- The order of two lines by keys; a key without letters goes by the manner of the whole. -/
def compareByKeys (manner : Manner) (keys : List Key) (separator : Option Char)
    (left right : String) : Ordering :=
  if keys.isEmpty then
    let trimmed (line : String) : String :=
      if manner.skipsBlanks then String.ofList (line.toList.dropWhile isBlank) else line
    manner.compare (trimmed left) (trimmed right)
  else
    keys.foldl (fun order key =>
      let own := if key.letters.isEmpty then manner else mannerOf key.letters.contains
      let part := key.part separator own.skipsBlanks
      order.then (own.compare (part left) (part right))) .eq

end RpcEndpoint.Program.Sort
