import RpcEndpoint.Text.Bytes

/-!
# Digests

Short numbers and words that stand for a message: checksums, and digests that take the message block
by block.
-/

namespace RpcEndpoint.Digest

/-! ## Checksums

Short numbers that tell most accidents apart: the remainder of a division by a polynomial, and two
kinds of sums. -/

/-- The polynomial of degree 32, without its first term. -/
def polynomial : BitVec 32 := 0x04c11db7

/-- Divides on by one more bit, which is a zero. -/
def divideBit (remainder : BitVec 32) : BitVec 32 :=
  if remainder.msb then remainder <<< 1 ^^^ polynomial else remainder <<< 1

/-- Divides on by a byte. -/
def divideByte (remainder : BitVec 32) (byte : UInt8) : BitVec 32 :=
  Nat.repeat divideBit 8 (remainder ^^^ BitVec.ofNat 32 byte.toNat <<< 24)

/-- The bytes of a number, the lightest one first, without zeros at the end. -/
def lengthBytes : Nat → Nat → Bytes
  | 0, _ => []
  | fuel + 1, length =>
    if length = 0 then [] else length.toUInt8 :: lengthBytes fuel (length / 256)

/-- The complement of the remainder of a message with its length behind it. -/
def remainder (message : Bytes) : Nat :=
  (~~~(message ++ lengthBytes 8 message.length).foldl divideByte 0).toNat

/-- A sum of sixteen bits that is turned to the right before each byte. -/
def turningSum (message : Bytes) : Nat :=
  (message.foldl (fun (sum : BitVec 16) byte =>
    sum.rotateRight 1 + BitVec.ofNat 16 byte.toNat) 0).toNat

/-- The sum of all bytes, with what goes beyond sixteen bits added in the end. -/
def foldedSum (message : Bytes) : Nat :=
  let sum := message.foldl (fun sum byte => sum + byte.toNat) 0 % 0x100000000
  let once := sum % 0x10000 + sum / 0x10000
  once % 0x10000 + once / 0x10000

/-! ## Messages in blocks

Digests take a message block by block. So that it is made of whole blocks, a one bit, zeros and its
length are put behind it. -/

/-- The number that bytes spell. The first byte weighs most. -/
def numberOf (bytes : Bytes) : Nat :=
  bytes.foldl (fun number byte => number * 256 + byte.toNat) 0

/-- The last so many bytes of those that spell a number. -/
def bytesOf (count number : Nat) : Bytes :=
  ((List.range count).map fun place => (number >>> (8 * place)).toUInt8).reverse

/-- In which order the bytes of a word stand. -/
inductive ByteOrder where
  /-- The one that weighs most comes first. -/
  | descending
  | ascending
deriving Repr, DecidableEq

/-- The word that bytes spell in an order. -/
def wordOf (width : Nat) (order : ByteOrder) (bytes : Bytes) : BitVec width :=
  BitVec.ofNat width (numberOf (match order with
    | .descending => bytes
    | .ascending => bytes.reverse))

/-- The bytes that spell a word in an order. -/
def bytesOfWord {width : Nat} (order : ByteOrder) (word : BitVec width) : Bytes :=
  let bytes := bytesOf (width / 8) word.toNat
  match order with
  | .descending => bytes
  | .ascending => bytes.reverse

/-- The words of a block. -/
def wordsOf (width : Nat) (order : ByteOrder) (block : Bytes) : Array (BitVec width) :=
  ((pieces (width / 8) block).map (wordOf width order)).toArray

/-- The blocks of a message. A block is made of sixteen words, and the length takes two. -/
def blocksOf (width : Nat) (order : ByteOrder) (message : Bytes) : List Bytes :=
  let size := 2 * width
  let lengthSize := width / 4
  let zeros := (size - (message.length + 1 + lengthSize) % size) % size
  let length := bytesOf lengthSize (8 * message.length)
  let written := match order with
    | .descending => length
    | .ascending => length.reverse
  pieces size (message ++ 0x80 :: List.replicate zeros 0 ++ written)

/-- Bytes as hexadecimal digits. -/
def hexadecimal (bytes : Bytes) : String :=
  String.ofList (bytes.flatMap fun byte =>
    [Bytes.hexDigit (byte.toNat / 16), Bytes.hexDigit (byte.toNat % 16)])

end RpcEndpoint.Digest

namespace RpcEndpoint.Digest.Md5

/-! ## MD5

Sixty-four steps over four words for each block. Each step adds a word of the block and a word of a
table of sines. -/

abbrev Word := BitVec 32

/-- The whole part of `2 ^ 32 * |sin (n + 1)|` for each step `n`. -/
def sines : Array Word :=
  #[0xd76aa478, 0xe8c7b756, 0x242070db, 0xc1bdceee, 0xf57c0faf, 0x4787c62a, 0xa8304613,
    0xfd469501, 0x698098d8, 0x8b44f7af, 0xffff5bb1, 0x895cd7be, 0x6b901122, 0xfd987193,
    0xa679438e, 0x49b40821, 0xf61e2562, 0xc040b340, 0x265e5a51, 0xe9b6c7aa, 0xd62f105d,
    0x02441453, 0xd8a1e681, 0xe7d3fbc8, 0x21e1cde6, 0xc33707d6, 0xf4d50d87, 0x455a14ed,
    0xa9e3e905, 0xfcefa3f8, 0x676f02d9, 0x8d2a4c8a, 0xfffa3942, 0x8771f681, 0x6d9d6122,
    0xfde5380c, 0xa4beea44, 0x4bdecfa9, 0xf6bb4b60, 0xbebfbc70, 0x289b7ec6, 0xeaa127fa,
    0xd4ef3085, 0x04881d05, 0xd9d4d039, 0xe6db99e5, 0x1fa27cf8, 0xc4ac5665, 0xf4292244,
    0x432aff97, 0xab9423a7, 0xfc93a039, 0x655b59c3, 0x8f0ccc92, 0xffeff47d, 0x85845dd1,
    0x6fa87e4f, 0xfe2ce6e0, 0xa3014314, 0x4e0811a1, 0xf7537e82, 0xbd3af235, 0x2ad7d2bb,
    0xeb86d391]

/-- The rotations of each round, which are used in turn. -/
def rotations : Array Nat :=
  #[7, 12, 17, 22, 5, 9, 14, 20, 4, 11, 16, 23, 6, 10, 15, 21]

/-- What is kept from step to step. -/
structure State where
  a : Word
  b : Word
  c : Word
  d : Word

def State.start : State :=
  ⟨0x67452301, 0xefcdab89, 0x98badcfe, 0x10325476⟩

/-- One step. -/
def step (words : Array Word) (state : State) (number : Nat) : State :=
  let ⟨a, b, c, d⟩ := state
  let (mixed, place) :=
    match number / 16 with
    | 0 => (b &&& c ||| ~~~b &&& d, number)
    | 1 => (d &&& b ||| ~~~d &&& c, 5 * number + 1)
    | 2 => (b ^^^ c ^^^ d, 3 * number + 5)
    | _ => (c ^^^ (b ||| ~~~d), 7 * number)
  let sum := a + mixed + sines.getD number 0 + words.getD (place % 16) 0
  ⟨d, b + sum.rotateLeft (rotations.getD (number / 16 * 4 + number % 4) 0), b, c⟩

/-- Takes a block. -/
def compress (state : State) (block : Bytes) : State :=
  let stirred := (List.range 64).foldl (step (wordsOf 32 .ascending block)) state
  ⟨state.a + stirred.a, state.b + stirred.b, state.c + stirred.c, state.d + stirred.d⟩

/-- The digest of a message. -/
def digest (message : Bytes) : Bytes :=
  let ⟨a, b, c, d⟩ := (blocksOf 32 .ascending message).foldl compress .start
  [a, b, c, d].flatMap (bytesOfWord .ascending)

end RpcEndpoint.Digest.Md5

namespace RpcEndpoint.Digest.Sha1

/-! ## SHA-1

Eighty steps over five words for each block, whose sixteen words are drawn out to eighty. -/

abbrev Word := BitVec 32

/-- What is kept from step to step. -/
structure State where
  a : Word
  b : Word
  c : Word
  d : Word
  e : Word

def State.start : State :=
  ⟨0x67452301, 0xefcdab89, 0x98badcfe, 0x10325476, 0xc3d2e1f0⟩

/-- Puts the next word behind those of a block. -/
def extend (words : Array Word) : Array Word :=
  let back (distance : Nat) : Word := words.getD (words.size - distance) 0
  words.push ((back 3 ^^^ back 8 ^^^ back 14 ^^^ back 16).rotateLeft 1)

/-- One step. -/
def step (words : Array Word) (state : State) (number : Nat) : State :=
  let ⟨a, b, c, d, e⟩ := state
  let (mixed, constant) : Word × Word :=
    match number / 20 with
    | 0 => (b &&& c ||| ~~~b &&& d, 0x5a827999)
    | 1 => (b ^^^ c ^^^ d, 0x6ed9eba1)
    | 2 => (b &&& c ||| b &&& d ||| c &&& d, 0x8f1bbcdc)
    | _ => (b ^^^ c ^^^ d, 0xca62c1d6)
  ⟨a.rotateLeft 5 + mixed + e + constant + words.getD number 0, a, b.rotateLeft 30, c, d⟩

/-- Takes a block. -/
def compress (state : State) (block : Bytes) : State :=
  let words := Nat.repeat extend 64 (wordsOf 32 .descending block)
  let stirred := (List.range 80).foldl (step words) state
  ⟨state.a + stirred.a, state.b + stirred.b, state.c + stirred.c, state.d + stirred.d,
    state.e + stirred.e⟩

/-- The digest of a message. -/
def digest (message : Bytes) : Bytes :=
  let ⟨a, b, c, d, e⟩ := (blocksOf 32 .descending message).foldl compress .start
  [a, b, c, d, e].flatMap (bytesOfWord .descending)

end RpcEndpoint.Digest.Sha1

namespace RpcEndpoint.Digest.Sha2

/-! ## SHA-2

A family of digests over words of 32 or of 64 bits. Their constants are the first bits behind the
points of roots of primes, so that nobody can have chosen them. -/

/-! ### Roots of primes -/

/-- The first so many primes from a number on. -/
def primesFrom : Nat → Nat → Nat → List Nat
  | 0, _, _ | _, 0, _ => []
  | fuel + 1, count + 1, number =>
    if (List.range number).all fun divisor => divisor < 2 || number % divisor ≠ 0 then
      number :: primesFrom fuel count (number + 1)
    else primesFrom fuel (count + 1) (number + 1)

/-- The first eighty primes. -/
def primes : List Nat :=
  primesFrom 500 80 2

/-- The greatest number below a power of two whose power is not above a number. -/
def root (degree number : Nat) : Nat → Nat → Nat
  | 0, found => found
  | bit + 1, found =>
    let tried := found + Nat.pow 2 bit
    root degree number bit (if Nat.pow tried degree ≤ number then tried else found)

/-- So many bits behind the point of a root of a number. -/
def rootBits (width degree number : Nat) : BitVec width :=
  BitVec.ofNat width (root degree (number * Nat.pow 2 (width * degree)) (width + 5) 0)

/-! ### The family -/

/-- A member of the family. -/
structure Family where
  width : Nat
  steps : Nat
  /-- The rotations of the first and of the fifth word of the state. -/
  bigFirst : Nat × Nat × Nat
  bigFifth : Nat × Nat × Nat
  /-- Two rotations and a shift for words that are drawn out. -/
  smallNear : Nat × Nat × Nat
  smallFar : Nat × Nat × Nat

/-- The member with narrow words. -/
def narrow : Family :=
  ⟨32, 64, (2, 13, 22), (6, 11, 25), (7, 18, 3), (17, 19, 10)⟩

/-- The member with wide words. -/
def wide : Family :=
  ⟨64, 80, (28, 34, 39), (14, 18, 41), (1, 8, 7), (19, 61, 6)⟩

/-- The constants of the steps. -/
def Family.constants (family : Family) : Array (BitVec family.width) :=
  ((primes.take family.steps).map (rootBits family.width 3)).toArray

def narrowConstants : Array (BitVec 32) := narrow.constants

def wideConstants : Array (BitVec 64) := wide.constants

section Steps

variable {width : Nat}

/-- A word turned in three ways at once. -/
def turned (amounts : Nat × Nat × Nat) (word : BitVec width) : BitVec width :=
  word.rotateRight amounts.1 ^^^ word.rotateRight amounts.2.1 ^^^ word.rotateRight amounts.2.2

/-- A word turned in two ways and shifted at once. -/
def drawn (amounts : Nat × Nat × Nat) (word : BitVec width) : BitVec width :=
  word.rotateRight amounts.1 ^^^ word.rotateRight amounts.2.1 ^^^ word >>> amounts.2.2

/-- What is kept from step to step. -/
structure State (width : Nat) where
  a : BitVec width
  b : BitVec width
  c : BitVec width
  d : BitVec width
  e : BitVec width
  f : BitVec width
  g : BitVec width
  h : BitVec width

/-- The state of eight words. -/
def State.ofList (words : List (BitVec width)) : State width :=
  let word (place : Nat) : BitVec width := words.getD place 0
  ⟨word 0, word 1, word 2, word 3, word 4, word 5, word 6, word 7⟩

def State.toList (state : State width) : List (BitVec width) :=
  [state.a, state.b, state.c, state.d, state.e, state.f, state.g, state.h]

end Steps

/-- Puts the next word behind those of a block. -/
def extend (family : Family) (words : Array (BitVec family.width)) :
    Array (BitVec family.width) :=
  let back (distance : Nat) : BitVec family.width := words.getD (words.size - distance) 0
  words.push (back 16 + drawn family.smallNear (back 15) + back 7
    + drawn family.smallFar (back 2))

/-- One step. -/
def step (family : Family) (constants words : Array (BitVec family.width))
    (state : State family.width) (number : Nat) : State family.width :=
  let ⟨a, b, c, d, e, f, g, h⟩ := state
  let choice := e &&& f ^^^ ~~~e &&& g
  let majority := a &&& b ^^^ a &&& c ^^^ b &&& c
  let first := h + turned family.bigFifth e + choice + constants.getD number 0
    + words.getD number 0
  ⟨first + turned family.bigFirst a + majority, a, b, c, d + first, e, f, g⟩

/-- Takes a block. -/
def compress (family : Family) (constants : Array (BitVec family.width))
    (state : State family.width) (block : Bytes) : State family.width :=
  let words := Nat.repeat (extend family) (family.steps - 16)
    (wordsOf family.width .descending block)
  let stirred := (List.range family.steps).foldl (step family constants words) state
  .ofList (List.zipWith (· + ·) state.toList stirred.toList)

/-- So many bytes of the digest of a message that begins with a state. -/
def digestFrom (family : Family) (constants : Array (BitVec family.width))
    (start : State family.width) (size : Nat) (message : Bytes) : Bytes :=
  let state := (blocksOf family.width .descending message).foldl (compress family constants) start
  (state.toList.flatMap (bytesOfWord .descending)).take size

/-! ### The digests -/

/-- The state that the square roots of eight primes make. -/
def squareRoots (width : Nat) (primes : List Nat) : State width :=
  .ofList (primes.map (rootBits width 2))

def digest256 : Bytes → Bytes :=
  digestFrom narrow narrowConstants (squareRoots 32 (primes.take 8)) 32

def digest512 : Bytes → Bytes :=
  digestFrom wide wideConstants (squareRoots 64 (primes.take 8)) 64

/-- The second eight primes. -/
def laterPrimes : List Nat :=
  (primes.drop 8).take 8

def digest384 : Bytes → Bytes :=
  digestFrom wide wideConstants (squareRoots 64 laterPrimes) 48

/-- Begins with the lower halves of the words that the longest digest but one begins with. -/
def digest224 : Bytes → Bytes :=
  digestFrom narrow narrowConstants
    (.ofList ((squareRoots 64 laterPrimes).toList.map (BitVec.truncate 32))) 28

end RpcEndpoint.Digest.Sha2

namespace RpcEndpoint.Digest.Blake2b

/-! ## BLAKE2b

Twelve rounds over sixteen words for each block. The words of the block come in an order of their
own in each round. -/

abbrev Word := BitVec 64

/-- The words of the beginning: the square roots of the first eight primes. -/
def beginning : Array Word :=
  (Sha2.squareRoots 64 (Sha2.primes.take 8)).toList.toArray

/-- The order of the words of a block in each of ten rounds. -/
def orders : Array (Array Nat) :=
  #[#[0, 1, 2, 3, 4, 5, 6, 7, 8, 9, 10, 11, 12, 13, 14, 15],
    #[14, 10, 4, 8, 9, 15, 13, 6, 1, 12, 0, 2, 11, 7, 5, 3],
    #[11, 8, 12, 0, 5, 2, 15, 13, 10, 14, 3, 6, 7, 1, 9, 4],
    #[7, 9, 3, 1, 13, 12, 11, 14, 2, 6, 5, 10, 4, 0, 15, 8],
    #[9, 0, 5, 7, 2, 4, 10, 15, 14, 1, 11, 12, 6, 8, 3, 13],
    #[2, 12, 6, 10, 0, 11, 8, 3, 4, 13, 7, 5, 15, 14, 1, 9],
    #[12, 5, 1, 15, 14, 13, 4, 10, 0, 7, 6, 3, 9, 2, 8, 11],
    #[13, 11, 7, 14, 12, 1, 3, 9, 5, 0, 15, 4, 8, 6, 2, 10],
    #[6, 15, 14, 9, 11, 3, 0, 8, 12, 2, 13, 7, 1, 4, 10, 5],
    #[10, 2, 8, 4, 7, 6, 1, 5, 15, 11, 9, 14, 3, 12, 13, 0]]

/-- The places of the four words that each step of a round mixes. -/
def quarters : List (Nat × Nat × Nat × Nat) :=
  [(0, 4, 8, 12), (1, 5, 9, 13), (2, 6, 10, 14), (3, 7, 11, 15),
    (0, 5, 10, 15), (1, 6, 11, 12), (2, 7, 8, 13), (3, 4, 9, 14)]

/-- Mixes four words with two of the block. -/
def mix (state : Array Word) (places : Nat × Nat × Nat × Nat) (x y : Word) : Array Word :=
  let (i, j, k, l) := places
  let a := state.getD i 0 + state.getD j 0 + x
  let d := (state.getD l 0 ^^^ a).rotateRight 32
  let c := state.getD k 0 + d
  let b := (state.getD j 0 ^^^ c).rotateRight 24
  let a := a + b + y
  let d := (d ^^^ a).rotateRight 16
  let c := c + d
  let b := (b ^^^ c).rotateRight 63
  (((state.setIfInBounds i a).setIfInBounds j b).setIfInBounds k c).setIfInBounds l d

/-- One round. -/
def round (words : Array Word) (state : Array Word) (number : Nat) : Array Word :=
  let order := orders.getD (number % 10) #[]
  let word (place : Nat) : Word := words.getD (order.getD place 0) 0
  quarters.zipIdx.foldl (fun state (places, step) =>
    mix state places (word (2 * step)) (word (2 * step + 1))) state

/-- Takes a block. The number counts the bytes up to its end. -/
def compress (chain : Array Word) (block : Bytes) (count : Nat) (isLast : Bool) : Array Word :=
  let words := wordsOf 64 .ascending (block ++ List.replicate (128 - block.length) 0)
  let beginning := (beginning.modify 4 (· ^^^ BitVec.ofNat 64 count)).modify 6 fun word =>
    if isLast then ~~~word else word
  let stirred := (List.range 12).foldl (round words) (chain ++ beginning)
  Array.ofFn fun (place : Fin 8) =>
    chain.getD place 0 ^^^ stirred.getD place 0 ^^^ stirred.getD (place + 8) 0

/-- Takes the blocks of a message behind so many bytes. -/
def compressAll (chain : Array Word) (count : Nat) : List Bytes → Array Word
  | [] => compress chain [] count true
  | [last] => compress chain last (count + last.length) true
  | block :: rest => compressAll (compress chain block (count + 128) false) (count + 128) rest

/-- The digest of a message in so many bytes, at most 64. -/
def digest (size : Nat) (message : Bytes) : Bytes :=
  let start := beginning.modify 0 (· ^^^ BitVec.ofNat 64 (0x01010000 + size))
  ((compressAll start 0 (pieces 128 message)).toList.flatMap (bytesOfWord .ascending)).take size

end RpcEndpoint.Digest.Blake2b
