import RpcEndpoint.Digest
import RpcEndpoint.Process.Program.Filter
import RpcEndpoint.Process.Numeral

/-!
# Programs that write and check digests

A line is written for each file. Such lines can be read again to check the files.
-/

namespace RpcEndpoint.Program.Digests

/-- A digest with the name that it has in tagged lines. -/
structure Kind where
  title : String
  digest : Bytes → Bytes
  /-- How many bytes it has. -/
  size : Nat

def md5 : Kind := ⟨"MD5", Digest.Md5.digest, 16⟩

def sha1 : Kind := ⟨"SHA1", Digest.Sha1.digest, 20⟩

def sha224 : Kind := ⟨"SHA224", Digest.Sha2.digest224, 28⟩

def sha256 : Kind := ⟨"SHA256", Digest.Sha2.digest256, 32⟩

def sha384 : Kind := ⟨"SHA384", Digest.Sha2.digest384, 48⟩

def sha512 : Kind := ⟨"SHA512", Digest.Sha2.digest512, 64⟩

/-- The digest of a length in bytes. -/
def blake2b (size : Nat) : Kind :=
  ⟨if size = 64 then "BLAKE2b" else "BLAKE2b-" ++ toString (8 * size),
    Digest.Blake2b.digest size, size⟩

def Kind.hexadecimal (kind : Kind) (content : String) : String :=
  Digest.hexadecimal (kind.digest (Octets.toBytes content))

/-! ## Lines -/

/-- A name in which nothing breaks the line, and whether it had to be changed. -/
def escapedName (name : String) : String × Bool :=
  let escaped := ((name.replace "\\" "\\\\").replace "\n" "\\n").replace "\r" "\\r"
  (escaped, escaped ≠ name)

/-- A name as it was before it was changed. -/
def plainName : List Char → List Char
  | '\\' :: '\\' :: rest => '\\' :: plainName rest
  | '\\' :: 'n' :: rest => '\n' :: plainName rest
  | '\\' :: 'r' :: rest => '\r' :: plainName rest
  | character :: rest => character :: plainName rest
  | [] => []

/-- How lines are written. -/
structure Manner where
  /-- Whether the name of the digest is told. -/
  tagged : Bool
  binary : Bool
  ending : String

/-- The line for a file. -/
def Manner.line (manner : Manner) (kind : Kind) (file digits : String) : String :=
  let (name, isChanged) := if manner.ending = "\n" then escapedName file else (file, false)
  let mark := if isChanged then "\\" else ""
  let body :=
    if manner.tagged then kind.title ++ " (" ++ name ++ ") = " ++ digits
    else digits ++ (if manner.binary then " *" else "  ") ++ name
  mark ++ body ++ manner.ending

/-- Whether the character is a digit of a digest. -/
def isHexadecimal (character : Char) : Bool :=
  (Numeral.digitOf? 16 character).isSome

/-- Reads a line: the digits and the name of the file. -/
def readLine? (kind : Kind) (line : String) : Option (String × String) :=
  let (isChanged, characters) := match line.toList.dropWhile fun one => one = ' ' || one = '\t' with
    | '\\' :: rest => (true, rest)
    | rest => (false, rest)
  let named (name : List Char) : String :=
    String.ofList (if isChanged then plainName name else name)
  let bare := String.ofList characters
  let beginning := kind.title ++ " ("
  let digits := characters.takeWhile isHexadecimal
  if bare.startsWith beginning then
    match (bare.drop beginning.length).toString.splitOn ") = " with
    | [name, digits] =>
      if digits.length = 2 * kind.size && digits.toList.all isHexadecimal then
        some (digits, named name.toList)
      else none
    | _ => none
  else if digits.length ≠ 2 * kind.size then none
  else
    match characters.drop digits.length with
    | ' ' :: mark :: rest =>
      let name := if mark = ' ' || mark = '*' then rest else mark :: rest
      if name.isEmpty then none else some (String.ofList digits, named name)
    | _ => none

/-! ## Files -/

/-- Goes on with what the file of an operand holds. -/
def withContent (base : Place) (operand : String) (next : Called String → Task) : Task :=
  openOperand base operand fun
    | .error fault => next (.error fault)
    | .ok file => readAll file next patience ""

/-- Writes a line for each of some files. -/
def writeLines (name : String) (base : Place) (line : String → String → String) :
    List String → Nat → Task
  | [], code => .exitWith code
  | operand :: rest, code =>
    withContent base operand fun
      | .error fault =>
        complain name (plainLament (quotedIfNeeded operand) fault)
          (writeLines name base line rest 1)
      | .ok content => put name (line operand content) (writeLines name base line rest code)

/-! ## Checking -/

/-- What has been found while lines were checked. -/
structure Findings where
  wellFormed : Nat := 0
  illFormed : Nat := 0
  unreadable : Nat := 0
  different : Nat := 0
  equal : Nat := 0

/-- A number of things with the words for one of them and for more. -/
def warning (number : Nat) (one more : String) : List String :=
  if number = 0 then []
  else ["WARNING: " ++ toString number ++ " " ++ (if number = 1 then one else more)]

/-- What is said at the end. -/
def Findings.warnings (findings : Findings) : List String :=
  warning findings.illFormed "line is improperly formatted" "lines are improperly formatted"
    ++ warning findings.unreadable "listed file could not be read"
      "listed files could not be read"
    ++ warning findings.different "computed checksum did NOT match"
      "computed checksums did NOT match"

/-- Checks the files that lines name. -/
def checkLines (name : String) (base : Place) (call : Call) (kind : Kind)
    (next : Findings → Task) : List String → Findings → Task
  | [], findings => next findings
  | line :: rest, findings =>
    match readLine? kind line with
    | none =>
      if line.isEmpty || line.startsWith "#" then checkLines name base call kind next rest findings
      else
        checkLines name base call kind next rest
          { findings with illFormed := findings.illFormed + 1 }
    | some (digits, file) =>
      let found := { findings with wellFormed := findings.wellFormed + 1 }
      let tell (outcome : String) (next : Task) : Task :=
        if call.has 'S' then next else put name (file ++ ": " ++ outcome ++ "\n") next
      withContent base file fun
        | .error fault =>
          if call.has 'I' && fault = .missing then checkLines name base call kind next rest found
          else
            complain name (plainLament (quotedIfNeeded file) fault)
              (tell "FAILED open or read"
                (checkLines name base call kind next rest
                  { found with unreadable := found.unreadable + 1 }))
        | .ok content =>
          if kind.hexadecimal content = digits.map Char.toLower then
            let goOn := checkLines name base call kind next rest
              { found with equal := found.equal + 1 }
            if call.has 'Q' then goOn else tell "OK" goOn
          else
            tell "FAILED"
              (checkLines name base call kind next rest
                { found with different := found.different + 1 })

/-- Checks the files that the lines of some files name. -/
def checkFiles (name : String) (base : Place) (call : Call) (kind : Kind) :
    List String → Nat → Task
  | [], code => .exitWith code
  | operand :: rest, code =>
    let shown := if operand = "-" then "'standard input'" else quotedIfNeeded operand
    withContent base operand fun
      | .error fault =>
        complain name (plainLament shown fault) (checkFiles name base call kind rest 1)
      | .ok text =>
        checkLines name base call kind (fun findings =>
          if findings.wellFormed = 0 then
            complain name (shown ++ ": no properly formatted checksum lines found")
              (checkFiles name base call kind rest 1)
          else
            let isBad := 0 < findings.unreadable + findings.different
              || call.has 'X' && 0 < findings.illFormed
              || call.has 'I' && findings.equal + findings.different = 0
            let complaints := if call.has 'S' then [] else findings.warnings
            complaints.foldr (complain name)
              (checkFiles name base call kind rest (if isBad then 1 else code)))
          ((text.splitOn "\n").map fun line =>
            if line.endsWith "\r" then (line.dropEnd 1).toString else line) {}

/-! ## The programs -/

/-- The program for a digest. -/
def program (kind : Kind) : Program := fun name arguments surroundings =>
  withCall name {
    plain := "bctwz"
    taking := "l"
    long := [("binary", 'b'), ("check", 'c'), ("ignore-missing", 'I'), ("length", 'l'),
      ("quiet", 'Q'), ("status", 'S'), ("strict", 'X'), ("tag", 'T'), ("text", 't'), ("warn", 'w'),
      ("zero", 'z')] }
    arguments fun call =>
    let base := surroundings.directory
    let files := if call.operands.isEmpty then ["-"] else call.operands
    let kind := match (call.argument? 'l').bind String.toNat? with
      | some length => if kind.title = "BLAKE2b" && 0 < length then blake2b (length / 8) else kind
      | none => kind
    if call.has 'c' then checkFiles name base call kind files 0
    else
      let manner : Manner := ⟨call.has 'T', call.has 'b', if call.has 'z' then "\x00" else "\n"⟩
      writeLines name base (fun file content => manner.line kind file (kind.hexadecimal content))
        files 0

/-- The kinds of digests by the names that options give them. -/
def kinds : List (String × Kind) :=
  [("md5", md5), ("sha1", sha1), ("sha224", sha224), ("sha256", sha256), ("sha384", sha384),
    ("sha512", sha512), ("blake2b", blake2b 64)]

/-- The line of a checksum, with the name of the file if there is one in the call. -/
def checksumLine (call : Call) (sum : Nat → String → String) (file content : String) : String :=
  sum content.length content ++ (if call.operands.isEmpty then "" else " " ++ file) ++ "\n"

/-- The sum of a content and how many blocks of 1024 bytes there are. -/
def turningText (length : Nat) (content : String) : String :=
  let digits := toString (Digest.turningSum (Octets.toBytes content))
  let blocks := toString ((length + 1023) / 1024)
  String.ofList (List.replicate (5 - digits.length) '0') ++ digits ++ " "
    ++ String.ofList (List.replicate (5 - blocks.length) ' ') ++ blocks

/-- The sum of a content and how many blocks of 512 bytes there are. -/
def foldedText (length : Nat) (content : String) : String :=
  toString (Digest.foldedSum (Octets.toBytes content)) ++ " " ++ toString ((length + 511) / 512)

/-- The remainder of a content and its length. -/
def remainderText (length : Nat) (content : String) : String :=
  toString (Digest.remainder (Octets.toBytes content)) ++ " " ++ toString length

def cksum : Program := fun name arguments surroundings =>
  withCall name {
    plain := "cwz"
    taking := "al"
    long := [("algorithm", 'a'), ("check", 'c'), ("length", 'l'), ("tag", 'T'), ("untagged", 'U'),
      ("quiet", 'Q'), ("status", 'S'), ("strict", 'X'), ("warn", 'w'), ("zero", 'z')] }
    arguments fun call =>
    let base := surroundings.directory
    let files := if call.operands.isEmpty then ["-"] else call.operands
    let sums (sum : Nat → String → String) : Task :=
      writeLines name base (checksumLine call sum) files 0
    match (call.argument? 'a').getD "crc" with
    | "crc" => sums remainderText
    | "bsd" => sums turningText
    | "sysv" => sums foldedText
    | wanted =>
      match kinds.lookup wanted with
      | none => failUse name ("invalid argument '" ++ wanted ++ "' for '--algorithm'")
      | some kind =>
        if call.has 'c' then checkFiles name base call kind files 0
        else
          let manner : Manner := ⟨!call.has 'U', false, if call.has 'z' then "\x00" else "\n"⟩
          writeLines name base
            (fun file content => manner.line kind file (kind.hexadecimal content)) files 0

def sum : Program := fun name arguments surroundings =>
  withCall name { plain := "rs", long := [("sysv", 's')] } arguments fun call =>
    let isFolded := (call.options.getLast?.map Prod.fst) = some 's'
    writeLines name surroundings.directory
      (checksumLine call (if isFolded then foldedText else turningText))
      (if call.operands.isEmpty then ["-"] else call.operands) 0

end RpcEndpoint.Program.Digests
