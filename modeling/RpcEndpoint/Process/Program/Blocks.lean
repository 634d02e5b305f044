import RpcEndpoint.Process.Program.Filter
import RpcEndpoint.Process.Numeral

/-!
# Copying in blocks

The input is read in blocks of one size, changed, and written in blocks of another size. What has
been copied is counted in whole blocks and others.
-/

namespace RpcEndpoint.Program.Blocks

/-! ## What is asked for -/

/-- What is done with the bytes on the way. -/
inductive Change where
  | lower
  | upper
  /-- Every two bytes change their places. -/
  | swap
  /-- Blocks that are not whole are filled up with zero bytes. -/
  | fill
  /-- The input goes on behind an error. -/
  | goOn
  /-- What is in the output file stays there. -/
  | keep
  /-- Means nothing for what is copied. -/
  | nothing
deriving Repr, DecidableEq

/-- The changes by their names. -/
def changes : List (String × Change) :=
  [("lcase", .lower), ("ucase", .upper), ("swab", .swap), ("sync", .fill), ("noerror", .goOn),
    ("notrunc", .keep), ("fdatasync", .nothing), ("fsync", .nothing), ("sparse", .nothing),
    ("excl", .nothing), ("nocreat", .nothing), ("block", .nothing), ("unblock", .nothing),
    ("ascii", .nothing), ("ebcdic", .nothing), ("ibm", .nothing)]

/-- How much is told at the end. -/
inductive Report where
  | all
  | records
  | none
deriving Repr, DecidableEq

/-- A number of blocks, or of bytes. -/
structure Amount where
  number : Nat
  inBytes : Bool
deriving Repr, DecidableEq

/-- What is asked for. -/
structure Request where
  input : Option String := none
  output : Option String := none
  inputSize : Option Nat := none
  outputSize : Option Nat := none
  /-- The size of both kinds of blocks. With it, a block is written as it has been read. -/
  bothSizes : Option Nat := none
  count : Option Amount := none
  skip : Amount := ⟨0, false⟩
  seek : Amount := ⟨0, false⟩
  changes : List Change := []
  report : Report := .all
  /-- The ways in which the input is read and the output is written. -/
  inputFlags : List String := []
  outputFlags : List String := []

namespace Request

def readSize (request : Request) : Nat :=
  request.bothSizes.getD (request.inputSize.getD 512)

def writeSize (request : Request) : Nat :=
  request.bothSizes.getD (request.outputSize.getD 512)

/-- Whether the blocks of the output are made up of those of the input. -/
def gathers (request : Request) : Bool :=
  request.bothSizes.isNone || request.changes.any fun change =>
    change = .lower || change = .upper || change = .swap

/-- Whether a block is read until it is whole. -/
def fills (request : Request) : Bool :=
  request.inputFlags.contains "fullblock"

/-- How many blocks are read at the most, and how many bytes behind them. -/
def portion (request : Request) : Nat × Nat :=
  match request.count with
  | none => (patience, 0)
  | some count =>
    if count.inBytes || request.inputFlags.contains "count_bytes" then
      (count.number / request.readSize, count.number % request.readSize)
    else (count.number, 0)

/-- How many bytes of the input are passed by. -/
def skipped (request : Request) : Nat :=
  if request.skip.inBytes || request.inputFlags.contains "skip_bytes" then request.skip.number
  else request.skip.number * request.readSize

/-- How many bytes of the output are passed by. -/
def passed (request : Request) : Nat :=
  if request.seek.inBytes || request.outputFlags.contains "seek_bytes" then request.seek.number
  else request.seek.number * request.writeSize

end Request

/-! ## Reading the operands -/

/-- The units of numbers. -/
def units : String := "bcEGkKMPQRTwYZ"

/-- Reads a number that may be a product; with `B` at its end it is one of bytes. -/
def readAmount? : Nat → String → Option Amount
  | 0, _ => none
  | fuel + 1, written =>
    match Quantity.parse? units false written with
    | none => none
    | some ⟨amount, rest⟩ =>
      match rest with
      | [] => some ⟨amount, false⟩
      | ['B'] => some ⟨amount, true⟩
      | 'x' :: others =>
        (readAmount? fuel (String.ofList others)).map fun more =>
          ⟨amount * more.number, more.inBytes⟩
      | _ => none

def amount? (written : String) : Option Amount :=
  readAmount? (written.length + 1) written

/-- What is wrong with an operand, and whether advice is given. -/
structure Refusal where
  complaint : String
  isAdvised : Bool

/-- The greatest amount. -/
def greatest : Nat := 0x7FFFFFFFFFFFFFFF

/-- Reads an amount that may not be too small. -/
def readAmount (least : Nat) (written : String) : Except Refusal Amount :=
  let lament := "invalid number: '" ++ written ++ "'"
  match amount? written with
  | none => .error ⟨lament, false⟩
  | some amount =>
    if greatest < amount.number then
      .error ⟨lament ++ ": Value too large for defined data type", false⟩
    else if amount.number < least then .error ⟨lament, false⟩
    else .ok amount

/-- Reads names between commas with a table. -/
def readNames {α : Type} (complaint : String) (known : List (String × α)) (written : String) :
    Except Refusal (List α) :=
  (written.splitOn ",").mapM fun name =>
    match known.lookup name with
    | some meant => .ok meant
    | none => .error ⟨complaint ++ ": '" ++ name ++ "'", true⟩

/-- The names of ways in which files are opened and read. -/
def flags : List (String × String) :=
  ["append", "binary", "cio", "count_bytes", "direct", "directory", "dsync", "fullblock",
    "nocache", "noatime", "noctty", "nofollow", "nonblock", "seek_bytes", "skip_bytes", "sync",
    "text"].map fun name => (name, name)

/-- Takes one operand into a request. -/
def take (request : Request) (operand : String) : Except Refusal Request := do
  let unknown : Refusal := ⟨"unrecognized operand '" ++ operand ++ "'", true⟩
  match operand.splitOn "=" with
  | key :: first :: more =>
    let value := "=".intercalate (first :: more)
    match key with
    | "if" => pure { request with input := some value }
    | "of" => pure { request with output := some value }
    | "ibs" => pure { request with inputSize := some (← readAmount 1 value).number }
    | "obs" => pure { request with outputSize := some (← readAmount 1 value).number }
    | "bs" => pure { request with bothSizes := some (← readAmount 1 value).number }
    | "cbs" => do
      let _ ← readAmount 1 value
      pure request
    | "skip" | "iseek" => pure { request with skip := ← readAmount 0 value }
    | "seek" | "oseek" => pure { request with seek := ← readAmount 0 value }
    | "count" => pure { request with count := some (← readAmount 0 value) }
    | "conv" => do
      let changes ← readNames "invalid conversion" changes value
      pure { request with changes := request.changes ++ changes }
    | "status" =>
      match value with
      | "none" => pure { request with report := .none }
      | "noxfer" => pure { request with report := .records }
      | "progress" => pure { request with report := .all }
      | _ => .error ⟨"invalid status level: '" ++ value ++ "'", true⟩
    | "iflag" => do
      let names ← readNames "invalid input flag" flags value
      pure { request with inputFlags := request.inputFlags ++ names }
    | "oflag" => do
      let names ← readNames "invalid output flag" flags value
      pure { request with outputFlags := request.outputFlags ++ names }
    | _ => .error unknown
  | _ => .error unknown

/-! ## Copying -/

/-- What has been copied. -/
structure Tally where
  wholeRead : Nat := 0
  partRead : Nat := 0
  wholeWritten : Nat := 0
  partWritten : Nat := 0
  bytes : Nat := 0
  /-- What waits until there is enough for a block. -/
  held : String := ""
  /-- The byte that waits for another one to change places with. -/
  odd : Option Char := none

/-- What is told at the end. -/
def Tally.report (report : Report) (tally : Tally) : String :=
  let line (whole partly : Nat) (what : String) : String :=
    toString whole ++ "+" ++ toString partly ++ " records " ++ what ++ "\n"
  let records := line tally.wholeRead tally.partRead "in"
    ++ line tally.wholeWritten tally.partWritten "out"
  match report with
  | .none => ""
  | .records => records
  | .all =>
    records ++ toString tally.bytes ++ (if tally.bytes = 1 then " byte copied" else " bytes copied")
      ++ "\n"

/-- Makes every two characters change their places. -/
def swapped : List Char → List Char
  | first :: second :: rest => second :: first :: swapped rest
  | rest => rest

/-- Changes what has been read, together with what has been left from before. -/
def changed (request : Request) (odd : Option Char) (piece : String) : String × Option Char :=
  let recased :=
    if request.changes.contains .lower then piece.map Char.toLower
    else if request.changes.contains .upper then piece.map Char.toUpper
    else piece
  if !request.changes.contains .swap then (recased, none)
  else
    let all := odd.toList ++ recased.toList
    if all.length % 2 = 0 then (String.ofList (swapped all), none)
    else (String.ofList (swapped all.dropLast), all.getLast?)

/-- Writes one block. -/
def writeBlock (name : String) (request : Request) (block : String) (tally : Tally)
    (next : Tally → Task) : Task :=
  .write 1 (Octets.toBytes block) fun
    | .error fault =>
      tell (name ++ ": error writing '" ++ request.output.getD "standard output" ++ "': "
        ++ fault.message ++ "\n" ++ tally.report request.report) (.exitWith 1)
    | .ok () =>
      let isWhole := block.length = request.writeSize
      next { tally with
        wholeWritten := tally.wholeWritten + if isWhole then 1 else 0
        partWritten := tally.partWritten + if isWhole then 0 else 1
        bytes := tally.bytes + block.length }

/-- Writes the whole blocks of what is held. -/
def writeHeld (name : String) (request : Request) (next : Tally → Task) : Nat → Tally → Task
  | 0, tally => next tally
  | fuel + 1, tally =>
    let size := request.writeSize
    if tally.held.length < size then next tally
    else
      writeBlock name request (tally.held.take size).toString
        { tally with held := (tally.held.drop size).toString }
        (writeHeld name request next fuel)

/-- Writes what is left at the end, and tells what has been copied. -/
def finish (name : String) (request : Request) (code : Nat) (tally : Tally) : Task :=
  let rest := tally.held ++ (tally.odd.map Char.toString).getD ""
  let done (tally : Tally) : Task := tell (tally.report request.report) (.exitWith code)
  if rest.isEmpty then done tally else writeBlock name request rest { tally with held := "" } done

/-- Reads so many bytes, if wanted in several steps, and goes on with them. -/
def readBlock (fills : Bool) (next : Called String → Task) : Nat → Nat → String → Task
  | 0, _, sofar => next (.ok sofar)
  | fuel + 1, size, sofar =>
    .read 0 size fun
      | .error fault => next (.error fault)
      | .ok bytes =>
        let piece := sofar ++ Octets.ofBytes bytes
        if !fills || bytes.isEmpty || size ≤ bytes.length then next (.ok piece)
        else readBlock fills next fuel (size - bytes.length) piece

/-- Copies the input until it ends, or so many blocks and then so many bytes have been read. -/
def copyBlocks (name : String) (request : Request) : Nat → Nat → Nat → Tally → Task
  | 0, _, _, tally => finish name request 0 tally
  | fuel + 1, blocks, bytes, tally =>
    let size := if 0 < blocks then request.readSize else bytes
    if size = 0 then finish name request 0 tally
    else
      readBlock request.fills (fun
        | .error fault =>
          complain name ("error reading '" ++ request.input.getD "standard input" ++ "': "
            ++ fault.message) (finish name request 1 tally)
        | .ok piece =>
          if piece.isEmpty then finish name request 0 tally
          else
            let isWhole := piece.length = request.readSize
            let filled :=
              if request.changes.contains .fill && !isWhole then
                piece ++ String.ofList (List.replicate (request.readSize - piece.length) '\x00')
              else piece
            let (text, odd) := changed request tally.odd filled
            let tally := { tally with
              wholeRead := tally.wholeRead + if isWhole then 1 else 0
              partRead := tally.partRead + if isWhole then 0 else 1
              odd }
            let goOn (tally : Tally) : Task :=
              copyBlocks name request fuel (blocks - 1) (if 0 < blocks then bytes else 0) tally
            if request.gathers then
              writeHeld name request goOn (text.length / request.writeSize + 2)
                { tally with held := tally.held ++ text }
            else writeBlock name request text tally goOn) patience size ""

/-- Passes by so many bytes of the input. -/
def passBy (size : Nat) (next : Bool → Task) : Nat → Nat → Task
  | 0, _ => next true
  | fuel + 1, left =>
    if left = 0 then next true
    else
      .read 0 (min size left) fun
        | .ok [] | .error _ => next false
        | .ok bytes => passBy size next fuel (left - bytes.length)

/-- Copies what has been asked for. -/
def run (name : String) (request : Request) : Task :=
  let (blocks, bytes) := request.portion
  let work := copyBlocks name request patience blocks bytes {}
  passBy request.readSize (fun isThere =>
    if isThere then work
    else
      complain name ("'" ++ request.input.getD "standard input"
        ++ "': cannot skip to specified offset") work) patience request.skipped

/-! ## Opening -/

/-- Opens the file of a path under a number. -/
def opening (name : String) (file : Nat) (access : Access) (base : Place) (path : String)
    (next : Task) : Task :=
  .openFile file base path access fun
    | .ok () => next
    | .error fault => fail name ("failed to open '" ++ path ++ "': " ++ fault.message) 1

/-- Opens the output and goes to where writing begins. Where there is nothing before that, there
are zeros. -/
def openOutput (name : String) (base : Place) (request : Request) (next : Task) : Task :=
  let start := request.passed
  let keeps := request.changes.contains .keep
  match request.output with
  | none =>
    if start = 0 then next
    else
      complain name "'standard output': cannot seek: Illegal seek" (finish name request 1 {})
  | some path =>
    if request.outputFlags.contains "append" then opening name 1 .append base path next
    else if start = 0 then opening name 1 (if keeps then .readWrite else .write) base path next
    else
      opening name 1 .readWrite base path <|
        .read 1 start fun before =>
          let held := before.toOption.getD []
          let gap := List.replicate (start - held.length) 0
          if keeps then .write 1 gap fun _ => next
          else opening name 1 .write base path (.write 1 (held ++ gap) fun _ => next)

def program : Program := fun name arguments surroundings =>
  match arguments.foldlM take {} with
  | .error ⟨complaint, true⟩ => failUse name complaint
  | .error ⟨complaint, false⟩ => fail name complaint 1
  | .ok request =>
    let base := surroundings.directory
    let work := openOutput name base request (run name request)
    match request.input with
    | some path => opening name 0 .read base path work
    | none => work

end RpcEndpoint.Program.Blocks
