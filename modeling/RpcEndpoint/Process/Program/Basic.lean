import RpcEndpoint.Process.Task
import RpcEndpoint.Text.Cited

/-!
# Programs

What programs have in common: their streams, their complaints and the options of their calls.
-/

namespace RpcEndpoint.Program

/-! ## What programs have in common

Programs write their output through a store that is emptied in blocks, read their input piece by
piece, and complain under their names. -/

/-- More calls in a row than a program has reason for. -/
def patience : Nat := 10000000

/-- How many bytes are read at once. -/
def pieceSize : Nat := 8192

/-- How many bytes of output are stored before they are written. -/
def blockSize : Nat := 4096

/-! ### Output -/

/-- Writes a text to the errors. -/
def tell (text : String) (next : Task) : Task :=
  .write 2 (Octets.toBytes text) fun _ => next

/-- Complains under a name. -/
def complain (name complaint : String) (next : Task) : Task :=
  tell (name ++ ": " ++ complaint ++ "\n") next

/-- Complains and ends. -/
def fail (name complaint : String) (code : Nat) : Task :=
  complain name complaint (.exitWith code)

/-- Goes on if there is an output at all. -/
def withOutput (name : String) (next : Task) : Task :=
  .write 1 [] fun
    | .ok () => next
    | .error fault => fail name ("standard output: " ++ fault.message) 1

/-- What a program says that cannot write, and the code with which it then ends. -/
def writeLament (name : String) (fault : SystemFault) : List String × Nat :=
  let usual := "write error: " ++ fault.message
  match ((name.splitOn "/").getLastD "") with
  | "env" => ([usual], 125)
  | "expr" => ([usual], 3)
  | "egrep" | "fgrep" | "grep" | "ls" | "printenv" => ([usual], 2)
  | "sed" => (["couldn't flush stdout: " ++ fault.message], 4)
  | "sort" => (["fflush failed: 'standard output': " ++ fault.message, usual], 2)
  | "tee" => (["'standard output': " ++ fault.message], 1)
  | "yes" => (["standard output: " ++ fault.message], 1)
  | _ => ([usual], 1)

/-- Writes a text to the output at once. A program that cannot do so ends. -/
def put (name text : String) (next : Task) : Task :=
  if text.isEmpty then next
  else
    .write 1 (Octets.toBytes text) fun
      | .ok () => next
      | .error fault =>
        let (complaints, code) := writeLament name fault
        complaints.foldr (complain name) (.exitWith code)

/-- Writes a text and ends. -/
def putAndExit (name text : String) (code : Nat) : Task :=
  put name text (.exitWith code)

/-- Writes the whole blocks of a stored text, and goes on with what is left of it. -/
def putBlocks (name stored : String) (next : String → Task) : Task :=
  if stored.length < blockSize then next stored
  else
    let whole := stored.length / blockSize * blockSize
    put name (stored.take whole).toString (next (stored.drop whole).toString)

/-! ### Input -/

/-- Reads a file to its end. -/
def readAll (file : Nat) (next : Called String → Task) : Nat → String → Task
  | 0, sofar => next (.ok sofar)
  | fuel + 1, sofar =>
    .read file pieceSize fun
      | .error fault => next (.error fault)
      | .ok [] => next (.ok sofar)
      | .ok bytes => readAll file next fuel (sofar ++ Octets.ofBytes bytes)

/-- The number under which a program opens the files that it reads. -/
def operandFile : Nat := 3

/-- Opens the file of a name; a dash stands for the input. -/
def openOperand (base : Place) (operand : String) (next : Called Nat → Task) : Task :=
  if operand = "-" then next (.ok 0)
  else .openFile operandFile base operand .read fun opened => next (opened.map fun _ => operandFile)

/-! ### Complaints about calls -/

/-- A name as it stands in a complaint, in quotes if it has to be. -/
def quotedIfNeeded (name : String) : String :=
  Text.reusableIfNeeded name

/-- The advice behind a complaint about the way in which a program was called. -/
def advice (name : String) : String :=
  "\nTry '" ++ name ++ " --help' for more information."

/-- Complains about the way in which a program was called, and ends. -/
def failUse (name complaint : String) : Task :=
  fail name (complaint ++ advice name) 1

/-! ### Other programs -/

/-- Where programs are looked for when nothing is said. -/
def standardPath : String := "/bin:/usr/bin"

/-- Where the program of a name may be. -/
def candidates (name : String) (environment : List (String × String)) : List String :=
  if name.contains '/' then [name]
  else
    (((environment.lookup "PATH").getD standardPath).splitOn ":").map fun directory =>
      if directory.isEmpty then name else directory ++ "/" ++ name

/-- Goes on as the program of a name. -/
def becomeNamed (name : String) (arguments : List String) (surroundings : Surroundings)
    (otherwise : SystemFault → Task) : Task :=
  if name.isEmpty then otherwise .missing
  else .become (candidates name surroundings.environment) name arguments surroundings otherwise

/-! ## Options

A program is called with words. Those that begin with a dash hold letters or a long name; what is
left are the operands. A long name stands for a letter and may be cut short as long as it is clear
which letter is meant. -/

/-- The options that a program knows. -/
structure Options where
  /-- The letters that stand alone. -/
  plain : String
  /-- The letters that take an argument. -/
  taking : String := ""
  /-- The letters for long names that take an argument. They are not written. -/
  named : String := ""
  /-- The letters that may have an argument: right behind the letter, or behind a long name and an
  equals sign. -/
  mayTake : String := ""
  /-- The long names with their letters. -/
  long : List (String × Char) := []
  /-- Whether the first operand ends the options. -/
  stopsEarly : Bool := false
  /-- The code with which a wrong call ends. -/
  refusal : Nat := 1

/-- The options of a call, each with its argument, and the operands. -/
structure Call where
  options : List (Char × String)
  operands : List String
deriving Repr, DecidableEq

namespace Call

def has (option : Char) (call : Call) : Bool :=
  call.options.any fun given => given.1 = option

/-- The argument of an option that was given. The last one counts. -/
def argument? (option : Char) (call : Call) : Option String :=
  call.options.reverse.lookup option

/-- The arguments of an option that may be given several times. -/
def arguments (option : Char) (call : Call) : List String :=
  (call.options.filter fun given => given.1 = option).map Prod.snd

end Call

namespace Options

/-- Reads the letters of an option word. Some of them take what stands behind them. -/
def readLetters (options : Options) :
    List Char → List String → Except String (List (Char × String) × List String)
  | [], rest => .ok ([], rest)
  | letter :: more, rest =>
    if options.taking.contains letter then
      match more, rest with
      | [], argument :: others => .ok ([(letter, argument)], others)
      | [], [] => .error ("option requires an argument -- '" ++ letter.toString ++ "'")
      | _, _ => .ok ([(letter, String.ofList more)], rest)
    else if options.plain.contains letter && options.mayTake.contains letter then
      .ok ([(letter, String.ofList more)], rest)
    else if options.plain.contains letter then do
      let (given, left) ← options.readLetters more rest
      pure ((letter, "") :: given, left)
    else .error ("invalid option -- '" ++ letter.toString ++ "'")

/-- The long names that every program knows. -/
def general : List (String × Char) :=
  [("help", '?'), ("version", '!')]

/-- The letters that a long name may stand for, with the names that are meant. -/
def meant (options : Options) (name : String) : List (String × Char) :=
  let known := options.long ++ general
  match known.filter fun held => held.1 = name with
  | [] => known.filter fun held => held.1.startsWith name
  | exact => exact

/-- Reads a long name, which may have an argument behind an equals sign. -/
def readLong (options : Options) (word : String) (rest : List String) :
    Except String ((Char × String) × List String) :=
  let (name, value?) := match word.splitOn "=" with
    | name :: part :: parts => (name, some ("=".intercalate (part :: parts)))
    | _ => (word, none)
  match options.meant name with
  | [] => .error ("unrecognized option '--" ++ word ++ "'")
  | (full, letter) :: others =>
    if others.all fun other => other.2 = letter then
      let takes := options.taking.contains letter || options.named.contains letter
      match takes, value?, rest with
      | true, some value, _ => .ok ((letter, value), rest)
      | true, none, value :: left => .ok ((letter, value), left)
      | true, none, [] => .error ("option '--" ++ full ++ "' requires an argument")
      | false, none, _ => .ok ((letter, ""), rest)
      | false, some value, _ =>
        if options.mayTake.contains letter then .ok ((letter, value), rest)
        else .error ("option '--" ++ full ++ "' doesn't allow an argument")
    else
      let names := ((full, letter) :: others).map fun known => " '--" ++ known.1 ++ "'"
      .error ("option '--" ++ word ++ "' is ambiguous; possibilities:" ++ String.join names)

/-- Reads the words of a call, so many at the most. -/
def read (options : Options) : Nat → List String → Except String Call
  | 0, words => .ok ⟨[], words⟩
  | _, [] => .ok ⟨[], []⟩
  | fuel + 1, word :: rest =>
    if word = "--" then .ok ⟨[], rest⟩
    else if word.startsWith "--" then do
      let (given, left) ← options.readLong (word.drop 2).toString rest
      let call ← options.read fuel left
      pure ⟨given :: call.options, call.operands⟩
    else if word.startsWith "-" && word ≠ "-" then do
      let (given, left) ← options.readLetters (word.toList.drop 1) rest
      let call ← options.read fuel left
      pure ⟨given ++ call.options, call.operands⟩
    else if options.stopsEarly then .ok ⟨[], word :: rest⟩
    else do
      let call ← options.read fuel rest
      pure ⟨call.options, word :: call.operands⟩

end Options

/-- Goes on with the options of a call, or complains about the first wrong one. -/
def withCall (name : String) (options : Options) (arguments : List String)
    (next : Call → Task) : Task :=
  match options.read (arguments.length + 1) arguments with
  | .ok call =>
    if call.has '?' then
      putAndExit name ("Usage: " ++ name ++ " [OPTION]... [FILE]...\n") 0
    else if call.has '!' then putAndExit name (name ++ " (GNU coreutils) 9.1\n") 0
    else next call
  | .error complaint => fail name (complaint ++ advice name) options.refusal

/-- Goes on with the operands of a call that may have no options. -/
def withOperands (name : String) (arguments : List String) (next : List String → Task) : Task :=
  withCall name { plain := "" } arguments fun call => next call.operands

end RpcEndpoint.Program
