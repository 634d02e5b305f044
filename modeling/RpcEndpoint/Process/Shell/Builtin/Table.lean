import RpcEndpoint.Process.Shell.Builtin.Control
import RpcEndpoint.Process.Shell.Builtin.Output
import RpcEndpoint.Process.Shell.Builtin.Signals

/-!
# The table of commands of the shell itself
-/

namespace RpcEndpoint.Shell.Builtin

/-! ## Rights and limits -/

/-- The rights of new files: three groups of three, from the first to the last. -/
abbrev Rights := List Bool

/-- The rights that a mask leaves. -/
def rightsOf (mask : Nat) : Rights :=
  (List.range 9).map fun place => !mask.testBit (8 - place)

/-- The mask that leaves some rights. -/
def maskOf (rights : Rights) : Nat :=
  rights.foldl (fun sum right => sum * 2 + if right then 0 else 1) 0

/-- The letters of the groups with their numbers. -/
def groupLetters : List (Char × Nat) := [('u', 0), ('g', 1), ('o', 2)]

/-- The letters of the rights with their places in a group. -/
def rightLetters : List (Char × Nat) := [('r', 0), ('w', 1), ('x', 2)]

/-- Rights as they are written with letters. -/
def describeRights (rights : Rights) : String :=
  ",".intercalate (groupLetters.map fun (letter, group) =>
    String.ofList (letter :: '=' :: (rightLetters.filter fun right =>
      rights.getD (group * 3 + right.2) false).map Prod.fst))

/-- Changes rights as one clause of letters says. -/
def changeRights? (rights : Rights) (clause : String) : Option Rights :=
  let isGroup (letter : Char) : Bool := letter = 'a' || (groupLetters.lookup letter).isSome
  let groups := clause.toList.takeWhile isGroup
  let includes (group : Nat) : Bool :=
    groups.isEmpty || groups.contains 'a' ||
      groups.any fun letter => groupLetters.lookup letter = some group
  match clause.toList.drop groups.length with
  | operator :: letters =>
    let named (place : Nat) : Bool :=
      letters.any fun letter => rightLetters.lookup letter = some (place % 3)
    if !(['=', '+', '-'].contains operator) || !(letters.all fun letter =>
      (rightLetters.lookup letter).isSome) then none
    else
      some (rights.zipIdx.map fun (right, place) =>
        if !includes (place / 3) then right
        else if operator = '=' then named place
        else if operator = '+' then right || named place
        else right && !named place)
  | [] => none

/-- A mask as it is written: four octal digits. -/
def maskText (mask : Nat) : String :=
  let digits := String.ofList (Nat.toDigits 8 mask)
  String.ofList (List.replicate (4 - digits.length) '0') ++ digits

def umask (given : Given) : Builtin := fun run arguments session next =>
  match arguments with
  | [] =>
    put ((if given.has 'S' then describeRights (rightsOf session.mask)
      else maskText session.mask) ++ "\n") session next 0
  | word :: _ =>
    if word.toList.head?.any Char.isDigit then
      if word.toList.all Numeral.isOctal then
        let mask := (Numeral.readDigits 8 word.length 0 word.toList).1 % 512
        next { session with mask, status := 0 }
      else fail run ("Illegal number: " ++ word) session next
    else
      match (word.splitOn ",").foldlM changeRights? (rightsOf session.mask) with
      | some rights => next { session with mask := maskOf rights, status := 0 }
      | none => fail run ("Illegal mode: " ++ word) session next

/-- A limit as the shell knows it: its title, its letter, and the unit that it is counted in. -/
structure Gauge where
  title : String
  letter : Char
  resource : Resource
  unit : Nat

/-- The limits that the shell knows. -/
def gauges : List Gauge :=
  [⟨"time(seconds)", 't', .time, 1⟩, ⟨"file(blocks)", 'f', .fileSize, 512⟩,
    ⟨"data(kbytes)", 'd', .data, 1024⟩, ⟨"stack(kbytes)", 's', .stack, 1024⟩,
    ⟨"coredump(blocks)", 'c', .dump, 512⟩, ⟨"memory(kbytes)", 'm', .memory, 1024⟩,
    ⟨"locked memory(kbytes)", 'l', .lockedMemory, 1024⟩, ⟨"process", 'p', .processes, 1⟩,
    ⟨"nofiles", 'n', .openFiles, 1⟩, ⟨"vmemory(kbytes)", 'v', .addresses, 1024⟩,
    ⟨"locks", 'w', .locks, 1⟩, ⟨"rtprio", 'r', .priority, 1⟩]

/-- A limit as it is written, in a unit. -/
def limitText (unit : Nat) (limit : Option Nat) : String :=
  match limit with
  | some amount => toString (amount / unit) ++ "\n"
  | none => "unlimited\n"

/-- Tells the limits, or changes one of them. -/
def ulimit (given : Given) : Builtin := fun run arguments session next =>
  let side? := (given.filter fun one => one.1 = 'H' || one.1 = 'S').getLast?.map Prod.fst
  let letter := ((given.filter fun one => !(['H', 'S', 'a'].contains one.1)).getLast?.map
    Prod.fst).getD 'f'
  let told (gauge : Gauge) : String :=
    let limit := session.limits.of gauge.resource
    limitText gauge.unit (if side? = some 'H' then limit.greatest else limit.current)
  let padded (title : String) : String :=
    title ++ String.ofList (List.replicate (20 - title.length) ' ') ++ " "
  match gauges.find? fun gauge => gauge.letter = letter, arguments with
  | none, _ => next (session.withStatus 0)
  | some gauge, [] =>
    let text :=
      if given.has 'a' then String.join (gauges.map fun gauge => padded gauge.title ++ told gauge)
      else told gauge
    put text session next 0
  | some gauge, word :: more =>
    let amount? : Option (Option Nat) :=
      if word = "unlimited" then some none
      else if word.toList.all Char.isDigit then some (some (word.toNat?.getD 0 * gauge.unit))
      else none
    if given.has 'a' || !more.isEmpty then fail run "too many arguments" session next
    else
      match amount? with
      | none => fail run "bad number" session next
      | some amount =>
        let held := session.limits.of gauge.resource
        let limit : Limit :=
          ⟨if side? = some 'H' then held.current else amount,
            if side? = some 'S' then held.greatest else amount⟩
        if limit.isOrdered then
          next { session with limits := session.limits.put gauge.resource limit, status := 0 }
        else fail run "error setting limit (Invalid argument)" session next

/-! ## The table -/

/-- Tells the times that processes have taken, which is none. -/
def times : Builtin := fun _ _ session next =>
  let line := "0m0.000000s 0m0.000000s\n"
  put (line ++ line) session next 0

/-- Does nothing, and tells a code. -/
def done (code : Nat) : Builtin := fun _ _ session next => next (session.withStatus code)

/-- The commands by their names, apart from those that decide how others are carried out. -/
def ofName? (name : String) : Option Builtin :=
  match name with
  | ":" | "true" => some (done 0)
  | "false" => some (done 1)
  | "." => some (withoutOptions source)
  | "[" => some bracket
  | "alias" => some aliasCommand
  | "bg" | "fg" => some (withoutOptions (job true))
  | "break" => some (jump .out)
  | "cd" | "chdir" => some (withOptions "LP" cd)
  | "continue" => some (jump .again)
  | "echo" => some echo
  | "eval" => some eval
  | "exit" => some exit
  | "export" => some (withOptions "p" fun _ => exportCommand)
  | "getopts" => some getopts
  | "hash" => some (withOptions "r" fun _ => done 0)
  | "jobs" => some (withOptions "lp" fun _ => job false)
  | "kill" => some kill
  | "local" => some localCommand
  | "printf" => some (withoutOptions printf)
  | "pwd" => some (withOptions "LP" pwd)
  | "read" => some (withOptions "p:r" read)
  | "readonly" => some (withOptions "p" fun _ => readonly)
  | "return" => some returnCommand
  | "set" => some setCommand
  | "shift" => some shift
  | "test" => some test
  | "times" => some times
  | "trap" => some (withoutOptions trap)
  | "ulimit" => some (withOptions "HSatfdscmlpnvwr" ulimit)
  | "umask" => some (withOptions "S" umask)
  | "unalias" => some (withOptions "a" unalias)
  | "unset" => some (withOptions "fv" unset)
  | "wait" => some (withoutOptions wait)
  | _ => none

end RpcEndpoint.Shell.Builtin
