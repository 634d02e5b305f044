import RpcEndpoint.Process.Program.Filter

/-!
# Programs that change the tree of files

They make, move and remove files and directories, or tell which there are.
-/

namespace RpcEndpoint.Program

/-! ## Making and removing -/

/-- Does something to each of some files. -/
def forEach (name : String) (base : Place) (change : Change)
    (lament : String → SystemFault → Option String) : List String → Nat → Task
  | [], code => .exitWith code
  | path :: rest, code =>
    .change base path change fun
      | .ok () => forEach name base change lament rest code
      | .error fault =>
        match lament path fault with
        | some complaint => complain name complaint (forEach name base change lament rest 1)
        | none => forEach name base change lament rest code

def rm : Program := fun name arguments surroundings =>
  withCall name {
    plain := "frRvidI"
    long := [("force", 'f'), ("recursive", 'r'), ("dir", 'd'), ("verbose", 'v')] }
    arguments fun call =>
    if call.operands.isEmpty && !call.has 'f' then failUse name "missing operand"
    else
      let change : Change := if call.has 'r' || call.has 'R' then .removeAll else .remove
      forEach name surroundings.directory change (fun path fault =>
        if call.has 'f' && fault = .missing then none
        else some ("cannot remove '" ++ path ++ "': " ++ fault.message)) call.operands 0

/-- The paths of all directories on the way to one. -/
def pathsTo (path : String) : List String :=
  let start := if path.startsWith "/" then "/" else ""
  let steps := (path.splitOn "/").filter fun step => !step.isEmpty
  (List.range steps.length).map fun count =>
    start ++ "/".intercalate (steps.take (count + 1))

def mkdir : Program := fun name arguments surroundings =>
  withCall name {
    plain := "pv"
    taking := "m"
    long := [("parents", 'p'), ("verbose", 'v'), ("mode", 'm')] }
    arguments fun call =>
    if call.operands.isEmpty then failUse name "missing operand"
    else
      let paths := if call.has 'p' then call.operands.flatMap pathsTo else call.operands
      forEach name surroundings.directory .makeDirectory (fun path fault =>
        if call.has 'p' && fault = .alreadyThere then none
        else some ("cannot create directory '" ++ path ++ "': " ++ fault.message)) paths 0

def rmdir : Program := fun name arguments surroundings =>
  withCall name { plain := "pv", long := [("parents", 'p'), ("verbose", 'v')] } arguments
    fun call =>
    if call.operands.isEmpty then failUse name "missing operand"
    else
      forEach name surroundings.directory .removeDirectory (fun path fault =>
        some ("failed to remove '" ++ path ++ "': " ++ fault.message)) call.operands 0

def touch : Program := fun name arguments surroundings =>
  withCall name {
    plain := "acfhm"
    taking := "drt"
    long := [("no-create", 'c'), ("date", 'd'), ("reference", 'r')] }
    arguments fun call =>
    if call.operands.isEmpty then failUse name "missing file operand"
    else
      forEach name surroundings.directory .touch (fun path fault =>
        some ("cannot touch '" ++ path ++ "': " ++ fault.message)) call.operands 0

/-- Says nothing about rights but whether there are such files. -/
def chmod : Program := fun name arguments surroundings =>
  match arguments with
  | [] => failUse name "missing operand"
  | [mode] => failUse name ("missing operand after '" ++ mode ++ "'")
  | _ :: paths =>
    let rec check : List String → Nat → Task
      | [], code => .exitWith code
      | path :: rest, code =>
        .look surroundings.directory path fun
          | .ok _ => check rest code
          | .error fault =>
            complain name ("cannot access '" ++ path ++ "': " ++ fault.message) (check rest 1)
    check paths 0

/-! ## Copying and moving -/

/-- The last step of a path. -/
def lastStepOf (path : String) : String :=
  (((path.splitOn "/").filter fun step => !step.isEmpty).getLast?).getD "/"

/-- The number under which a target is opened. -/
def targetFile : Nat := 4

/-- Copies one plain file to a path. -/
def copyFile (name : String) (base : Place) (source target : String) (next : Bool → Task) : Task :=
  let lament (complaint path : String) (fault : SystemFault) : Task :=
    complain name (complaint ++ " '" ++ path ++ "': " ++ fault.message) (next false)
  .look base source fun
    | .error fault => lament "cannot stat" source fault
    | .ok (_, .directory) =>
      complain name ("-r not specified; omitting directory '" ++ source ++ "'") (next false)
    | .ok _ =>
      .openFile operandFile base source .read fun
        | .error fault => lament "cannot open" source fault
        | .ok () =>
          readAll operandFile (fun content =>
            .openFile targetFile base target .write fun
              | .error fault => lament "cannot create regular file" target fault
              | .ok () =>
                .write targetFile (Octets.toBytes (content.toOption.getD "")) fun _ =>
                  .close operandFile (.close targetFile (next true))) patience ""

/-- Hands files on to a target, each under its own name if that is a directory. -/
def handFiles (name : String) (base : Place) (intoDirectory : Bool) (target : String)
    (hand : String → String → (Bool → Task) → Task) : List String → Nat → Task
  | [], code => .exitWith code
  | source :: rest, code =>
    let path := if intoDirectory then target ++ "/" ++ lastStepOf source else target
    hand source path fun isDone =>
      handFiles name base intoDirectory target hand rest (if isDone then code else 1)

/-- Reads the operands of a program that hands files on, and hands them on. -/
def handOver (name : String) (operands : List String) (base : Place)
    (hand : String → String → (Bool → Task) → Task) : Task :=
  match operands with
  | [] => failUse name "missing file operand"
  | [source] => failUse name ("missing destination file operand after '" ++ source ++ "'")
  | _ =>
    let target := operands.getLastD ""
    let sources := operands.dropLast
    .look base target fun
      | .ok (_, .directory) => handFiles name base true target hand sources 0
      | _ =>
        if sources.length = 1 then handFiles name base false target hand sources 0
        else fail name ("target '" ++ target ++ "': No such file or directory") 1

def cp : Program := fun name arguments surroundings =>
  withCall name { plain := "afilnprRuv", long := [("recursive", 'r'), ("force", 'f')] } arguments
    fun call =>
      handOver name call.operands surroundings.directory (copyFile name surroundings.directory)

def mv : Program := fun name arguments surroundings =>
  withCall name { plain := "finuv", long := [("force", 'f')] } arguments fun call =>
    let base := surroundings.directory
    handOver name call.operands base fun source target next =>
      copyFile name base source target fun isDone =>
        if isDone then .change base source .remove fun _ => next true else next false

def ln : Program := fun name arguments surroundings =>
  withCall name { plain := "sfnrv", long := [("symbolic", 's'), ("force", 'f')] } arguments
    fun call =>
    let base := surroundings.directory
    let operands := match call.operands with
      | [source] => [source, lastStepOf source]
      | operands => operands
    handOver name operands base fun source target next =>
      if call.has 's' then
        let link : Task := .change base target (.link source) fun
          | .ok () => next true
          | .error fault =>
            complain name ("failed to create symbolic link '" ++ target ++ "': " ++ fault.message)
              (next false)
        if call.has 'f' then .change base target .remove fun _ => link else link
      else copyFile name base source target next

/-! ## Telling what there is -/

/-- Tells the names in a directory. -/
def namesIn (showsAll almostAll : Bool) (held : List String) : List String :=
  (held.filter fun one =>
    showsAll || !one.startsWith "." || almostAll && one ≠ "." && one ≠ "..").mergeSort
      fun left right => !(right < left)

/-- Sorts out which operands are directories, and complains about those that are nothing. -/
def sortOperands (name : String) (base : Place) (asFiles : Bool)
    (next : List String → List String → Nat → Task) :
    List String → List String → List String → Nat → Task
  | [], files, directories, code => next files.reverse directories.reverse code
  | path :: rest, files, directories, code =>
    .look base path fun
      | .error fault =>
        complain name ("cannot access '" ++ path ++ "': " ++ fault.message)
          (sortOperands name base asFiles next rest files directories 2)
      | .ok (_, .directory) =>
        if asFiles then sortOperands name base asFiles next rest (path :: files) directories code
        else sortOperands name base asFiles next rest files (path :: directories) code
      | .ok _ => sortOperands name base asFiles next rest (path :: files) directories code

/-- Tells the names in some directories, under their headings if these are wanted. -/
def listDirectories (name : String) (base : Place) (headed : Bool)
    (select : List String → List String) (code : Nat) : List String → String → Task
  | [], text => putAndExit name text code
  | path :: rest, text =>
    .list base path fun held =>
      let gap := if headed && !text.isEmpty then "\n" else ""
      let heading := if headed then path ++ ":\n" else ""
      listDirectories name base headed select code rest
        (text ++ gap ++ heading ++ String.join ((select held).map (· ++ "\n")))

def ls : Program := fun name arguments surroundings =>
  withCall name {
    plain := "1aAdlFhiknqrRsStUx"
    long := [("all", 'a'), ("almost-all", 'A'), ("directory", 'd')]
    refusal := 2 } arguments fun call =>
    let base := surroundings.directory
    let operands := if call.operands.isEmpty then ["."] else call.operands
    sortOperands name base (call.has 'd') (fun files directories code =>
      let ordered (paths : List String) : List String :=
        paths.mergeSort fun left right => !(right < left)
      listDirectories name base (1 < operands.length) (namesIn (call.has 'a') (call.has 'A')) code
        (ordered directories) (String.join ((ordered files).map (· ++ "\n")))) operands [] [] 0

/-- Tells which of some paths lead to programs, the first one or all. -/
def tellPrograms (name : String) (base : Place) (all : Bool) (next : Bool → Task) :
    List String → Bool → Task
  | [], found => next found
  | path :: rest, found =>
    .look base path fun
      | .ok (_, .program _) =>
        put name (path ++ "\n")
          (if all then tellPrograms name base all next rest true else next true)
      | _ => tellPrograms name base all next rest found

def which : Program := fun name arguments surroundings =>
  withCall name { plain := "as", stopsEarly := true, refusal := 2 } arguments fun call =>
    let rec each : List String → Nat → Task
      | [], code => .exitWith code
      | wanted :: rest, code =>
        tellPrograms name surroundings.directory (call.has 'a')
          (fun found => each rest (if found then code else 1))
          (candidates wanted surroundings.environment) false
    each call.operands (if call.operands.isEmpty then 1 else 0)

end RpcEndpoint.Program
