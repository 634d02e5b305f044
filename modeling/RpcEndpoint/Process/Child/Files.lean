import RpcEndpoint.Process.Child.Basic

/-!
# Files of child processes

Reading and writing move the offset of a file, or the content of a pipe. A reader waits as long as
somebody may write, a writer as long as there is no room.
-/

namespace RpcEndpoint.Child

/-! ## Reading and writing -/

/-- A part of the content of a file, over which the offset moves. -/
def readPlace (system : FileSystem) (place : Place) (offset limit : Nat) : Bytes :=
  match system.node? place with
  | some (.plain content) => (content.drop offset).take limit
  | _ => []

/-- Reads from what a process has open; nothing if it has to wait. -/
def readFrom (number : Nat) (opening : Opening) (limit : Nat) (child : Child) :
    Option (Called Bytes × Child) :=
  match opening with
  | .drain pipe =>
    let available := child.pipe pipe
    if limit = 0 then some (.ok [], child)
    else if available.isEmpty then
      if child.hasWriter pipe then none else some (.ok [], child)
    else
      let (bytes, left) := available.read limit
      some (.ok bytes, child.setPipe pipe left)
  | .content rest =>
    some (.ok (rest.take limit), child.setOpening number (.content (rest.drop limit)))
  | .file place offset access =>
    match access with
    | .read | .readWrite =>
      let bytes := readPlace child.system place offset limit
      some (.ok bytes, child.setOpening number (.file place (offset + bytes.length) access))
    | .write | .append => some (.error .badFile, child)
  | .device .null => some (.ok [], child)
  | .device _ => some (.ok (List.replicate limit 0), child)
  | .directory => some (.error .isDirectory, child)
  | .feed _ => some (.error .badFile, child)

/-- A content with bytes written over it from an offset on. -/
def overwrite (content : Bytes) (offset : Nat) (bytes : Bytes) : Bytes :=
  content.take offset ++ List.replicate (offset - content.length) 0 ++ bytes
    ++ content.drop (offset + bytes.length)

/-- Writes to a file of the tree. -/
def writePlace (number : Nat) (place : Place) (offset : Nat) (access : Access) (bytes : Bytes)
    (child : Child) : Child :=
  match child.system.node? place with
  | some (.plain content) =>
    let start := if access = .append then content.length else offset
    let changed := overwrite content start bytes
    { child with system := child.system.put place (.plain changed) }
      |>.setOpening number (.file place (start + bytes.length) access)
  | _ => child

/-- Goes on after a write whose reader has gone. -/
def breakWrite (process : Process) (next : Called Unit → Task) (child : Child) : Child :=
  (child.goOn process (next (.error .brokenPipe))).deliver process.number Signal.brokenPipe

/-- Writes to a pipe between processes, as much as there is room for; nothing if it has to wait. -/
def writePipe (process : Process) (file pipe : Nat) (bytes : Bytes) (next : Called Unit → Task)
    (child : Child) : Option Child :=
  if !child.hasReader pipe then some (child.breakWrite process next)
  else
    let current := child.pipe pipe
    if !current.hasRoom && current.isSealed then none
    else
      let (filled, rest) := current.write bytes
      if rest.isEmpty then some ((child.setPipe pipe filled).goOn process (next (.ok ())))
      else if !current.hasRoom && rest.length = bytes.length then none
      else some ((child.setPipe pipe filled).goOn process (.write file rest next))

/-- Writes to what a process has open; nothing if it has to wait. -/
def writeTo (process : Process) (file number : Nat) (opening : Opening) (bytes : Bytes)
    (next : Called Unit → Task) (child : Child) : Option Child :=
  let done (outcome : Called Unit) (changed : Child) : Option Child :=
    some (changed.goOn process (next outcome))
  match opening with
  | .feed pipe =>
    match outlet? pipe with
    | some outlet =>
      done (.ok ()) (if bytes.isEmpty then child
        else { child with emitted := (outlet, bytes) :: child.emitted })
    | none =>
      if bytes.isEmpty then done (.ok ()) child else child.writePipe process file pipe bytes next
  | .file place offset access =>
    match access with
    | .read => done (.error .badFile) child
    | .write | .append | .readWrite =>
      done (.ok ()) (child.writePlace number place offset access bytes)
  | .device .full => done (if bytes.isEmpty then .ok () else .error .noSpace) child
  | .device _ => done (.ok ()) child
  | .directory | .drain _ | .content _ => done (.error .badFile) child

/-! ## Opening -/

/-- A process with an opening under a number. -/
def assign (file number : Nat) (process : Process) : Process :=
  { process with files := (file, number) :: process.files.filter fun held => held.1 ≠ file }

/-- A process with nothing under the numbers that satisfy the test. -/
def release (closes : Nat → Bool) (process : Process) : Process :=
  { process with files := process.files.filter fun held => !closes held.1 }

/-- Adds an opening, and gives out its number. -/
def addOpening (opening : Opening) (child : Child) : Nat × Child :=
  (child.fresh, { child with
    fresh := child.fresh + 1
    openings := (child.fresh, opening) :: child.openings })

/-- What is opened at a place, and the tree after that. -/
def openNode (process : Process) (place : Place) (node : Option Node) (access : Access)
    (child : Child) : Called (Nat × Child) :=
  let add (opening : Opening) (changed : Child) : Called (Nat × Child) :=
    .ok (changed.addOpening opening)
  let empty : Child := { child with system := child.system.put place (.plain []) }
  match node, access with
  | none, .read => .error .missing
  | none, _ => add (.file place 0 access) empty
  | some (.plain _), .write => add (.file place 0 access) empty
  | some (.plain _), _ => add (.file place 0 access) child
  | some (.program _), .read => add (.content []) child
  | some (.program _), _ => .error .denied
  | some .directory, .read => add .directory child
  | some .directory, _ => .error .isDirectory
  | some (.link _), _ => .error .missing
  | some (.device (.opened file)), _ =>
    match process.files.lookup file with
    | some number => .ok (number, child)
    | none => .error .missing
  | some (.device device), _ => add (.device device) child

/-- Opens the file of a path. -/
def openPath (process : Process) (base : Place) (path : String) (access : Access)
    (child : Child) : Called (Nat × Child) := do
  let (place, node) ← child.system.locate base path
  child.openNode process place node access

/-- What a path leads to as a process sees it. What it has open under a number is looked
through, except for a pipe. -/
def lookAt (process : Process) (base : Place) (path : String) (child : Child) :
    Called (Place × Node) := do
  let (place, node) ← child.system.find base path
  match node with
  | .device (.opened file) =>
    match child.file? process file with
    | none => .error .missing
    | some (_, .device device) => .ok (place, .device device)
    | some (_, .directory) => .ok (place, .directory)
    | some (_, .content content) => .ok (place, .plain content)
    | some (_, .file target _ _) =>
      .ok (target, (child.system.node? target).getD (.plain []))
    | some (_, .drain _) | some (_, .feed _) => .ok (place, node)
  | _ => .ok (place, node)

/-- The first number from a bound on under which a process has nothing open. -/
def freeFile (process : Process) : Nat → Nat → Nat
  | 0, bound => bound
  | fuel + 1, bound =>
    if (process.files.lookup bound).isSome then freeFile process fuel (bound + 1) else bound

/-- Numbers from here on are not used by scripts. -/
def highFile : Nat := 10

/-! ## Changes of the tree -/

/-- Carries out a change at a place. -/
def changeNode (system : FileSystem) (place : Place) (node : Option Node) :
    Change → Called FileSystem
  | .remove =>
    match node with
    | none => .error .missing
    | some .directory => .error .isDirectory
    | some _ => .ok (system.remove place)
  | .removeAll =>
    match node with
    | none => .error .missing
    | some _ => .ok (system.removeAll place)
  | .removeDirectory =>
    match node with
    | none => .error .missing
    | some .directory =>
      if system.isOccupied place then .error .notEmpty else .ok (system.remove place)
    | some _ => .error .notDirectory
  | .makeDirectory =>
    match node with
    | none => .ok (system.put place .directory)
    | some _ => .error .alreadyThere
  | .touch =>
    match node with
    | none => .ok (system.put place (.plain []))
    | some _ => .ok system
  | .link target =>
    match node with
    | none => .ok (system.put place (.link target))
    | some _ => .error .alreadyThere

end RpcEndpoint.Child
