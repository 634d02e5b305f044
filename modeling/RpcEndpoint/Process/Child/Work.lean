import RpcEndpoint.Process.Child.Files

/-!
# The work of child processes

Of the processes that need not wait the one whose call comes first does it, and so on until
something has come about that others see.
-/

namespace RpcEndpoint.Child

/-! ## Calls -/

/-- Waits for a child of a process; nothing if it has to wait. -/
def await (process : Process) (wanted : Option Nat) (breaks : Bool)
    (next : Called (Nat × ExitStatus) → Task) (child : Child) : Option Child :=
  let isWanted (number parent : Nat) : Bool :=
    parent = process.number && wanted.all fun one => one = number
  match child.departed.find? fun departure => isWanted departure.number departure.parent with
  | some departure =>
    let left := { child with
      departed := child.departed.filter fun held => held.number ≠ departure.number }
    some (left.goOn process (next (.ok (departure.number, departure.status))))
  | none =>
    if child.processes.any fun other => isWanted other.number other.parent then
      if breaks && !process.caught.isEmpty then
        some (child.goOn process (next (.error .interrupted)))
      else none
    else some (child.goOn process (next (.error .noProcess)))

/-- Does the next call of a process; nothing if it has to wait. -/
def step (process : Process) (child : Child) : Option Child :=
  let on (task : Task) : Option Child := some (child.goOn process task)
  match process.task with
  | .exit status => some (child.depart process.number status)
  | .pause next => on (next ())
  | .sleep _ next => on next
  | .read file limit next =>
    match child.file? process file with
    | none => on (next (.error .badFile))
    | some (number, opening) =>
      (child.readFrom number opening limit).map fun (outcome, changed) =>
        let size := (outcome.toOption.getD []).length
        { changed with effort := changed.effort + size / 32 }.goOnAfter
          (5 * changed.slowness * size) process (next outcome)
  | .write file bytes next =>
    match child.file? process file with
    | none => on (next (.error .badFile))
    | some (number, opening) =>
      { child with effort := child.effort + bytes.length / 32 }.writeTo process file number opening
        bytes next
  | .openFile file base path access next =>
    match child.openPath process base path access with
    | .error fault => on (next (.error fault))
    | .ok (number, opened) =>
      some (opened.goOn (assign file number process) (next (.ok ()))).sweep
  | .openContent file content next =>
    let (number, opened) := child.addOpening (.content content)
    some (opened.goOn (assign file number process) next).sweep
  | .openPipe next =>
    let pipe := child.fresh
    let (drain, drained) := { child with fresh := pipe + 1 }.addOpening (.drain pipe)
    let (feed, fed) := drained.addOpening (.feed pipe)
    let low := freeFile process process.files.length 3
    let high := freeFile process process.files.length (low + 1)
    some (fed.goOn (assign high feed (assign low drain process)) (next low high))
  | .duplicate source target next =>
    match process.files.lookup source with
    | none => on (next (.error .badFile))
    | some number =>
      some (child.goOn (assign target number process) (next (.ok ()))).sweep
  | .save file next =>
    match process.files.lookup file with
    | none => on (next none)
    | some number =>
      let free := freeFile process process.files.length highFile
      some (child.goOn (assign free number process) (next (some free)))
  | .close file next =>
    some (child.goOn (release (· = file) process) next).sweep
  | .closeFrom first next =>
    some (child.goOn (release (first ≤ ·) process) next).sweep
  | .fork task next =>
    let number := child.fresh
    let born : Process := { process with
      number
      parent := process.number
      task
      ready := child.readyAfter forking task
      caught := [] }
    let forked := { child with fresh := number + 1 }.goOn process (next number)
    some { forked with processes := forked.processes ++ [born] }
  | .wait wanted breaks next => child.await process wanted breaks next
  | .become paths name arguments surroundings otherwise =>
    match child.system.search surroundings.directory paths .missing with
    | .error fault => on (otherwise fault)
    | .ok program =>
      let task := child.programs program name arguments surroundings
      let plain := process.treatments.filter fun held => held.2 ≠ .caught
      let bare := { release (highFile ≤ ·) process with treatments := plain, caught := [] }
      some (child.goOnAfter loading bare task).sweep
  | .kill number signal next =>
    match child.process? number with
    | some _ =>
      let sent := child.goOn process (next (.ok ()))
      some (if signal = 0 then sent else sent.deliver number signal)
    | none =>
      let isThere := child.departed.any fun departure => departure.number = number
      on (next (if isThere then .ok () else .error .noProcess))
  | .treat signal treatment next =>
    some (child.goOn { process with
      treatments := (signal, treatment) ::
        process.treatments.filter fun held => held.1 ≠ signal } next)
  | .caught next =>
    some (child.goOn { process with caught := [] } (next process.caught))
  | .numbers next => on (next process.number process.parent)
  | .look base path next => on (next (child.lookAt process base path))
  | .lookForLink base path next => on (next (child.system.isLink base path))
  | .list base path next => on (next (child.system.list base path))
  | .change base path change next =>
    match child.system.locateItself base path with
    | .error fault => on (next (.error fault))
    | .ok (place, node) =>
      match changeNode child.system place node change with
      | .error fault => on (next (.error fault))
      | .ok system => some ({ child with system }.goOn process (next (.ok ())))

/-- When a process does its next call, if nothing keeps it waiting. -/
def due (child : Child) (process : Process) : Instant :=
  child.clock.latest process.ready

/-- The first of some processes that can go on does its next call, if it does so by a limit. -/
def stepFirst (limit : Option Instant) (child : Child) : List Process → Option Child
  | [] => none
  | process :: rest =>
    let instant := child.due process
    if limit.any fun last => !instant.hasCome last then none
    else if process.halted then stepFirst limit child rest
    else
      match { child with clock := instant, effort := child.effort + 1 }.step process with
      | some stepped => some stepped
      | none => stepFirst limit child rest

/-- The processes in the order in which they come to their next calls. -/
def inOrder (child : Child) : List Process :=
  match child.processes with
  | [only] => [only]
  | processes => processes.mergeSort fun left right => (child.due left).hasCome (child.due right)

/-- Lets the processes work until there is something new or until a limit, so many calls at the
most; says whether there is something new. -/
def work (isNews : Child → Bool) (limit : Option Instant) : Nat → Child → Bool × Child
  | 0, child => (false, child)
  | fuel + 1, child =>
    match child.stepFirst limit child.inOrder with
    | some stepped =>
      if isNews stepped then (true, stepped) else work isNews limit fuel stepped
    | none => (false, { child with clock := limit.elim child.clock child.clock.latest })

/-! ## Seen from outside -/

/-- Whether nobody reads the input. -/
def inputClosed (child : Child) : Bool :=
  !child.hasReader inputPipe

def outputClosed (child : Child) : Bool :=
  !child.holds (.feed outputPipe)

def errorsClosed (child : Child) : Bool :=
  !child.holds (.feed errorPipe)

/-- Whether the input takes more bytes. -/
def hasRoom (child : Child) : Bool :=
  (child.pipe inputPipe).hasRoom

/-- Writes bytes to a child; gives what there is no room for. -/
def offer (bytes : Bytes) (child : Child) : Bytes × Child :=
  let (pipe, left) := (child.pipe inputPipe).write bytes
  (left, child.setPipe inputPipe pipe)

/-- Goes on with what there was no room for. -/
def offerMore (bytes : Bytes) (child : Child) : Bytes × Child :=
  let (pipe, left) := (child.pipe inputPipe).resume bytes
  (left, child.setPipe inputPipe pipe)

/-- Ends the input of a child. -/
def endInput (child : Child) : Child :=
  { child with inputEnded := true }

/-- Kills the first process, if it has not ended. -/
def kill (child : Child) : Child :=
  match child.exit with
  | some _ => child
  | none => child.depart first (.signal Signal.kill)

/-- Takes what has come out of a child. -/
def takeEmitted (child : Child) : List (Outlet × Bytes) × Child :=
  (child.emitted.reverse, { child with emitted := [] })

end RpcEndpoint.Child
