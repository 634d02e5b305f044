import RpcEndpoint.Process.Shell.Redirect

/-!
# Carrying out commands

What each kind of command does, given how the commands inside it are carried out.
-/

namespace RpcEndpoint.Shell

/-! ## Other processes -/

/-- Waits for a process and takes over its outcome. -/
def awaitOne (number : Nat) (session : Session) (next : Session → Task) : Task :=
  .wait (some number) false fun
    | .ok (_, status) => Builtin.mourn status (next (session.withStatus (Builtin.codeOf status)))
    | .error _ => next session

/-- Waits for some processes; the outcome of the last one counts. -/
def awaitAll (next : Session → Task) : List Nat → Session → Task
  | [], session => next session
  | number :: rest, session => awaitOne number session fun session => awaitAll next rest session

/-- Carries out something in a process of its own. -/
def inChild (body : Session → Task) (session : Session)
    (next : Nat → Task) : Task :=
  .fork (forgetTraps session fun session => .pause fun _ => body session) next

/-- How a shell names the fault of a program that cannot be run, and the code that it tells. -/
def programFault (fault : SystemFault) : String × Nat :=
  match fault with
  | .missing | .notDirectory => ("not found", 127)
  | .nameTooLong | .tooManyLinks => (fault.message, 127)
  | _ => (fault.message, 126)

/-- Becomes a program. -/
def becomeProgram (run : Runner) (paths : List String) (name : String) (arguments : List String)
    (session : Session) : Task :=
  .become paths name arguments session.surroundings fun fault =>
    let (complaint, code) := programFault fault
    session.complain (name ++ ": " ++ complaint) (finish run (session.withStatus code))

/-- Looks for a program along the search path; gives the paths from the first one on that leads to
a file, or why there is none. -/
def locate (session : Session) (next : Except SystemFault (List String) → Task) :
    List String → SystemFault → Task
  | [], fault => next (.error fault)
  | path :: rest, fault =>
    .look session.place path fun
      | .ok (_, .program _) | .ok (_, .plain _) => next (.ok (path :: rest))
      | .ok _ => locate session next rest .denied
      | .error found =>
        locate session next rest
          (if found = .missing || found = .notDirectory then fault else found)

/-- Carries out a program and waits for it. -/
def external (run : Runner) (manner : Manner) (name : String) (arguments : List String)
    (session : Session) (next : Session → Task) : Task :=
  let start (paths : List String) : Task :=
    if manner.last && session.traps.isEmpty then becomeProgram run paths name arguments session
    else
      inChild (becomeProgram run paths name arguments) session fun number =>
        awaitOne number session next
  if name.contains '/' then start [name]
  else
    locate session (fun
      | .ok paths => start paths
      | .error fault =>
        session.complain (name ++ ": " ++ (programFault fault).1) (next (session.withStatus 127)))
      (Program.candidates name session.environment) .missing

/-! ## Assignments -/

/-- Assigns what words stand for. Exported variables are for programs. -/
def assignWords (run : Runner) (exports : Bool) (next : Session → Task) :
    List (String × Word) → Session → Task
  | [], session => next session
  | (name, word) :: rest, session =>
    expandValue run word session fun session value =>
      match session.assign name value with
      | .error complaint => abort run complaint session
      | .ok session =>
        let binding := (session.binding? name).getD ⟨name, some value, false, false⟩
        assignWords run exports next rest
          (if exports then session.setBinding { binding with exported := true } else session)

/-- The variables of some names as they are. -/
def remember (names : List String) (session : Session) : List (String × Option Binding) :=
  names.eraseDups.map fun name => (name, session.binding? name)

/-- Makes variables what they were. -/
def putBack (saved : List (String × Option Binding)) (session : Session) : Session :=
  saved.foldl (fun session (name, binding) =>
    match binding with
    | some binding => session.setBinding binding
    | none => session.removeBinding name) session

/-! ## Descriptions -/

/-- How a command is told about. -/
inductive Telling where
  /-- For people. -/
  | full
  /-- What to write for the command itself. -/
  | short
deriving Repr, DecidableEq

/-- Tells what commands are. -/
def describeAll (telling : Telling) (next : Session → Task) :
    List String → Nat → Session → Task
  | [], code, session => next (session.withStatus code)
  | name :: rest, code, session =>
    let tell (full short : String) (code : Nat) : Task :=
      let line := if telling = .full then full else short
      Builtin.put (if line.isEmpty then "" else line ++ "\n") session
        (describeAll telling next rest code) 0
    if Token.keywords.contains name then tell (name ++ " is a shell keyword") name code
    else if let some text := session.aliases.lookup name then
      tell (name ++ " is an alias for " ++ text)
        ("alias " ++ name ++ "=" ++ Builtin.singleQuoted text) code
    else if Builtin.specials.contains name then
      tell (name ++ " is a special shell builtin") name code
    else if session.functions.any fun held => held.1 = name then
      tell (name ++ " is a shell function") name code
    else if (Builtin.ofName? name).isSome || name = "command" || name = "type" then
      tell (name ++ " is a shell builtin") name code
    else
      locate session (fun
        | .ok (path :: _) => tell (name ++ " is " ++ path) path code
        | _ => tell (name ++ ": not found") "" 127)
        (Program.candidates name session.environment) .missing

/-- Looks for the programs of some names, and complains about those that are nowhere. -/
def findPrograms (next : Session → Task) : List String → Nat → Session → Task
  | [], code, session => next (session.withStatus code)
  | name :: rest, code, session =>
    let isOwn := (Builtin.ofName? name).isSome || session.functions.any fun held => held.1 = name
    if isOwn || name.contains '/' then findPrograms next rest code session
    else
      locate session (fun
        | .ok _ => findPrograms next rest code session
        | .error _ =>
          session.complain (name ++ ": not found") (findPrograms next rest 1 session))
        (Program.candidates name session.environment) .missing

/-! ## Simple commands -/

/-- The fields of the words of a command. Some commands take assignments, which are not divided. -/
def commandFields (run : Runner) (words : List Word) (session : Session)
    (next : Session → List String → Task) : Task :=
  let rec rest : List Word → Session → List String → Task
    | [], session, before => next session before
    | word :: others, session, before =>
      match assignment? word with
      | some (name, value) =>
        expandValue run value session fun session text =>
          rest others session (before ++ [name ++ "=" ++ text])
      | none =>
        expand run word session fun session pieces =>
          toFields pieces session fun fields => rest others session (before ++ fields)
  match words with
  | [] => next session []
  | first :: others =>
    expand run first session fun session pieces =>
      toFields pieces session fun fields =>
        if fields.isEmpty then commandFields run others session next
        else if ["export", "readonly", "local", "alias"].contains (fields.headD "") then
          rest others session fields
        else expandFields run others session fields next

/-- Writes down a command before it is carried out, if that is wanted. -/
def trace (assignments : List (String × Word)) (fields : List String) (session : Session)
    (next : Task) : Task :=
  if session.has 'x' then
    let values := assignments.map fun held =>
      held.1 ++ "=" ++ ((session.value? held.1).getD "")
    Program.tell ("+ " ++ " ".intercalate (values ++ fields) ++ "\n") next
  else next

/-- Carries out a function. -/
def call (run : Runner) (manner : Manner) (body : Command) (arguments : List String)
    (saved : List (String × Option Binding)) (session : Session) (next : Session → Task) : Task :=
  let inside := { session with arguments, loops := 0, locals := saved :: session.locals }
  run ⟨manner.tested, false⟩ body inside fun done =>
    let restored := putBack (done.locals.headD []) done
    next { restored with
      arguments := session.arguments
      loops := session.loops
      locals := session.locals
      jump := if done.jump = some .back then none else done.jump }

/-- What a simple command turns out to be. -/
inductive Target where
  | builtin (builtin : Builtin)
  | function (body : Command)
  | external

/-- What a name stands for. Functions come before the commands of the shell, except the special
ones. -/
def target (skipsFunctions : Bool) (name : String) (session : Session) : Target :=
  let function? := if skipsFunctions then none else session.functions.lookup name
  match Builtin.ofName? name, function? with
  | some builtin, none => .builtin builtin
  | some builtin, some body =>
    if Builtin.specials.contains name then .builtin builtin else .function body
  | none, some body => .function body
  | none, none => .external

/-- The arguments of a command that is to be found without regard to functions; or the names that
are to be told about. -/
inductive Directly where
  | invoke (fields : List String)
  | describe (telling : Telling) (names : List String)

def directly (words : List String) : Except String Directly := do
  let (given, rest) ← Builtin.readGiven ['p', 'v', 'V'] (words.length + 1) words
  return if given.has 'V' then .describe .full (rest.take 1)
    else if given.has 'v' then .describe .short (rest.take 1)
    else .invoke rest

/-- Carries out what the fields of a simple command name, when its files are open. -/
def invoke (run : Runner) (manner : Manner) (assignments : List (String × Word))
    (skipsFunctions : Bool) (name : String) (arguments : List String) (session : Session)
    (next : Session → Task) : Task :=
  let saved := remember (assignments.map Prod.fst) session
  let isSpecial := Builtin.specials.contains name && !skipsFunctions
  match target skipsFunctions name session with
  | .builtin builtin =>
    assignWords run false (fun session =>
      trace assignments (name :: arguments) session
        (builtin run arguments
            { session with command := some name, lenient := skipsFunctions } fun done =>
          let named := { done with command := session.command, lenient := session.lenient }
          next (if isSpecial then named else putBack saved named))) assignments session
  | .function body =>
    assignWords run true (fun session =>
      trace assignments (name :: arguments) session
        (call run manner body arguments saved session next)) assignments session
  | .external =>
    assignWords run true (fun session =>
      trace assignments (name :: arguments) session
        (external run manner name arguments session fun done => next (putBack saved done)))
      assignments session

/-- Carries out the fields of a simple command, when its files are open. -/
def dispatch (run : Runner) (manner : Manner) (assignments : List (String × Word))
    (fields : List String) (session : Session) (next : Session → Task) : Task :=
  let restoring (names : List (String × Word)) (session : Session) : Session → Task := fun done =>
    next (putBack (remember (names.map Prod.fst) session) { done with command := session.command })
  match fields with
  | [] =>
    assignWords run false (fun session =>
      trace assignments [] session (next (session.withStatus session.substituted)))
      assignments session
  | "type" :: names =>
    describeAll .full (restoring [] session) names 0 { session with command := some "type" }
  | "hash" :: name :: names =>
    if name.startsWith "-" then
      invoke run manner assignments false "hash" (name :: names) session next
    else
      findPrograms (restoring [] session) (name :: names) 0
        { session with command := some "hash" }
  | "command" :: words =>
    match directly words with
    | .error complaint =>
      Builtin.fail run complaint { session with command := some "command" } (restoring [] session)
    | .ok (.describe telling names) =>
      describeAll telling (restoring [] session) names 0 { session with command := some "command" }
    | .ok (.invoke []) => next (session.withStatus 0)
    | .ok (.invoke (name :: arguments)) =>
      if name = "exec" || name = "command" || name = "type" then
        run manner (.simple session.line [] ((name :: arguments).map fun field =>
          [Part.text field true]) []) session next
      else invoke run manner assignments true name arguments session next
  | "exec" :: name :: arguments =>
    assignWords run true (fun session =>
      trace assignments fields session
        (becomeProgram run (Program.candidates name session.environment) name arguments
          { session with command := some "exec" })) assignments session
  | name :: arguments => invoke run manner assignments false name arguments session next

/-- Carries out a simple command. -/
def simple (run : Runner) (manner : Manner) (assignments : List (String × Word))
    (words : List Word) (redirections : List Redirection) (session : Session)
    (next : Session → Task) : Task :=
  commandFields run words { session with substituted := 0 } fun session fields =>
    let keeps := fields = ["exec"]
    let isSpecial := Builtin.specials.contains (fields.headD "")
    redirect run
      (fun session kept =>
        if keeps then
          forget kept (assignWords run false (fun session => next (session.withStatus 0))
            assignments session)
        else
          let plain := if kept.isEmpty then manner else { manner with last := false }
          dispatch run plain assignments fields session fun session =>
            restore kept (next session))
      (fun session kept =>
        restore kept (if isSpecial then finish run session else next session))
      redirections session []

/-! ## Pipelines -/

/-- Starts the stages of a pipeline; gives their numbers in order. -/
def startStages (run : Runner) (session : Session) (next : List Nat → Task) :
    List Command → Option Nat → List Nat → Task
  | [], _, numbers => next numbers.reverse
  | stage :: rest, before, numbers =>
    let closeBefore (task : Task) : Task :=
      match before with
      | some drain => .close drain task
      | none => task
    let takeInput (task : Unit → Task) : Task :=
      match before with
      | some drain => .duplicate drain 0 fun _ => .close drain (task ())
      | none => task ()
    let work (session : Session) : Task := run ⟨false, true⟩ stage session (finish run)
    match rest with
    | [] =>
      inChild (fun session => takeInput fun _ => work session) session fun number =>
        closeBefore (next (number :: numbers).reverse)
    | _ =>
      .openPipe fun drain feed =>
        inChild (fun session => .close drain (takeInput fun _ =>
          .duplicate feed 1 fun _ => .close feed (work session))) session fun number =>
            .close feed (closeBefore
              (startStages run session next rest (some drain) (number :: numbers)))

/-! ## Loops -/

/-- What becomes of a loop after its body. -/
inductive Course where
  | goOn (session : Session)
  | stop (session : Session)

/-- How a jump changes the course of a loop. -/
def courseOf (session : Session) : Course :=
  match session.jump with
  | none => .goOn session
  | some (.out loops) =>
    .stop { session with jump := if loops ≤ 1 then none else some (.out (loops - 1)) }
  | some (.again loops) =>
    if loops ≤ 1 then .goOn { session with jump := none }
    else .stop { session with jump := some (.again (loops - 1)) }
  | some .back => .stop session

/-- Repeats a body as a condition says, so many times at the most. -/
def repeatWhile (run : Runner) (tested onFailure : Bool) (condition body : Command)
    (next : Session → Task) : Nat → Nat → Session → Task
  | 0, status, session => next (session.withStatus status)
  | fuel + 1, status, session =>
    .pause fun _ =>
      run ⟨true, false⟩ condition session fun session =>
        match courseOf session with
        | .stop session =>
          next (if session.jump = some .back then session else session.withStatus status)
        | .goOn session =>
          if (session.status = 0) = onFailure then next (session.withStatus status)
          else
            run ⟨tested, false⟩ body session fun session =>
              match courseOf session with
              | .stop session => next session
              | .goOn session =>
                repeatWhile run tested onFailure condition body next fuel session.status session

/-- Repeats a body for each of some values. -/
def repeatEach (run : Runner) (tested : Bool) (name : String) (body : Command)
    (next : Session → Task) : List String → Nat → Session → Task
  | [], status, session => next (session.withStatus status)
  | value :: rest, _, session =>
    .pause fun _ =>
      match session.assign name value with
      | .error complaint => abort run complaint session
      | .ok session =>
        run ⟨tested, false⟩ body session fun session =>
          match courseOf session with
          | .stop session => next session
          | .goOn session => repeatEach run tested name body next rest session.status session

/-- Finds the branch with a pattern that a text matches. -/
def findBranch (run : Runner) (text : String) (next : Session → Command → Task) :
    List (List Word × Command) → Session → Task
  | [], session => next session .nothing
  | (patterns, body) :: rest, session =>
    let rec attempt : List Word → Session → Task
      | [], session => findBranch run text next rest session
      | pattern :: others, session =>
        expand run pattern session fun session pieces =>
          if Pattern.covers (Pattern.ofMarked (Piece.marked pieces)) text.toList then
            next session body
          else attempt others session
    attempt patterns session

/-! ## All commands -/

/-- Ends the shell after a failure that nobody looks at, if that is wanted. -/
def check (run : Runner) (manner : Manner) (next : Session → Task) : Session → Task :=
  fun session =>
    Builtin.heed run session fun session =>
      if session.has 'e' && !manner.tested && session.status ≠ 0 && session.jump.isNone then
        finish run session
      else next session

/-- Carries out a command inside loops. -/
def inLoop (next : Session → Task) (session : Session) (loop : (Session → Task) → Session → Task) :
    Task :=
  loop (fun done => next { done with loops := done.loops - 1 })
    { session with loops := session.loops + 1 }

/-- Carries out a command, given how those inside it are carried out. -/
def carryOutWith (run : Runner) : Runner := fun manner command session next =>
  let plain : Manner := ⟨manner.tested, false⟩
  if session.has 'n' then next session
  else match command with
  | .nothing => next session
  | .simple line assignments words redirections =>
    .pause fun _ =>
      Builtin.heed run { session with line } fun session =>
        simple run manner assignments words redirections session (check run manner next)
  | .pipeline stages =>
    startStages run session (fun numbers =>
      awaitAll (check run manner next) numbers session) stages none []
  | .negated body =>
    run ⟨true, false⟩ body session fun session =>
      next (if session.jump.isSome then session
        else session.withStatus (if session.status = 0 then 1 else 0))
  | .both first second =>
    run ⟨true, false⟩ first session fun session =>
      if session.status = 0 && session.jump.isNone then run manner second session next
      else next session
  | .either first second =>
    run ⟨true, false⟩ first session fun session =>
      if session.status ≠ 0 && session.jump.isNone then run manner second session next
      else next session
  | .sequence first second =>
    run plain first session fun session =>
      if session.jump.isNone then run manner second session next else next session
  | .background body =>
    inChild (fun session =>
      .treat 2 .ignored (.treat 3 .ignored (.openFile 0 [] "/dev/null" .read fun _ =>
        run ⟨false, true⟩ body session (finish run)))) session fun number =>
          next { session with aside := some number, status := 0 }
  | .subshell line body =>
    let work (session : Session) : Task :=
      run ⟨manner.tested, true⟩ body session (finish run)
    if manner.last && session.traps.isEmpty then work { session with line }
    else
      inChild work { session with line } fun number =>
        awaitOne number session (check run manner next)
  | .redirected line body redirections =>
    redirect run
      (fun session kept =>
        run plain body session fun session => restore kept (next session))
      (fun session kept => restore kept (next session)) redirections { session with line } []
  | .choice condition chosen otherwise =>
    run ⟨true, false⟩ condition session fun session =>
      if session.jump.isSome then next session
      else if session.status = 0 then run manner chosen session next
      else
        match otherwise with
        | .nothing => next (session.withStatus 0)
        | otherwise => run manner otherwise session next
  | .loop onFailure condition body =>
    inLoop next session fun next session =>
      repeatWhile run manner.tested onFailure condition body next Program.patience 0 session
  | .each line name words body =>
    let go (session : Session) (values : List String) : Task :=
      inLoop next session fun next session =>
        repeatEach run manner.tested name body next values 0 session
    match words with
    | some words => expandFields run words { session with line } [] go
    | none => go { session with line } session.arguments
  | .select line word branches =>
    expandText run word { session with line } fun session text =>
      findBranch run text (fun session body =>
        match body with
        | .nothing => next (session.withStatus 0)
        | body => run manner body session next) branches session
  | .function _ name body =>
    next { session with
      functions := (name, body) :: session.functions.filter fun held => held.1 ≠ name
      status := 0 }

/-- Carries out a command that is nested to some depth. -/
def carryOut : Nat → Runner
  | 0, _, _, session, next => next session
  | fuel + 1, manner, command, session, next =>
    carryOutWith (carryOut fuel) manner command session next

/-- The depth to which commands and functions may be nested. -/
def greatestNesting : Nat := 1000000

end RpcEndpoint.Shell
