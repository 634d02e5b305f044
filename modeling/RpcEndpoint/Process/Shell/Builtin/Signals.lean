import RpcEndpoint.Process.Shell.Builtin.Basic

/-!
# Signals and processes

Signals are sent and treated, and processes are waited for.
-/

namespace RpcEndpoint.Shell.Builtin

/-- The signal of a name or a number. -/
def signal? (word : String) : Option Signal :=
  match word.toNat? with
  | some number => if number ≤ Signal.lastFree then some number else none
  | none => Signal.ofName? (word.map Char.toUpper)

/-- What a trap is set at: a signal, or the end of the shell, which counts as nought. -/
def occasion? (word : String) : Option Signal :=
  if word.map Char.toUpper = "EXIT" then some 0 else signal? word

/-- The name of a signal. -/
def signalName (signal : Signal) : String :=
  if signal = 0 then "EXIT" else (Signal.name? signal).getD (toString signal)

/-- Sets what is to be done at signals. -/
def setTraps (action : Option String) (next : Session → Task) :
    List String → Nat → Session → Task
  | [], code, session => next (session.withStatus code)
  | word :: rest, code, session =>
    match occasion? word with
    | none =>
      Program.tell ("trap: " ++ word ++ ": bad trap\n") (setTraps action next rest 1 session)
    | some signal =>
      let others := session.traps.filter fun trap => trap.1 ≠ signal
      let traps := match action with
        | some action => (signal, action) :: others
        | none => others
      let treatment : Treatment := match action with
        | none => .standard
        | some action => if action.isEmpty then .ignored else .caught
      let goOn := setTraps action next rest code { session with traps }
      if signal = 0 then goOn else .treat signal treatment goOn

def trap : Builtin := fun _ arguments session next =>
  match arguments with
  | [] =>
    let held := session.traps.mergeSort fun left right => decide (left.1 ≤ right.1)
    put (String.join (held.map fun trap =>
      "trap -- " ++ singleQuoted trap.2 ++ " " ++ signalName trap.1 ++ "\n")) session next 0
  | [word] => setTraps none next [word] 0 session
  | action :: signals =>
    if action = "-" then setTraps none next signals 0 session
    else if (action.toNat?).isSome then setTraps none next arguments 0 session
    else setTraps (some action) next signals 0 session

/-- Does what is to be done at the signals that were caught. -/
def heed (run : Runner) (session : Session) (next : Session → Task) : Task :=
  if session.traps.any fun trap => trap.1 ≠ 0 && !trap.2.isEmpty then
    .caught fun signals =>
      let rec act : List Signal → Session → Task
        | [], session => next session
        | signal :: rest, session =>
          match session.traps.lookup signal with
          | some action =>
            let ready := { session with jump := none }
            evaluate run (finish run) action ready fun done =>
              let jump := if done.jump.isSome then done.jump else session.jump
              act rest { done with status := session.status, jump }
          | none => act rest session
      act signals.eraseDups session
  else next session

/-- What is told about a process that a signal has ended. -/
def obituary (signal : Signal) : String :=
  let texts := ["Hangup", "Interrupt", "Quit", "Illegal instruction", "Trace/breakpoint trap",
    "Aborted", "Bus error", "Floating point exception", "Killed", "User defined signal 1",
    "Segmentation fault", "User defined signal 2", "Broken pipe", "Alarm clock", "Terminated",
    "Stack fault", "Child exited", "Continued", "Stopped (signal)", "Stopped",
    "Stopped (tty input)", "Stopped (tty output)", "Urgent I/O condition",
    "CPU time limit exceeded", "File size limit exceeded", "Virtual timer expired",
    "Profiling timer expired", "Window changed", "I/O possible", "Power failure",
    "Bad system call"]
  (texts[signal - 1]?).getD
    (if signal < Signal.firstFree then "Unknown signal " ++ toString signal
      else "Real-time signal " ++ toString (signal - Signal.firstFree))

/-- The code that an end counts as. -/
def codeOf : ExitStatus → Nat
  | .code code => code
  | .signal signal => 128 + signal

/-- Tells about the end of a process, unless it is of the usual kind. -/
def mourn (status : ExitStatus) (next : Task) : Task :=
  match status with
  | .signal signal =>
    if signal = 2 || signal = Signal.brokenPipe then next
    else Program.tell (obituary signal ++ "\n") next
  | .code _ => next

/-- Waits for all processes that were put aside, so many at the most. -/
def waitForAll (run : Runner) (next : Session → Task) : Nat → Session → Task
  | 0, session => next session
  | fuel + 1, session =>
    .wait none true fun
      | .ok (number, status) =>
        waitForAll run next fuel { session with ended := (number, codeOf status) :: session.ended }
      | .error .interrupted =>
        .caught fun signals =>
          let code := 128 + signals.headD 0
          let actions := signals.filterMap fun signal => session.traps.lookup signal
          evaluate run (finish run) ("\n".intercalate actions) session fun session =>
            next (session.withStatus code)
      | .error _ => next (session.withStatus 0)

/-- Waits for one process after another. -/
def waitForEach (run : Runner) (next : Session → Task) : List String → Session → Task
  | [], session => next session
  | word :: rest, session =>
    if word.startsWith "%" then fail run ("No such job: " ++ word) session next
    else withNumber run word session next fun number =>
      .wait (some number) true fun
        | .ok (_, status) =>
          mourn status (waitForEach run next rest { session with
            status := codeOf status
            ended := (number, codeOf status) :: session.ended })
        | .error .interrupted =>
          .caught fun signals =>
            let code := 128 + signals.headD 0
            let actions := signals.filterMap fun signal => session.traps.lookup signal
            evaluate run (finish run) ("\n".intercalate actions) session fun session =>
              next (session.withStatus code)
        | .error _ =>
          waitForEach run next rest
            (session.withStatus ((session.ended.lookup number).getD 127))

def wait : Builtin := fun run arguments session next =>
  if arguments.isEmpty then waitForAll run next Program.patience session
  else waitForEach run next arguments session

/-- Sends a signal to processes. -/
def killAll (run : Runner) (signal : Signal) (next : Session → Task) :
    List String → Nat → Session → Task
  | [], code, session => next (session.withStatus code)
  | word :: rest, code, session =>
    let miss := session.complain "No such process\n" (killAll run signal next rest 1 session)
    if word.startsWith "-" then miss
    else if word.startsWith "%" then fail run ("No such job: " ++ word) session next
    else
      withNumber run word session next fun number =>
        .kill number signal fun
          | .ok () => killAll run signal next rest code session
          | .error _ => miss

def kill : Builtin := fun run arguments session next =>
  let usage := "Usage: kill [-s sigspec | -signum | -sigspec] [pid | job]... or\n"
    ++ "kill -l [exitstatus]"
  match arguments with
  | [] => fail run usage session next
  | "-l" :: rest =>
    match rest with
    | [] =>
      let names := (List.range Signal.lastFree).map fun index => signalName (index + 1)
      put ("\n".intercalate ("0" :: names) ++ "\n") session next 0
    | word :: _ =>
      withNumber run word session next fun number =>
        let signal := if number > 128 then number - 128 else number
        if signal = 0 || number = 128 || Signal.lastFree < signal then
          fail run ("invalid signal number or exit status: " ++ word) session next
        else put (signalName signal ++ "\n") session next 0
  | ["-s"] => fail run "No arg for -s option" session next
  | "-s" :: word :: rest =>
    match signal? word with
    | some signal => killAll run signal next rest 0 session
    | none => fail run ("invalid signal number or name: " ++ word) session next
  | ["--"] => fail run usage session next
  | "--" :: rest => killAll run Signal.termination next rest 0 session
  | word :: rest =>
    if word.startsWith "-" then
      match signal? (word.drop 1).toString with
      | some signal =>
        if rest.isEmpty then fail run usage session next
        else killAll run signal next rest 0 session
      | none => fail run ("Illegal option -" ++ ((word.drop 1).take 1).toString) session next
    else killAll run Signal.termination next arguments 0 session

/-- What there is to say about jobs, which only a shell with a terminal has. -/
def job (needsOne : Bool) : Builtin := fun run arguments session next =>
  match arguments with
  | [] =>
    if needsOne then fail run "No current job" session next else next (session.withStatus 0)
  | word :: _ => fail run ("No such job: " ++ word) session next

end RpcEndpoint.Shell.Builtin
