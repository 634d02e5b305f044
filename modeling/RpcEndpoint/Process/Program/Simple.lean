import RpcEndpoint.Process.Condition
import RpcEndpoint.Process.Printf
import RpcEndpoint.Process.Program.Filter

/-!
# Small programs

They print something that follows from their arguments, wait, or hand on to another program.
-/

namespace RpcEndpoint.Program

/-- Ends with a code at once. -/
def ends (code : Nat) : Program := fun _ _ _ => .exitWith code

/-- Reads the input to its end without a word. -/
def absorb : Program := fun _ _ _ =>
  readAll 0 (fun _ => .exitWith 0) patience ""

/-! ## Waiting -/

/-- The seconds that a unit stands for. -/
def unitSeconds? (unit : Char) : Option Nat :=
  match unit with
  | 's' => some 1
  | 'm' => some 60
  | 'h' => some 3600
  | 'd' => some 86400
  | _ => none

/-- The time that a number with a unit stands for. A part of the smallest unit counts as a whole
one. -/
def interval? (written : String) : Option Duration := do
  let (real, rest) ← Numeral.readSigned? written
  let unit ← match rest with
    | [] => some 1
    | [unit] => unitSeconds? unit
    | _ => none
  if real.magnitude = .none then none
  else
    match real.magnitude.ratio? with
    | some ratio =>
      if real.negative && ratio.numerator ≠ 0 then none
      let scaled := ratio.numerator * unit * 1000000000
      return ⟨(scaled + ratio.denominator - 1) / ratio.denominator⟩
    | none => if real.negative then none else return .greatest

def sleep : Program := fun name arguments _ =>
  withOperands name arguments fun operands =>
    let wrong := operands.filter fun operand => (interval? operand).isNone
    if arguments.isEmpty then failUse name "missing operand"
    else
      match wrong.reverse with
      | [] =>
        let intervals := operands.filterMap interval?
        .sleep ⟨(intervals.map Duration.nanoseconds).foldl (· + ·) 0⟩ (.exitWith 0)
      | last :: before =>
        let lament (argument : String) : String := "invalid time interval '" ++ argument ++ "'"
        before.foldl (fun task argument => complain name (lament argument) task)
          (failUse name (lament last))

/-! ## Printing -/

/-- Whether a word holds options of `echo`. -/
def isEchoOption (word : String) : Bool :=
  match word.toList with
  | '-' :: letters => !letters.isEmpty && letters.all fun letter => ['n', 'e', 'E'].contains letter
  | _ => false

def echo : Program := fun name arguments _ =>
  let options := arguments.takeWhile isEchoOption
  let letters := options.flatMap String.toList
  let text := " ".intercalate (arguments.drop options.length)
  let expands := ((letters.filter fun letter => letter = 'e' || letter = 'E').getLast?) = some 'e'
  let shown : Printf.Expanded :=
    if expands then Printf.expand true false text else { text, stopped := false }
  putAndExit name
    (if letters.contains 'n' || shown.stopped then shown.text else shown.text ++ "\n") 0

def printf : Program := fun name arguments _ =>
  match (if arguments.head? = some "--" then arguments.drop 1 else arguments) with
  | [] => failUse name "missing operand"
  | format :: rest =>
    let rendered := Printf.render .program format rest
    rendered.complaints.foldr (complain name) (putAndExit name rendered.written rendered.code)

def pwd : Program := fun name arguments surroundings =>
  withCall name { plain := "LP", long := [("logical", 'L'), ("physical", 'P')] } arguments fun _ =>
    putAndExit name (FileSystem.pathOf surroundings.directory ++ "\n") 0

/-- Tells about the system. -/
def uname : Program := fun name arguments _ =>
  withCall name { plain := "asnrvmpio" } arguments fun call =>
    let isPlain := call.options.isEmpty || call.has 's'
    putAndExit name ((if isPlain then "Linux" else if call.has 'm' then "x86_64" else "") ++ "\n") 0

def whoami : Program := fun name arguments _ =>
  withOperands name arguments fun _ => putAndExit name "root\n" 0

/-- The last step of a path. -/
def lastStep (path : String) : String :=
  let bare := (path.toList.reverse.dropWhile (· = '/'))
  if bare.isEmpty then (if path.isEmpty then "" else "/")
  else String.ofList (bare.takeWhile (· ≠ '/')).reverse

/-- A name without an ending, unless nothing would be left. -/
def withoutEnding (ending name : String) : String :=
  if name.endsWith ending && name ≠ ending then (name.dropEnd ending.length).toString else name

def basename : Program := fun name arguments _ =>
  withCall name {
    plain := "az"
    taking := "s"
    long := [("multiple", 'a'), ("suffix", 's'), ("zero", 'z')]
    stopsEarly := true }
    arguments fun call =>
    let ending := (call.argument? 's').getD ""
    let mark := if call.has 'z' then "\x00" else "\n"
    if call.operands.isEmpty then failUse name "missing operand"
    else if call.has 'a' || call.has 's' then
      putAndExit name (String.join (call.operands.map fun path =>
        withoutEnding ending (lastStep path) ++ mark)) 0
    else
      match call.operands with
      | [] => failUse name "missing operand"
      | [path] => putAndExit name (lastStep path ++ mark) 0
      | [path, ending] => putAndExit name (withoutEnding ending (lastStep path) ++ mark) 0
      | _ :: _ :: extra :: _ => failUse name ("extra operand '" ++ extra ++ "'")

/-- A path without its last step. -/
def withoutLastStep (path : String) : String :=
  let bare := path.toList.reverse.dropWhile (· = '/')
  let before := bare.dropWhile (· ≠ '/')
  let kept := before.dropWhile (· = '/')
  if bare.isEmpty then (if path.isEmpty then "." else "/")
  else if before.isEmpty then "."
  else if kept.isEmpty then "/"
  else String.ofList kept.reverse

def dirname : Program := fun name arguments _ =>
  withCall name { plain := "z", long := [("zero", 'z')] } arguments fun call =>
    if call.operands.isEmpty then failUse name "missing operand"
    else
      let mark := if call.has 'z' then "\x00" else "\n"
      putAndExit name (String.join (call.operands.map (withoutLastStep · ++ mark))) 0

def test : Program := fun name arguments surroundings =>
  let words? :=
    if lastStep name = "[" then
      if arguments.getLast? = some "]" then some arguments.dropLast else none
    else some arguments
  match words? with
  | none => fail name "missing ']'" 2
  | some words =>
    Condition.decide surroundings.directory words fun
      | .ok holds => .exitWith (if holds then 0 else 1)
      | .error complaint => fail name complaint 2

/-! ## Other programs -/

/-- The code for a wrong call of a program whose code is mostly that of another one. -/
def ownRefusal : Nat := 125

/-- Goes on as another program, or complains that there is none. The complaint begins with some
words. -/
def handOn (name beginning : String) (command : List String) (surroundings : Surroundings) : Task :=
  match command with
  | [] => fail name ("missing operand" ++ advice name) ownRefusal
  | program :: arguments =>
    becomeNamed program arguments surroundings fun fault =>
      fail name (beginning ++ "'" ++ program ++ "': " ++ fault.message)
        (if fault = .missing then 127 else 126)

/-- How a program says that it cannot run another one. -/
def cannotRun : String := "failed to run command "

/-- Goes on as the program behind the options. -/
def passOn (options : Options) : Program := fun name arguments surroundings =>
  withCall name { options with stopsEarly := true, refusal := ownRefusal } arguments fun call =>
    handOn name cannotRun call.operands surroundings

def stdbuf : Program :=
  passOn { plain := "", taking := "ioe", long := [("input", 'i'), ("output", 'o'), ("error", 'e')] }

def nohup : Program :=
  passOn { plain := "" }

def nice : Program := fun name arguments surroundings =>
  withCall name {
    plain := "0123456789"
    taking := "n"
    long := [("adjustment", 'n')]
    stopsEarly := true
    refusal := ownRefusal }
    arguments fun call =>
    match call.options, call.operands with
    | [], [] => putAndExit name "0\n" 0
    | _, [] => fail name ("a command must be given with an adjustment" ++ advice name) ownRefusal
    | _, command => handOn name "" command surroundings

/-- Waits for the end of a process that may get a signal when its time is up. The timer tells by
its own end whether it was. -/
def superviseWorker (name : String) (isEqual : Bool) (worker timer : Nat) : Task :=
  .wait (some worker) false fun ended =>
    .kill timer Signal.kill fun _ => .wait (some timer) false fun timed =>
      let isExpired := timed matches .ok (_, .code _)
      match ended with
      | .ok (_, .code code) => .exitWith (if isExpired && !isEqual then 124 else code)
      | .ok (_, .signal signal) =>
        if !isExpired || signal = Signal.kill then .exit (.signal signal)
        else .exitWith (if isEqual then 128 + signal else 124)
      | .error fault => fail name ("error waiting for command: " ++ fault.message) ownRefusal

/-- Runs a command for a limited time. -/
def timeout : Program := fun name arguments surroundings =>
  withCall name {
    plain := "vpf"
    taking := "ks"
    long := [("preserve-status", 'p'), ("foreground", 'f'), ("kill-after", 'k'), ("signal", 's'),
      ("verbose", 'v')]
    stopsEarly := true
    refusal := ownRefusal }
    arguments fun call =>
    let wrong (complaint : String) : Task := fail name (complaint ++ advice name) ownRefusal
    let signalName := (call.argument? 's').getD "TERM"
    match call.operands, Signal.named? signalName with
    | [], _ | [_], _ =>
      tell ("Try '" ++ name ++ " --help' for more information.\n") (.exitWith ownRefusal)
    | _, none => wrong ("'" ++ signalName ++ "': invalid signal")
    | written :: command, some signal =>
      match interval? written with
      | none => wrong ("invalid time interval '" ++ written ++ "'")
      | some limit =>
        -- What the timer does, it leaves to others, so that it has ended before it is done.
        let finishOff (worker : Nat) : Task :=
          match (call.argument? 'k').bind interval? with
          | some more => .sleep more (.kill worker Signal.kill fun _ => .exitWith 0)
          | none => .exitWith 0
        let expire (worker : Nat) : Task :=
          .sleep limit (.fork (.kill worker signal fun _ => finishOff worker) fun _ => .exitWith 0)
        .fork (handOn name cannotRun command surroundings) fun worker =>
          .fork (.closeFrom 0 (if limit.nanoseconds = 0 then .sleep .greatest (.exitWith 0)
            else expire worker)) (superviseWorker name (call.has 'p') worker)

end RpcEndpoint.Program
