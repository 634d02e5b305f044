import RpcEndpoint.Process.Shell.Builtin.Basic

/-!
# The state of the shell

Variables, names, settings and arguments are changed, and other places of a script are gone to.
-/

namespace RpcEndpoint.Shell.Builtin

/-! ## Variables and names

Variables are set, listed and taken away; names are given to commands. -/

/-- A name, and the value behind a sign of equality. -/
def splitAssignment (word : String) : String × Option String :=
  match word.splitOn "=" with
  | name :: second :: rest => (name, some ("=".intercalate (second :: rest)))
  | _ => (word, none)

/-- Changes the variables that words name, one after another. -/
def declare (run : Runner) (change : Binding → Binding) (next : Session → Task) :
    List String → Session → Task
  | [], session => next (session.withStatus 0)
  | word :: rest, session =>
    let (name, value?) := splitAssignment word
    if !isName name then fail run (name ++ ": bad variable name") session next
    else
      match value? with
      | some value =>
        match session.assign name value with
        | .error complaint => fail run complaint session next
        | .ok session =>
          let held := (session.binding? name).getD ⟨name, some value, false, false⟩
          declare run change next rest (session.setBinding (change held))
      | none =>
        let held := (session.binding? name).getD ⟨name, none, false, false⟩
        declare run change next rest (session.setBinding (change held))

/-- The variables that satisfy a test, as commands that set them. -/
def listing (title : String) (isListed : Binding → Bool) (session : Session) : String :=
  let held := (session.bindings.filter isListed).mergeSort fun left right =>
    decide (left.name ≤ right.name)
  String.join (held.map fun binding =>
    title ++ binding.name ++ (match binding.value with
      | some value => "=" ++ singleQuoted value
      | none => "") ++ "\n")

def exportCommand : Builtin := fun run arguments session next =>
  if arguments.isEmpty then put (listing "export " Binding.exported session) session next 0
  else declare run (fun binding => { binding with exported := true }) next arguments session

def readonly : Builtin := fun run arguments session next =>
  if arguments.isEmpty then put (listing "readonly " Binding.readOnly session) session next 0
  else declare run (fun binding => { binding with readOnly := true }) next arguments session

/-- Takes variables or functions away. -/
def unsetAll (run : Runner) (functions : Bool) (next : Session → Task) :
    List String → Session → Task
  | [], session => next (session.withStatus 0)
  | name :: rest, session =>
    if functions then
      unsetAll run functions next rest
        { session with functions := session.functions.filter fun held => held.1 ≠ name }
    else if !isName name then fail run (name ++ ": bad variable name") session next
    else if (session.binding? name).any Binding.readOnly then
      fail run (name ++ ": is read only") session next
    else unsetAll run functions next rest (session.removeBinding name)

def unset (given : Given) : Builtin := fun run arguments session next =>
  unsetAll run (given.has 'f') next arguments session

/-- Makes variables local to the function that is being carried out. -/
def makeLocal (run : Runner) (next : Session → Task) : List String → Session → Task
  | [], session => next (session.withStatus 0)
  | word :: rest, session =>
    match session.locals with
    | [] => fail run "not in a function" session next
    | current :: outer =>
      let (name, value?) := splitAssignment word
      if !isName name then fail run (name ++ ": bad variable name") session next
      else
        let saved := if current.any fun held => held.1 = name then current
          else (name, session.binding? name) :: current
        let kept := { session with locals := saved :: outer }
        match value? with
        | none => makeLocal run next rest kept
        | some value =>
          match kept.assign name value with
          | .ok assigned => makeLocal run next rest assigned
          | .error complaint => fail run complaint session next

def localCommand : Builtin := fun run arguments session next =>
  if session.locals.isEmpty then fail run "not in a function" session next
  else makeLocal run next arguments session

/-! ### Other names for commands -/

/-- A name as it was given a meaning. -/
def aliasText (held : String × String) : String :=
  held.1 ++ "=" ++ singleQuoted held.2 ++ "\n"

/-- Gives names a meaning, or tells about it. -/
def aliasAll (next : Session → Task) : List String → Nat → Session → Task
  | [], code, session => next (session.withStatus code)
  | word :: rest, code, session =>
    match splitAssignment word with
    | (name, some text) =>
      let others := session.aliases.filter fun held => held.1 ≠ name
      aliasAll next rest code { session with aliases := others ++ [(name, text)] }
    | (name, none) =>
      match session.aliases.lookup name with
      | some text =>
        put (aliasText (name, text)) session (aliasAll next rest code) 0
      | none =>
        Program.tell ("alias: " ++ name ++ " not found\n") (aliasAll next rest 1 session)

def aliasCommand : Builtin := fun _ arguments session next =>
  if arguments.isEmpty then
    let listed := (List.range buckets).flatMap fun place =>
      session.aliases.filter fun held => bucket held.1 = place
    put (String.join (listed.map aliasText)) session next 0
  else aliasAll next arguments 0 session

/-- Takes the meaning of names away. -/
def unaliasAll (next : Session → Task) : List String → Nat → Session → Task
  | [], code, session => next (session.withStatus code)
  | name :: rest, code, session =>
    if session.aliases.any fun held => held.1 = name then
      unaliasAll next rest code
        { session with aliases := session.aliases.filter fun held => held.1 ≠ name }
    else
      Program.tell ("unalias: " ++ name ++ " not found\n") (unaliasAll next rest 1 session)

def unalias (given : Given) : Builtin := fun _ arguments session next =>
  if given.has 'a' then next { session with aliases := [], status := 0 }
  else unaliasAll next arguments 0 session

/-! ## Settings, jumps and scripts

The settings and arguments of the shell are changed, functions and loops are left, and other scripts
are carried out. -/

/-! ### Settings and arguments -/

/-- The options by their names. -/
def optionNames : List (String × Char) :=
  [("errexit", 'e'), ("noglob", 'f'), ("ignoreeof", 'I'), ("interactive", 'i'), ("monitor", 'm'),
    ("noexec", 'n'), ("stdin", 's'), ("xtrace", 'x'), ("verbose", 'v'), ("vi", 'V'),
    ("emacs", 'E'), ("noclobber", 'C'), ("allexport", 'a'), ("notify", 'b'), ("nounset", 'u')]

/-- Turns an option on or off. -/
def turn (on : Bool) (option : Char) (session : Session) : Session :=
  let others := session.options.filter (· ≠ option)
  { session with options := if on then option :: others else others }

/-- Reads the options that words set, and gives what is left of the words. A lonely sign of options
that stand for themselves leaves nothing; otherwise the rest become arguments. -/
def readSettings (on : Bool) : List Char → List String → Session →
    Except String (List String × Session)
  | [], rest, session => .ok (rest, session)
  | 'o' :: letters, rest, session =>
    match rest with
    | name :: rest =>
      match optionNames.lookup name with
      | some option => readSettings on letters rest (turn on option session)
      | none => .error ("Illegal option -o " ++ name)
    | [] => .ok ([], session)
  | letter :: letters, rest, session =>
    if optionNames.any fun held => held.2 = letter then
      readSettings on letters rest (turn on letter session)
    else .error ("Illegal option -" ++ letter.toString)

/-- Reads all words of options; gives the new arguments if there are any. -/
def setAll : Nat → List String → Session → Except String (Option (List String) × Session)
  | 0, _, session | _, [], session => .ok (none, session)
  | fuel + 1, word :: rest, session =>
    if word = "--" || word = "-" then .ok (some rest, session)
    else
      match word.toList with
      | '-' :: letters =>
        match readSettings true letters rest session with
        | .ok (rest, session) => setAll fuel rest session
        | .error complaint => .error complaint
      | '+' :: letters =>
        match readSettings false letters rest session with
        | .ok (rest, session) => setAll fuel rest session
        | .error complaint => .error complaint
      | _ => .ok (some (word :: rest), session)

/-- What is listed of the options. -/
def optionLines (render : String → Bool → String) (session : Session) : String :=
  let known := optionNames.map fun held => render held.1 (session.has held.2)
  String.join (known ++ ["privileged", "nolog", "debug"].map fun name => render name false)

def setCommand : Builtin := fun run arguments session next =>
  match arguments with
  | [] => put (listing "" (fun binding => binding.value.isSome) session) session next 0
  | ["-o"] =>
    let line (name : String) (on : Bool) : String :=
      name ++ String.ofList (List.replicate (16 - name.length) ' ')
        ++ (if on then "on" else "off") ++ "\n"
    put ("Current option settings\n" ++ optionLines line session) session next 0
  | ["+o"] =>
    let line (name : String) (on : Bool) : String :=
      "set " ++ (if on then "-o " else "+o ") ++ name ++ "\n"
    put (optionLines line session) session next 0
  | words =>
    match setAll (words.length + 1) words session with
    | .ok (some arguments, session) => next { session with arguments, status := 0 }
    | .ok (none, session) => next (session.withStatus 0)
    | .error complaint => fail run complaint session next

def shift : Builtin := fun run arguments session next =>
  let dropSome (count : Nat) : Task :=
    if session.arguments.length < count then fail run "can't shift that many" session next
    else next { session with arguments := session.arguments.drop count, status := 0 }
  match arguments with
  | [] => dropSome 1
  | word :: _ => withNumber run word session next dropSome

/-! ### Jumps -/

def exit : Builtin := fun run arguments session next =>
  match arguments with
  | [] => finish run session
  | word :: _ =>
    withNumber run word session next fun code => finish run (session.withStatus (code % 256))

def returnCommand : Builtin := fun run arguments session next =>
  let back (code : Nat) : Task := next { session with jump := some .back, status := code }
  match arguments with
  | [] => back session.status
  | word :: _ => withNumber run word session next fun code => back (code % 256)

/-- Leaves or repeats loops. -/
def jump (make : Nat → Jump) : Builtin := fun run arguments session next =>
  let leave (count : Nat) : Task :=
    let loops := min count session.loops
    next { session with
      jump := if loops = 0 then session.jump else some (make loops)
      status := 0 }
  match arguments with
  | [] => leave 1
  | word :: _ =>
    withNumber run word session next fun count =>
      if count = 0 then fail run ("Illegal number: " ++ word) session next else leave count

/-! ### Scripts -/

def eval : Builtin := fun run arguments session next =>
  let text := " ".intercalate arguments
  evaluate run (finish run) text (session.withStatus 0) next

/-- Carries out the script of a file. -/
def source : Builtin := fun run arguments session next =>
  let name := arguments.headD ""
  let file := 10
  let read (path : String) : Task :=
    .openFile file session.place path .read fun
      | .error fault =>
        let why := if fault = .missing then "No such file" else fault.message
        fail run ("cannot open " ++ path ++ ": " ++ why) session next
      | .ok () =>
        Program.readAll file (fun text => .close file
          (evaluate run (finish run) (text.toOption.getD "") (session.withStatus 0) fun session =>
            next (if session.jump = some .back then { session with jump := none } else session)))
          Program.patience ""
  let rec search : List String → Task
    | [] => fail run (name ++ ": not found") session next
    | path :: rest =>
      .look session.place path fun
        | .ok (_, .plain _) => read path
        | _ => search rest
  if arguments.isEmpty then next (session.withStatus 0)
  else if name.contains '/' then read name
  else search (Program.candidates name session.environment)

end RpcEndpoint.Shell.Builtin
