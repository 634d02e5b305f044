import RpcEndpoint.Process.Shell.Execution

/-!
# The shell as a program

A shell carries out a script that stands in its arguments, in a file or in its input.
-/

namespace RpcEndpoint.Shell

/-- What the arguments of a shell ask for. -/
structure Invocation where
  /-- Whether the script is an argument. -/
  isGiven : Bool
  /-- Whether the script is the input in any case. -/
  isInput : Bool
  options : List Char
  operands : List String

namespace Invocation

/-- Reads the letters of a word of options. -/
def readLetters (on : Bool) : List Char → List String → Invocation →
    Except String (List String × Invocation)
  | [], rest, invocation => .ok (rest, invocation)
  | letter :: letters, rest, invocation =>
    let turned (option : Char) : Invocation :=
      let others := invocation.options.filter (· ≠ option)
      { invocation with options := if on then option :: others else others }
    if letter = 'c' && on then readLetters on letters rest { invocation with isGiven := true }
    else if letter = 's' then
      readLetters on letters rest { turned 's' with isInput := on }
    else if letter = 'o' then
      match rest with
      | name :: rest =>
        match Builtin.optionNames.lookup name with
        | some option => readLetters on letters rest (turned option)
        | none => .error ("Illegal option -o " ++ name)
      | [] => readLetters on letters [] invocation
    else if Builtin.optionNames.any fun held => held.2 = letter then
      readLetters on letters rest (turned letter)
    else .error ("Illegal option -" ++ letter.toString)

/-- Reads the arguments of a shell. -/
def read : Nat → List String → Invocation → Except String Invocation
  | 0, _, invocation | _, [], invocation => .ok invocation
  | fuel + 1, word :: rest, invocation =>
    if word = "-" || word = "--" then .ok { invocation with operands := rest }
    else
      match word.toList with
      | '-' :: letters =>
        match readLetters true letters rest invocation with
        | .ok (rest, invocation) => read fuel rest invocation
        | .error complaint => .error complaint
      | '+' :: letters =>
        match readLetters false letters rest invocation with
        | .ok (rest, invocation) => read fuel rest invocation
        | .error complaint => .error complaint
      | _ => .ok { invocation with operands := word :: rest }

end Invocation

/-! ## The beginning -/

/-- Where programs are looked for if the surroundings say nothing. -/
def searchPath : String :=
  "/usr/local/sbin:/usr/local/bin:/usr/sbin:/usr/bin:/sbin:/bin"

/-- The variables that a shell begins with. -/
def firstBindings (surroundings : Surroundings) (path : String) (parent : Nat) : List Binding :=
  let named := surroundings.environment.filter fun held => isName held.1
  -- Of several values of a variable the last one counts.
  let given := named.zipIdx.filterMap fun (held, index) =>
    if (named.drop (index + 1)).any fun later => later.1 = held.1 then none
    else some (Binding.mk held.1 (some held.2) true false)
  let standard : List (String × String) :=
    [("IFS", " \t\n"), ("OPTIND", "1"), ("PPID", toString parent)]
  let fallback : List (String × String) :=
    [("PATH", searchPath), ("PS1", "# "), ("PS2", "> "), ("PS4", "+ ")]
  let isGiven (name : String) : Bool := given.any fun binding => binding.name = name
  let kept := given.filter fun binding =>
    !(standard.any fun held => held.1 = binding.name) && binding.name ≠ "PWD"
  kept ++ standard.map (fun held => ⟨held.1, some held.2, isGiven held.1, false⟩)
    ++ (fallback.filter fun held => !isGiven held.1).map
      (fun held => ⟨held.1, some held.2, false, false⟩)
    ++ [⟨"PWD", some path, true, false⟩]

/-- What a shell knows at first. -/
def firstSession (name : String) (arguments : List String) (options : List Char)
    (surroundings : Surroundings) (path : String) (number parent : Nat) : Session where
  name
  arguments
  bindings := firstBindings surroundings path parent
  functions := []
  aliases := []
  documents := []
  fresh := 0
  status := 0
  substituted := 0
  line := 0
  jump := none
  loops := 0
  locals := []
  options
  traps := []
  aside := none
  number
  parent
  place := surroundings.directory
  path
  mask := surroundings.mask
  limits := surroundings.limits
  command := none
  lenient := false
  ended := []
  optionOffset := 0

/-- The way to where a shell is: that of its parent if it leads there. -/
def withPath (surroundings : Surroundings) (next : String → Task) : Task :=
  let physical := FileSystem.pathOf surroundings.directory
  match surroundings.environment.lookup "PWD" with
  | some path =>
    if path.startsWith "/" then
      .look [] path fun found =>
        next (match found with
          | .ok (place, .directory) => if place = surroundings.directory then path else physical
          | _ => physical)
    else next physical
  | none => next physical

/-! ## Scripts from the input -/

/-- Whether more input could make another thing of what has been read of a line. -/
def isUnfinished (source : Source) : Bool :=
  source.rest.isEmpty && (match source.ahead with
    | some .ending => true
    | _ => false)

/-- Carries out the lines of the input as they come. -/
def runInput (run : Runner) : Nat → Source → Bool → Session → Task
  | 0, _, _, session => finish run session
  | fuel + 1, source, isEnded, session =>
    let readMore : Task :=
      .read 0 Program.pieceSize fun
        | .ok [] => runInput run fuel source true session
        | .ok bytes =>
          let more := (Octets.ofBytes bytes).toList
          runInput run fuel { source with rest := source.rest ++ more, ahead := none } false session
        | .error _ => runInput run fuel source true session
    if source.rest.isEmpty then if isEnded then finish run session else readMore
    else
      match Source.nextLine
          { source with fresh := session.fresh, aliases := session.aliases } with
      | .error blunder =>
        if isEnded then
          let session := { session with line := blunder.line }
          session.complain ("Syntax error: " ++ blunder.message)
            (finish run (session.withStatus 2))
        else if source.rest.contains '\n' && !blunder.message.startsWith "end of file" then
          let session := { session with line := blunder.line }
          session.complain ("Syntax error: " ++ blunder.message)
            (finish run (session.withStatus 2))
        else readMore
      | .ok (none, _) => if isEnded then finish run session else readMore
      | .ok (some command, rest) =>
        if isUnfinished rest && !isEnded then readMore
        else
          let known := { session with
            documents := rest.documents ++ session.documents
            fresh := rest.fresh }
          run ⟨false, false⟩ command known fun session =>
            if session.jump.isSome then finish run session
            else runInput run fuel { rest with documents := [] } isEnded session

/-! ## The program -/

/-- The runner of a shell. -/
def runner : Runner := carryOut greatestNesting

/-- Where a shell keeps the file of its script open. -/
def scriptFile : Nat := 10

/-- Carries out what an invocation asks for. -/
def start (name : String) (invocation : Invocation) (session : Session) : Task :=
  let complain (complaint : String) : Task :=
    session.complain complaint (.exitWith 2)
  let go (session : Session) (script : String) : Task :=
    evaluate runner (finish runner) script session (finish runner)
  if invocation.isGiven then
    match invocation.operands with
    | [] => complain "-c requires an argument"
    | script :: rest => go { session with name := rest.headD name, arguments := rest.drop 1 } script
  else
    match invocation.operands, invocation.isInput with
    | file :: rest, false =>
      .openFile scriptFile session.place file .read fun
        | .error fault =>
          let isAbsent := fault = .missing || fault = .notDirectory
          complain ("cannot open " ++ file ++ ": "
            ++ (if isAbsent then "No such file" else fault.message))
        | .ok () =>
          Program.readAll scriptFile (fun text => .close scriptFile
            (go { session with name := file, arguments := rest } (text.toOption.getD "")))
            Program.patience ""
    | operands, _ =>
      runInput runner Program.patience (.ofText "" 1 0) false
        { session with arguments := operands, options := 's' :: session.options.filter (· ≠ 's') }

/-- The shell. -/
def program : Program := fun name arguments surroundings =>
  withPath surroundings fun path =>
    .numbers fun number parent =>
      let session := firstSession name [] [] surroundings path number parent
      match Invocation.read (arguments.length + 1) arguments ⟨false, false, [], []⟩ with
      | .error complaint => session.complain complaint (.exitWith 2)
      | .ok invocation => start name invocation { session with options := invocation.options }

end RpcEndpoint.Shell
