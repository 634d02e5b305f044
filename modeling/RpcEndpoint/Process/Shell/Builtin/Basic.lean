import RpcEndpoint.Process.Shell.Expansion

/-!
# What commands of the shell itself have in common

They change what the shell knows, or ask the system for what only the shell may ask for. Some of
them are special: a mistake in one of these ends the shell.
-/

namespace RpcEndpoint.Shell

/-- A command of the shell: it takes arguments. -/
abbrev Builtin := Runner → List String → Session → (Session → Task) → Task

namespace Builtin

/-- The commands in which a mistake ends the shell. -/
def specials : List String :=
  [".", ":", "break", "continue", "eval", "exec", "exit", "export", "local", "readonly", "return",
    "set", "shift", "times", "trap", "unset"]

/-! ## Output and complaints -/

/-- Writes a text to the output. -/
def put (text : String) (session : Session) (next : Session → Task) (code : Nat) : Task :=
  if text.isEmpty then next (session.withStatus code)
  else
    .write 1 (Octets.toBytes text) fun
      | .ok () => next (session.withStatus code)
      | .error _ =>
        session.complain (session.command.getD "" ++ ": I/O error") (next (session.withStatus 1))

/-- Complains about a mistake. -/
def fail (run : Runner) (complaint : String) (session : Session) (next : Session → Task) : Task :=
  let failed := session.withStatus 2
  session.complain complaint
    (if session.command.any specials.contains && !session.lenient then finish run failed
      else next failed)

/-- The number that an argument must be. -/
def withNumber (run : Runner) (argument : String) (session : Session) (next : Session → Task)
    (found : Nat → Task) : Task :=
  match argument.toNat? with
  | some number =>
    if argument.toList.all Char.isDigit && number ≤ 0x7FFFFFFF then found number
    else fail run ("Illegal number: " ++ argument) session next
  | none => fail run ("Illegal number: " ++ argument) session next

/-- A text between single quotes. -/
def singleQuoted (text : String) : String :=
  "'" ++ text.replace "'" "'\"'\"'" ++ "'"

/-! ## Options -/

/-- The options of a call, each with its argument. -/
abbrev Given := List (Char × String)

def Given.has (option : Char) (given : Given) : Bool :=
  given.any fun one => one.1 = option

/-- What the letters say about one of them: whether it takes an argument, if it is known at all. -/
def takesArgument? (letter : Char) : List Char → Option Bool
  | [] => none
  | known :: ':' :: rest =>
    if known = letter then some true else takesArgument? letter rest
  | known :: rest => if known = letter then some false else takesArgument? letter rest

/-- Reads the letters of a word of options. Some of them take what stands behind them. -/
def readLetters (known : List Char) :
    List Char → List String → Except String (Given × List String)
  | [], rest => .ok ([], rest)
  | letter :: more, rest =>
    match takesArgument? letter known with
    | none => .error ("Illegal option -" ++ letter.toString)
    | some false => do
      let (given, left) ← readLetters known more rest
      pure ((letter, "") :: given, left)
    | some true =>
      match more, rest with
      | [], argument :: left => .ok ([(letter, argument)], left)
      | [], [] => .error ("No arg for -" ++ letter.toString ++ " option")
      | _, _ => .ok ([(letter, String.ofList more)], rest)

/-- Reads the options in front of other words, so many words at the most. -/
def readGiven (known : List Char) : Nat → List String → Except String (Given × List String)
  | 0, words => .ok ([], words)
  | _, [] => .ok ([], [])
  | fuel + 1, word :: rest =>
    if word = "--" then .ok ([], rest)
    else if word.startsWith "-" && word ≠ "-" then do
      let (given, left) ← readLetters known (word.toList.drop 1) rest
      let (more, left) ← readGiven known fuel left
      pure (given ++ more, left)
    else .ok ([], word :: rest)

/-- A command that knows some options. A colon stands behind those that take an argument. -/
def withOptions (known : String) (command : Given → Builtin) : Builtin :=
  fun run arguments session next =>
    match readGiven known.toList (arguments.length + 1) arguments with
    | .ok (given, rest) => command given run rest session next
    | .error complaint => fail run complaint session next

/-- A command that knows no options. -/
def withoutOptions (command : Builtin) : Builtin :=
  withOptions "" fun _ => command

end Builtin

end RpcEndpoint.Shell
