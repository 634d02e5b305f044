import RpcEndpoint.Process.Shell.Arithmetic
import RpcEndpoint.Process.Shell.Pattern

/-!
# Expansion

What a word stands for: its parts become pieces of text, which are divided into fields where
something unquoted was put in.
-/

namespace RpcEndpoint.Shell

/-- Where a piece of text comes from. -/
inductive Origin where
  /-- It stands in the script without quotes. -/
  | script
  | quotes
  /-- It was put in without quotes, and may be divided. -/
  | value
deriving Repr, DecidableEq

/-- A piece of what a word stands for. -/
inductive Piece where
  | text (text : String) (origin : Origin)
  /-- Fields are divided here. -/
  | cut
deriving Repr, DecidableEq

namespace Piece

/-! ## One text -/

/-- The pieces as one text. -/
def join (joint : String) (pieces : List Piece) : String :=
  String.join (pieces.map fun
    | .text held _ => held
    | .cut => joint)

/-- The pieces as a pattern. -/
def marked (pieces : List Piece) : Pattern.Marked :=
  pieces.flatMap fun
    | .text held origin => held.toList.map fun character => (character, origin = .quotes)
    | .cut => [(' ', true)]

/-! ## Fields -/

/-- Fields on their way; the last one stands first, and so does its last character. -/
structure Fields where
  complete : List Pattern.Marked
  current : Pattern.Marked
  /-- Whether there is a field, even if it is empty. -/
  isThere : Bool
  /-- Whether a blank has just ended a field, so that a separator behind it ends no other one. -/
  ended : Bool

namespace Fields

def close (fields : Fields) : Fields :=
  { fields with
    complete := fields.current.reverse :: fields.complete
    current := []
    isThere := false }

/-- Ends a field if there is one. -/
def closeIfThere (fields : Fields) : Fields :=
  if fields.isThere then fields.close else fields

/-- Takes a character that was put in. -/
def takeValue (separators : List Char) (fields : Fields) (character : Char) : Fields :=
  if !separators.contains character then
    { fields with
      current := (character, false) :: fields.current
      isThere := true
      ended := false }
  else if [' ', '\t', '\n'].contains character then
    if fields.isThere then { fields.close with ended := true } else fields
  else if fields.ended && !fields.isThere then { fields with ended := false }
  else { fields.close with ended := false }

/-- Takes a piece. -/
def take (separators : List Char) (fields : Fields) : Piece → Fields
  | .cut => { fields.closeIfThere with ended := false }
  | .text held .value => held.toList.foldl (takeValue separators) fields
  | .text held origin =>
    if held.isEmpty && origin = .script then fields
    else
      let mark (character : Char) : Char × Bool := (character, origin = .quotes)
      { fields with
        current := held.toList.reverse.map mark ++ fields.current
        isThere := true
        ended := false }

end Fields

/-- The fields of pieces, in which patterns are still patterns. -/
def fields (separators : String) (pieces : List Piece) : List Pattern.Marked :=
  let taken := pieces.foldl (Fields.take separators.toList) ⟨[], [], false, false⟩
  taken.closeIfThere.complete.reverse

end Piece

/-! ## Values -/

/-- What is done with the pieces of a word, and with what is known then. -/
abbrev WithPieces := Session → List Piece → Task

/-- The arguments as pieces. -/
def argumentPieces (joined quoted : Bool) (session : Session) : List Piece :=
  let texts := session.arguments.map fun argument =>
    Piece.text argument (if quoted then .quotes else .value)
  if joined && quoted then
    [.text (session.joint.intercalate session.arguments) .quotes]
  else texts.intersperse .cut

/-- What a variable is called that has no value, or an empty one. -/
def absence (name : String) (orEmpty : Bool) : String :=
  name ++ ": parameter not set" ++ (if orEmpty then " or null" else "")

/-- The value of a parameter, if it has one; a list counts as a text here. -/
def textOf? (name : String) (session : Session) : Option String :=
  if name = "@" || name = "*" then
    if session.arguments.isEmpty then none else some (" ".intercalate session.arguments)
  else session.parameter? name

/-- The value of a parameter as pieces. -/
def valuePieces (name : String) (quoted : Bool) (session : Session) : List Piece :=
  if name = "@" || name = "*" then argumentPieces (name = "*") quoted session
  else [.text ((session.parameter? name).getD "") (if quoted then .quotes else .value)]

/-- Pieces of another text that was put in the place of a value. Between quotes there is a text in
any case. -/
def asValue (quoted : Bool) (pieces : List Piece) : List Piece :=
  (if quoted then [.text "" .quotes] else []) ++ pieces.map fun
    | .text text .script => .text text (if quoted then .quotes else .value)
    | piece => piece

/-- The length of a value. -/
def lengthOf (name : String) (session : Session) : Nat :=
  if name = "@" || name = "*" then session.arguments.length
  else ((session.parameter? name).getD "").length

/-! ## The output of commands -/

/-- How a process that a shell starts begins: what was to be done at signals is forgotten. -/
def forgetTraps (session : Session) (next : Session → Task) : Task :=
  let actions := session.traps.filter fun trap => !trap.2.isEmpty
  let reset := actions.foldr (fun trap next =>
    if trap.1 = 0 then next else .treat trap.1 .standard next)
  reset (next { session with
    traps := session.traps.filter fun trap => trap.2.isEmpty
    jump := none
    loops := 0 })

/-- Carries out commands in a process of their own and gives their output without the line ends at
its end. -/
def outputOf (run : Runner) (body : Command) (session : Session)
    (next : Session → String → Task) : Task :=
  .openPipe fun drain feed =>
    let child : Task :=
      .duplicate feed 1 fun _ => .close drain (.close feed
        (forgetTraps session fun session => run ⟨false, true⟩ body session (finish run)))
    .fork child fun number =>
      .close feed (Program.readAll drain (fun text =>
        .close drain (.wait (some number) false fun outcome =>
          let status := match outcome with
            | .ok (_, .code code) => code
            | .ok (_, .signal signal) => 128 + signal
            | .error _ => 0
          let characters := (text.toOption.getD "").toList.filter (·.toNat ≠ 0)
          let kept := (characters.reverse.dropWhile (· = '\n')).reverse
          next { session with substituted := status, status } (String.ofList kept)))
        Program.patience "")

/-! ## Homes -/

/-- Where users are at home. -/
def homes : List (String × String) :=
  [("root", "/root"), ("daemon", "/usr/sbin"), ("bin", "/bin"), ("sys", "/dev"),
    ("games", "/usr/games"), ("mail", "/var/mail"), ("www-data", "/var/www"),
    ("nobody", "/nonexistent")]

/-- Where the user of a name is at home; without a name it is the own one. -/
def homeOf? (name : String) (session : Session) : Option String :=
  if name.isEmpty then session.value? "HOME" else homes.lookup name

/-- A text with a home in the place of a tilde at its beginning. The name of a user must end in the
text, unless nothing comes after it. -/
def withHome (isLast : Bool) (text : String) (session : Session) : Word :=
  match text.toList with
  | '~' :: characters =>
    let name := characters.takeWhile (· ≠ '/')
    let after := characters.drop name.length
    match homeOf? (String.ofList name) session with
    | some home =>
      if !after.isEmpty || isLast then
        [.text home (!home.isEmpty), .text (String.ofList after) false]
      else [.text text false]
    | none => [.text text false]
  | _ => [.text text false]

/-- A word with a home in the place of a tilde at its beginning. -/
def atHome (session : Session) : Word → Word
  | .text text false :: rest => withHome rest.isEmpty text session ++ rest
  | word => word

/-- Texts with colons between them, each with a home in the place of a tilde at its beginning. -/
def withHomes (isLast : Bool) (session : Session) : List String → Word
  | [] => []
  | [text] => withHome isLast text session
  | text :: rest => withHome true text session ++ .text ":" false :: withHomes isLast session rest

/-- A value with homes in the place of tildes at its beginning and behind colons. -/
def atHomes (session : Session) (value : Word) : Word :=
  let rec behind : Word → Word
    | [] => []
    | .text text false :: rest =>
      (match text.splitOn ":" with
      | first :: second :: others =>
        .text (first ++ ":") false :: withHomes rest.isEmpty session (second :: others)
      | _ => [.text text false]) ++ behind rest
    | part :: rest => part :: behind rest
  match value with
  | .text text false :: rest => withHomes rest.isEmpty session (text.splitOn ":") ++ behind rest
  | word => behind word

/-! ## Words -/

/-- What a part stands for, given what its inner words stand for. -/
def expandPart (run : Runner) (inner : Word → Session → WithPieces → Task) (part : Part)
    (session : Session) (next : WithPieces) : Task :=
  let origin (quoted : Bool) : Origin := if quoted then .quotes else .value
  let give (session : Session) (text : String) (quoted : Bool) : Task :=
    next session [.text text (origin quoted)]
  match part with
  | .text text quoted => next session [.text text (if quoted then .quotes else .script)]
  | .commands .nothing quoted => give session "" quoted
  | .commands body quoted =>
    outputOf run body session fun session text => give session text quoted
  | .arithmetic expression =>
    inner expression session fun session pieces =>
      match Arithmetic.value (Piece.join " " pieces) session with
      | .ok (value, session) => give session (toString value) true
      | .error complaint => abort run complaint session
  | .parameter name use operand quoted =>
    let value? := textOf? name session
    let isMissing (orEmpty : Bool) : Bool :=
      match value? with
      | none => true
      | some value => orEmpty && value.isEmpty
    let isForbidden := value?.isNone && session.has 'u' && name ≠ "@" && name ≠ "*"
    let plain (session : Session) : Task := next session (valuePieces name quoted session)
    let housed := if quoted then operand else atHome session operand
    let instead : Task :=
      inner housed session fun session pieces => next session (asValue quoted pieces)
    match use with
    | .value =>
      if isForbidden then abort run (absence name false) session else plain session
    | .length =>
      if isForbidden then abort run (absence name false) session
      else give session (toString (lengthOf name session)) quoted
    | .instead orEmpty => if isMissing orEmpty then instead else plain session
    | .replaced orEmpty =>
      if isMissing orEmpty then next session (asValue quoted []) else instead
    | .assigned orEmpty =>
      if isMissing orEmpty then
        if isName name then
          inner housed session fun session pieces =>
            match session.assign name (Piece.join session.joint pieces) with
            | .ok session => plain session
            | .error complaint => abort run complaint session
        else abort run (name ++ ": bad variable name") session
      else plain session
    | .required orEmpty =>
      if isMissing orEmpty then
        if operand.isEmpty then abort run (absence name orEmpty) session
        else
          inner housed session fun session pieces =>
            abort run (name ++ ": " ++ Piece.join session.joint pieces) session
      else plain session
    | .withoutBeginning longest =>
      if isForbidden then abort run (absence name false) session
      else
        inner (atHome session operand) session fun session pieces =>
          let pattern := Pattern.ofMarked (Piece.marked pieces)
          give session (Pattern.dropBeginning longest pattern (value?.getD "")) quoted
    | .withoutEnd longest =>
      if isForbidden then abort run (absence name false) session
      else
        inner (atHome session operand) session fun session pieces =>
          let pattern := Pattern.ofMarked (Piece.marked pieces)
          give session (Pattern.dropEnding longest pattern (value?.getD "")) quoted
    | .senseless => abort run "Bad substitution" session

/-- What a word stands for, to some depth. The pieces before come with the last one first. -/
def expandParts (run : Runner) :
    Nat → Word → Session → List Piece → WithPieces → Task
  | 0, _, session, before, next => next session before.reverse
  | _, [], session, before, next => next session before.reverse
  | fuel + 1, part :: rest, session, before, next =>
    expandPart run (fun word session next => expandParts run fuel word session [] next) part
      session fun session pieces =>
        expandParts run fuel rest session (pieces.reverse ++ before) next

/-- The depth to which words may be nested, and how many parts they may have. -/
def greatestWord : Nat := 1000000

/-- What a word stands for, as pieces. -/
def expand (run : Runner) (word : Word) (session : Session) (next : WithPieces) : Task :=
  expandParts run greatestWord (atHome session word) session [] next

/-- What a word stands for, as one text. -/
def expandText (run : Runner) (word : Word) (session : Session)
    (next : Session → String → Task) : Task :=
  expand run word session fun session pieces => next session (Piece.join session.joint pieces)

/-- What pieces stand for, as fields; patterns become paths, unless that is not wanted. -/
def toFields (pieces : List Piece) (session : Session) (next : List String → Task) : Task :=
  let fields := Piece.fields session.separators pieces
  if session.has 'f' then next (fields.map Paths.textOf)
  else Paths.expandAll session.place next fields []

/-- What a value stands for that is to be assigned. -/
def expandValue (run : Runner) (value : Word) (session : Session)
    (next : Session → String → Task) : Task :=
  expandParts run greatestWord (atHomes session value) session [] fun session pieces =>
    next session (Piece.join session.joint pieces)

/-- What words stand for, as fields. -/
def expandFields (run : Runner) : List Word → Session → List String →
    (Session → List String → Task) → Task
  | [], session, before, next => next session before
  | word :: rest, session, before, next =>
    expand run word session fun session pieces =>
      toFields pieces session fun fields =>
        expandFields run rest session (before ++ fields) next

end RpcEndpoint.Shell
