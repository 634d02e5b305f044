import RpcEndpoint.Process.Shell.Builtin.Table

/-!
# Redirections

For the time of a command files are opened under other numbers. What was there before is kept under
a high number and put back afterwards.
-/

namespace RpcEndpoint.Shell

/-- What was open under numbers that were used for something else; the last one stands first. -/
abbrev Kept := List (Nat × Option Nat)

/-- Puts back what was open before. -/
def restore : Kept → Task → Task
  | [], next => next
  | (file, some held) :: rest, next =>
    .duplicate held file fun _ => .close held (restore rest next)
  | (file, none) :: rest, next => .close file (restore rest next)

/-- Forgets what was open before. -/
def forget : Kept → Task → Task
  | [], next => next
  | (_, some held) :: rest, next => .close held (forget rest next)
  | (_, none) :: rest, next => forget rest next

/-- Why a file cannot be opened. -/
def openingFault (direction : Direction) (path : String) (fault : SystemFault) : String :=
  let isAbsent := fault = .missing || fault = .notDirectory
  match direction with
  | .fromFile =>
    "cannot open " ++ path ++ ": " ++ (if isAbsent then "No such file" else fault.message)
  | _ =>
    "cannot create " ++ path ++ ": "
      ++ (if isAbsent then "Directory nonexistent" else fault.message)

def accessOf : Direction → Access
  | .fromFile => .read
  | .toEnd => .append
  | .bothWays => .readWrite
  | .toFile | .toFileAnyway | .toNumber => .write

/-- Opens a file under a number, or complains. -/
def openDirected (number : Nat) (direction : Direction) (target : String) (session : Session)
    (next bad : Session → Task) : Task :=
  let refuse (complaint : String) : Task :=
    session.complain complaint (bad (session.withStatus 2))
  match direction with
  | .toNumber =>
    if target = "-" then .close number (next session)
    else
      match target.toNat? with
      | some source =>
        if source = number then next session
        else
          .duplicate source number fun
            | .ok () => next session
            | .error fault => refuse (target ++ ": " ++ fault.message)
      | none => refuse "Syntax error: Bad fd number"
  | _ =>
    let attempt : Task := .openFile number session.place target (accessOf direction) fun
      | .ok () => next session
      | .error fault => refuse (openingFault direction target fault)
    if direction = .toFile && session.has 'C' then
      .look session.place target fun
        | .ok (_, .plain _) => refuse ("cannot create " ++ target ++ ": File exists")
        | _ => attempt
    else attempt

/-- Carries out redirections one after another. -/
def redirect (run : Runner) (next bad : Session → Kept → Task) :
    List Redirection → Session → Kept → Task
  | [], session, kept => next session kept
  | redirection :: rest, session, kept =>
    let keep (number : Nat) (opening : Kept → Task) : Task :=
      .save number fun held =>
        let isKnown := kept.any fun before => before.1 = number
        match held with
        | some copy =>
          if isKnown then .close copy (opening kept) else opening ((number, held) :: kept)
        | none => opening (if isKnown then kept else (number, none) :: kept)
    match redirection with
    | .document number document =>
      expandText run ((session.documents.lookup document).getD []) session fun session text =>
        keep number fun kept =>
          .openContent number (Octets.toBytes text) (redirect run next bad rest session kept)
    | .file number direction target =>
      expandText run target session fun session path =>
        keep number fun kept =>
          openDirected number direction path session
            (fun session => redirect run next bad rest session kept)
            (fun session => bad session kept)

end RpcEndpoint.Shell
