import RpcEndpoint.Process.Program.Editor.Desk
import RpcEndpoint.Process.Program.Filter

/-!
# The editor

A script is carried out for the lines of a file, and for the files of a call.
-/

namespace RpcEndpoint.Editor

/-! ## Editing lines

A line is read, the script is carried out, and what has become of the line is put out. -/

/-- Whether the script asks which line is the last one. -/
def asksForLast (edits : List Edit) : Bool :=
  edits.any fun edit =>
    (match edit.first with
    | some .last => true
    | _ => false) || (match edit.limit with
    | some (.address .last) => true
    | _ => false)

/-- Goes on with the next line. What becomes of its text is said by the first function. -/
def withNext (setting : Setting) (desk : Desk) (place : String → Desk → Desk)
    (without : Desk → Task) (next : Desk → Task) : Task :=
  desk.input.takeLine setting.name fun line? input =>
    let desk := { desk with input }
    match line? with
    | none => without desk
    | some (line, isEnded) =>
      let moved := place line { desk with isEnded, number := desk.number + 1 }
      if asksForLast setting.edits then
        moved.input.hasMore setting.name fun more input =>
          next { moved with input, isLast := !more }
      else next moved

/-- Whether an edit needs the expression that was used last. -/
def needsUsed (edit : Edit) : Bool :=
  match edit.first, edit.action with
  | some (.having none), _ => true
  | _, .substitute substitution => edit.first.isNone && substitution.expression.isNone
  | _, _ => false

/-- What comes after the last edit. -/
inductive Outcome where
  /-- The line is put out. -/
  | usual
  | dropped
  /-- The script begins again without reading a line. -/
  | again
  /-- There are no more lines. -/
  | over
  /-- The program ends with a code. -/
  | left (code : Nat)

/-- Carries out the edits from one on, so many at the most. -/
def carryOut (setting : Setting) (next : Outcome → Desk → Task) : Nat → Nat → Desk → Task
  | 0, _, desk => next .usual desk
  | fuel + 1, index, desk =>
    match setting.edits[index]? with
    | none => next .usual desk
    | some edit =>
      let goOn := carryOut setting next fuel (index + 1)
      let goTo (label : String) (desk : Desk) : Task :=
        if label.isEmpty then next .usual desk
        else carryOut setting next fuel ((find? setting.edits label).getD index) desk
      let (isMeant, desk) := desk.selects index edit
      if desk.used.isNone && needsUsed edit then
        Program.fail setting.name "-e expression #1, char 0: no previous regular expression" 1
      else if isMeant = edit.negated then
        match edit.action with
        | .block length => carryOut setting next fuel (index + 1 + length) desk
        | _ => goOn desk
      else
        match edit.action with
        | .block _ | .nothing | .label _ => goOn desk
        | .substitute substitution =>
          match substitution.expression <|> desk.used with
          | none => goOn desk
          | some expression =>
            let desk := { desk with used := some expression }
            match substituted? expression substitution desk.text with
            | none => goOn desk
            | some text =>
              let desk := { desk with text, replaced := true }
              let desk := if substitution.prints then desk.emitLine setting text else desk
              match substitution.file? with
              | some path => desk.writeLine setting path text goOn
              | none => goOn desk
        | .replace table =>
          goOn { desk with
            text := desk.text.map fun character => (table.lookup character).getD character }
        | .print => goOn (desk.emitLine setting desk.text)
        | .printFirst => goOn (desk.emitLine setting (splitLine setting.mark desk.text).1)
        | .delete => next .dropped desk
        | .deleteFirst =>
          match (splitLine setting.mark desk.text).2 with
          | none => next .dropped desk
          | some text => next .again { desk with text }
        | .quit code prints =>
          if prints then
            desk.close setting true fun desk =>
              -- The program does not end in the middle of a line.
              let ending := if desk.lacking.contains "" then setting.mark else ""
              next (.left code) { desk with stored := desk.stored ++ ending }
          else next (.left code) desk
        | .tellNumber => goOn (desk.emit (toString desk.number ++ "\n"))
        | .next =>
          desk.input.hasMore setting.name fun more input =>
            let desk := { desk with input }
            desk.close setting true fun desk =>
              if more then
                withNext setting desk (fun text desk => { desk with text })
                  (next .over) goOn
              else next .over desk
        | .join =>
          desk.input.hasMore setting.name fun more input =>
            let desk := { desk with input }
            desk.close setting (!more) fun desk =>
              if more then
                withNext setting desk
                  (fun text desk => { desk with text := desk.text ++ setting.mark ++ text })
                  (next .over) goOn
              else next .over desk
        | .append text => goOn { desk with queue := .text text :: desk.queue }
        | .readFile path => goOn { desk with queue := .file path :: desk.queue }
        | .readLine path => goOn { desk with queue := .line path :: desk.queue }
        | .writeFile path isFirst =>
          desk.writeLine setting path
            (if isFirst then (splitLine setting.mark desk.text).1 else desk.text) goOn
        | .tellFile => goOn (desk.emit (desk.input.current ++ "\n"))
        | .insert text => goOn (desk.emit text)
        | .change text =>
          next .dropped
            (if edit.negated || desk.isRangeOver index edit then desk.emit text else desk)
        | .reveal width? =>
          let width? := ((width?.or setting.width?).filter (0 < ·)).map (· - 1)
          goOn (desk.emit (revealed width? 0 desk.text.toList))
        | .hold => goOn { desk with held := desk.text, isHeldEnded := desk.isEnded }
        | .holdMore =>
          goOn { desk with held := desk.held ++ setting.mark ++ desk.text, isHeldEnded := desk.isEnded }
        | .fetch => goOn { desk with text := desk.held, isEnded := desk.isHeldEnded }
        | .fetchMore =>
          goOn { desk with text := desk.text ++ setting.mark ++ desk.held, isEnded := desk.isHeldEnded }
        | .exchange =>
          goOn { desk with
            text := desk.held
            held := desk.text
            isEnded := desk.isHeldEnded
            isHeldEnded := desk.isEnded }
        | .clear => goOn { desk with text := "" }
        | .jump label ifReplaced =>
          let cleared := if ifReplaced.isSome then { desk with replaced := false } else desk
          if ifReplaced.all (· = desk.replaced) then goTo label cleared else goOn cleared

/-- Edits one line after another, so many at the most. At the end it is told whether the program
ends, and with which code. -/
def editLines (setting : Setting) (finish : Option Nat → Desk → Task) : Nat → Bool → Desk → Task
  | 0, _, desk => finish none desk
  | fuel + 1, keepsText, desk =>
    let work (desk : Desk) : Task :=
      carryOut setting (fun outcome desk =>
        let close (prints again : Bool) : Task :=
          desk.close setting prints (editLines setting finish fuel again)
        match outcome with
        | .usual => close true false
        | .dropped => close false false
        | .again => close false true
        | .over => finish none desk
        | .left code => finish (some code) desk)
        Program.patience 0 desk
    if keepsText then work desk
    else
      withNext setting desk (fun text desk => { desk with text, replaced := false })
        (finish none) work

/-! ## The editor as a program

The script is given in the call or in files. Files are edited as one, or each by itself; a file may
be replaced by what has become of it. -/

/-! ### Files by themselves -/

/-- What has become of the files so far. -/
structure Progress where
  failed : Bool
  lacking : List String

/-- The name under which a file is kept that is replaced. A star stands for its own name. -/
def keptName (path mark : String) : String :=
  let steps := path.splitOn "/"
  let own := steps.getLastD ""
  let name := if mark.contains '*' then mark.replace "*" own else own ++ mark
  if name.contains '/' then name else "/".intercalate (steps.dropLast ++ [name])

/-- Writes a file anew. -/
def rewrite (setting : Setting) (base : Place) (path content : String)
    (next : Task) : Task :=
  .openFile Desk.sideFile base path .write fun
    | .error fault =>
      Program.fail setting.name ("cannot rename " ++ path ++ ": " ++ fault.message) 4
    | .ok () => .write Desk.sideFile (Octets.toBytes content) fun _ => next

/-- Puts what has become of a file in its place, and keeps the file under another name if that is
wanted. -/
def putInPlace (setting : Setting) (base : Place) (path mark content : String) (next : Task) :
    Task :=
  if mark.isEmpty then rewrite setting base path content next
  else
    Desk.withContent base path fun before =>
      rewrite setting base (keptName path mark) before (rewrite setting base path content next)

/-- Edits some files one by one. The mark of the names under which they are kept is known if they
are replaced. -/
def editEach (setting : Setting) (base : Place) (mark? : Option String) :
    List String → Progress → Task
  | [], progress => .exitWith (if progress.failed then 2 else 0)
  | path :: rest, progress =>
    let edit : Task :=
      editLines setting (fun code? desk =>
        let progress : Progress := ⟨progress.failed || desk.input.failed, desk.lacking⟩
        let goOn : Task :=
          match code? with
          | some code => .exitWith (if progress.failed then 2 else code)
          | none => editEach setting base mark? rest progress
        match mark? with
        | some mark =>
          if desk.input.failed then goOn
          else putInPlace setting base path mark desk.stored goOn
        | none => Program.put setting.name desk.stored goOn)
        Program.patience false
        (Desk.start setting (if mark?.isSome then [] else progress.lacking) base [path])
    if mark?.isNone then edit
    else
      .look base path fun
        | .ok (_, .directory) =>
          Program.fail setting.name ("couldn't edit " ++ path ++ ": not a regular file") 4
        | _ => edit

/-! ### Calls -/

def options : Program.Options where
  plain := "bnErsuzi"
  taking := "efl"
  mayTake := "i"
  long := [("binary", 'b'), ("debug", 'D'), ("expression", 'e'), ("file", 'f'),
    ("follow-symlinks", 'F'), ("in-place", 'i'), ("line-length", 'l'), ("null-data", 'z'),
    ("posix", 'p'), ("quiet", 'n'), ("regexp-extended", 'E'), ("sandbox", 'S'),
    ("separate", 's'), ("silent", 'n'), ("unbuffered", 'u'), ("zero-terminated", 'z')]

/-- Whether an edit has to do with a file. -/
def touchesFiles (edit : Edit) : Bool :=
  match edit.action with
  | .readFile _ | .readLine _ | .writeFile _ _ => true
  | .substitute substitution => substitution.file?.isSome
  | _ => false

/-- Opens the files that edits write to, under numbers from one on. -/
def withFiles (name : String) (base : Place) (next : List (String × Nat) → Task) :
    List String → Nat → List (String × Nat) → Task
  | [], _, opened => next opened
  | path :: rest, number, opened =>
    if path = outputPath then withFiles name base next rest number ((path, 1) :: opened)
    else if path = "/dev/stderr" then withFiles name base next rest number ((path, 2) :: opened)
    else
      .openFile number base path .write fun
        | .error fault =>
          Program.fail name ("couldn't open file " ++ path ++ ": " ++ fault.message) 4
        | .ok () => withFiles name base next rest (number + 1) ((path, number) :: opened)

/-- The parts of the script of a call, with the texts of the files among them. -/
def sourcesOf (call : Program.Call) (texts : List String) : List Source :=
  let given := call.options.filter fun given => given.1 = 'e' || given.1 = 'f'
  (given.foldl (fun (sources, texts) (letter, argument) =>
    if letter = 'e' then (Source.mk none argument :: sources, texts)
    else
      let text := texts.headD ""
      let bare := if text.endsWith "\n" then (text.dropEnd 1).toString else text
      (Source.mk (some argument) bare :: sources, texts.drop 1))
    (([] : List Source), texts)).1.reverse

/-- Edits the files of a call with a script. -/
def begin (name : String) (call : Program.Call) (sources : List Source) (operands : List String)
    (base : Place) : Task :=
  match read (call.has 'E' || call.has 'r') sources with
  | .error (complaint, code) => Program.fail name complaint code
  | .ok edits =>
    let mark? := call.argument? 'i'
    if call.has 'S' && edits.any touchesFiles then
      Program.fail name "-e expression #1, char 1: e/r/w commands disabled in sandbox mode" 1
    else if mark?.isSome && operands.isEmpty then Program.fail name "no input files" 4
    else
      withFiles name base (fun files =>
        let setting : Setting := {
          name
          edits
          quiet := call.has 'n' || beginsQuietly sources
          prompt := call.has 'u'
          mark := Program.recordMark (call.has 'z')
          width? := some (((call.argument? 'l').bind String.toNat?).getD 70)
          files
          isInPlace := mark?.isSome }
        let operands := if operands.isEmpty then ["-"] else operands
        if mark?.isSome || call.has 's' then editEach setting base mark? operands ⟨false, []⟩
        else
          editLines setting (fun code? desk =>
            Program.putAndExit name desk.stored
              (if desk.input.failed then 2 else code?.getD 0))
            Program.patience false (Desk.start setting [] base operands))
        (writtenFiles edits) (Desk.sideFile + 1) []

/-- The editor as a program. -/
def program : Program := fun name arguments surroundings =>
  Program.withCall name options arguments fun call =>
    let base := surroundings.directory
    match call.has 'e' || call.has 'f', call.operands with
    | false, [] =>
      Program.tell ("Usage: " ++ name
        ++ " [OPTION]... \x7bscript-only-if-no-other-script\x7d [input-file]...\n\n")
        (.exitWith 1)
    | false, script :: operands => begin name call [⟨none, script⟩] operands base
    | true, operands =>
      Program.withTexts base (fun path fault =>
        Program.fail name ("couldn't open file " ++ path ++ ": " ++ fault.message) 4)
        (fun texts =>
          begin name call (sourcesOf call (texts.map fun text? => text?.getD "")) operands base)
        (call.arguments 'f') []

end RpcEndpoint.Editor
