import RpcEndpoint.Process.Program.Filter
import RpcEndpoint.Process.Program.Sort.Key

/-!
# Sorting

Lines are compared by the parts of them that keys name, and in the end as a whole. The order is a
preorder, so a merge sort puts the lines in order and keeps that of equal ones.
-/

namespace RpcEndpoint.Program.Sort

/-- The lines without those that equal the one before them. -/
def withoutRepeats (same : String → String → Bool) : List String → List String
  | first :: second :: rest =>
    if same first second then withoutRepeats same (first :: rest)
    else first :: withoutRepeats same (second :: rest)
  | lines => lines
termination_by lines => lines.length

/-- The first line that must not stand behind the one before it, with its number. -/
def disorder? (isLate : String → String → Bool) : Nat → List String → Option (Nat × String)
  | number, first :: second :: rest =>
    if isLate first second then some (number + 1, second)
    else disorder? isLate (number + 1) (second :: rest)
  | _, _ => none

/-- What is asked for. -/
structure Request where
  manner : Manner
  keys : List Key
  separator : Option Char
  unique : Bool
  stable : Bool
  /-- Whether the files are in order already. -/
  merges : Bool
  mark : String
  output : Option String

namespace Request

/-- The order of two lines by what is asked for. -/
def order (request : Request) : String → String → Ordering :=
  compareByKeys request.manner request.keys request.separator

/-- The order of two lines, of which no two different ones count as equal unless that is wanted. -/
def total (request : Request) (left right : String) : Ordering :=
  (request.order left right).then
    (if request.stable || request.unique then .eq
    else if request.manner.reverse then compare right left else compare left right)

/-- The lines of some files in order. -/
def arrange (request : Request) (files : List (List String)) : List String :=
  let isInOrder (left right : String) : Bool := (request.total left right).isLE
  let arranged :=
    if request.merges then files.foldl (fun before lines => before.merge lines isInOrder) []
    else files.flatten.mergeSort isInOrder
  if request.unique then
    withoutRepeats (fun left right => request.order left right = .eq) arranged
  else arranged

end Request

/-- Tells whether a file is in order. -/
def check (name : String) (base : Place) (request : Request) (isQuiet : Bool) (file : String) :
    Task :=
  withTexts base (fun operand fault =>
    fail name ("cannot read: " ++ quotedIfNeeded operand ++ ": " ++ fault.message) 2)
    (fun texts =>
      let lines := linesOf request.mark ((texts.headD none).getD "")
      let isLate (left right : String) : Bool :=
        request.total left right = .gt || request.unique && request.total left right = .eq
      match disorder? isLate 1 lines with
      | none => .exitWith 0
      | some (number, line) =>
        if isQuiet then .exitWith 1
        else fail name (file ++ ":" ++ toString number ++ ": disorder: " ++ line) 1)
    [file] []

/-- Looks whether there are all of some files, and then goes on. -/
def withFiles (name : String) (base : Place) (next : Task) : List String → Task
  | [] => next
  | operand :: rest =>
    if operand = "-" then withFiles name base next rest
    else
      .look base operand fun
        | .error fault =>
          fail name ("cannot read: " ++ quotedIfNeeded operand ++ ": " ++ fault.message) 2
        | .ok _ => withFiles name base next rest

/-- Puts the lines of some files in order. -/
def run (name : String) (base : Place) (request : Request) (files : List String) : Task :=
  withFiles name base
    (withTexts base (fun operand fault =>
      fail name ("read failed: " ++ quotedIfNeeded operand ++ ": " ++ fault.message) 2)
      (fun texts =>
        let lines := request.arrange (texts.map fun text? =>
          linesOf request.mark (text?.getD ""))
        let write : Task := putAndExit name (String.join (lines.map (· ++ request.mark))) 0
        match request.output with
        | none => write
        | some path =>
          .openFile 1 base path .write fun
            | .ok () => write
            | .error fault =>
              fail name ("open failed: " ++ quotedIfNeeded path ++ ": " ++ fault.message) 2)
      files []) files

/-- The words of the option that names a measure. -/
def measureNames : List (String × Char) :=
  [("general-numeric", 'g'), ("human-numeric", 'h'), ("month", 'M'), ("numeric", 'n'),
    ("random", 'R'), ("version", 'V')]

/-- The options; the last ones have no letters of their own. -/
def options : Options where
  plain := "bdfgiMhnRrVcCmsuzD"
  taking := "ktoSTWPK"
  long := [("ignore-leading-blanks", 'b'), ("check", 'K'), ("dictionary-order", 'd'),
    ("ignore-case", 'f'), ("general-numeric-sort", 'g'), ("ignore-nonprinting", 'i'),
    ("key", 'k'), ("merge", 'm'), ("month-sort", 'M'), ("numeric-sort", 'n'),
    ("human-numeric-sort", 'h'), ("version-sort", 'V'), ("random-sort", 'R'), ("output", 'o'),
    ("reverse", 'r'), ("stable", 's'), ("buffer-size", 'S'), ("field-separator", 't'),
    ("temporary-directory", 'T'), ("unique", 'u'), ("zero-terminated", 'z'), ("sort", 'W'),
    ("parallel", 'P'), ("batch-size", 'P'), ("debug", 'D')]
  refusal := 2

/-- A call in which options with a part that may be left out have it. -/
def spelled (words : List String) : List String :=
  words.map fun word => if word = "--check" then "--check=diagnose-first" else word

/-- The separator that is written. -/
def separatorOf (written? : Option String) : Except String (Option Char) :=
  match written? with
  | none => .ok none
  | some "" => .error "empty tab"
  | some "\\0" => .ok (some '\x00')
  | some written =>
    match written.toList with
    | [single] => .ok (some single)
    | _ => .error ("multi-character tab '" ++ written ++ "'")

/-- The request of a call. -/
def requestOf (call : Call) : Except String Request := do
  let named := (call.arguments 'W').filterMap fun wanted => measureNames.lookup wanted
  let has (letter : Char) : Bool := call.has letter || named.contains letter
  let keys ← (call.arguments 'k').mapM readKey
  let separator ← separatorOf (call.argument? 't')
  let wrong? := (has :: keys.map fun key => key.letters.contains).findSome? conflict?
  match wrong? with
  | some letters => .error ("options '-" ++ letters ++ "' are incompatible")
  | none =>
    pure {
      manner := mannerOf has
      keys
      separator
      unique := call.has 'u'
      stable := call.has 's'
      merges := call.has 'm'
      mark := recordMark (call.has 'z')
      output := call.argument? 'o' }

def program : Program := fun name arguments surroundings =>
  withCall name options (spelled arguments) fun call =>
    let base := surroundings.directory
    let files := if call.operands.isEmpty then ["-"] else call.operands
    let isQuiet := call.has 'C'
      || ((call.argument? 'K').any fun wanted => wanted = "quiet" || wanted = "silent")
    match requestOf call with
    | .error complaint => fail name complaint 2
    | .ok request =>
      if !(call.has 'c' || isQuiet || call.has 'K') then run name base request files
      else
        match files with
        | _ :: extra :: _ =>
          fail name ("extra operand '" ++ extra ++ "' not allowed with -"
            ++ (if isQuiet then "C" else "c")) 2
        | _ => check name base request isQuiet (files.headD "-")

end RpcEndpoint.Program.Sort
