import RpcEndpoint.Process.Program.Basic

/-!
# Filters

A filter takes its input piece by piece and gives output for each piece. Most filters work on
lines; a last line without an end is one too.
-/

namespace RpcEndpoint.Program

/-! ## Filters -/

/-- A filter with a state. -/
structure Filter (σ : Type) where
  start : σ
  /-- What comes out for a piece of input. -/
  take : σ → String → String × σ
  /-- Whether no more input is wanted. -/
  isDone : σ → Bool
  /-- What comes out at the end. -/
  finish : σ → String
  /-- Whether what comes out is written at once. -/
  isPrompt : Bool := false
  /-- How many bytes are read at once, at the most. -/
  appetite : σ → Nat := fun _ => pieceSize

namespace Filter

variable {σ : Type}

/-- Feeds a file to a filter. What the filter puts out is written in blocks. -/
def feed (filter : Filter σ) (name : String) (file : Nat)
    (next : Called Unit → σ → String → Task) : Nat → σ → String → Task
  | 0, state, stored => next (.ok ()) state stored
  | fuel + 1, state, stored =>
    if filter.isDone state then next (.ok ()) state stored
    else
      .read file (filter.appetite state) fun
        | .error fault => next (.error fault) state stored
        | .ok [] => next (.ok ()) state stored
        | .ok bytes =>
          let (output, state) := filter.take state (Octets.ofBytes bytes)
          if filter.isPrompt then
            put name (stored ++ output) (feed filter name file next fuel state "")
          else
            putBlocks name (stored ++ output) fun stored =>
              feed filter name file next fuel state stored

/-- Feeds the files of some operands to a filter, one after another. -/
def feedAll (filter : Filter σ) (name : String) (lament : String → SystemFault → String)
    (base : Place) (next : σ → String → Nat → Task) :
    List String → σ → String → Nat → Task
  | [], state, stored, code => next state stored code
  | operand :: rest, state, stored, code =>
    openOperand base operand fun
      | .error fault =>
        complain name (lament (quotedIfNeeded operand) fault)
          (feedAll filter name lament base next rest state stored 1)
      | .ok file =>
        filter.feed name file (fun outcome state stored =>
          match outcome with
          | .ok () => feedAll filter name lament base next rest state stored code
          | .error fault =>
            complain name (lament (quotedIfNeeded operand) fault)
              (feedAll filter name lament base next rest state stored 1)) patience state stored

/-- Runs a filter on the files of some operands, or on the input. -/
def run (filter : Filter σ) (name : String) (lament : String → SystemFault → String)
    (base : Place) (operands : List String) (code : σ → Nat) : Task :=
  filter.feedAll name lament base (fun state stored failed =>
    putAndExit name (stored ++ filter.finish state) (max failed (code state)))
    (if operands.isEmpty then ["-"] else operands) filter.start "" 0

end Filter

/-- The usual complaint about a file. -/
def plainLament (operand : String) (fault : SystemFault) : String :=
  operand ++ ": " ++ fault.message

/-! ## Records -/

/-- A filter of records on its way: its state and the record that has been begun. -/
structure LineState (σ : Type) where
  state : σ
  line : String

/-- Takes the records of a text one by one. -/
def takeLines {σ : Type} (take : σ → String → Bool → String × σ) :
    List String → σ → String → String × σ
  | [], state, output => (output, state)
  | line :: rest, state, output =>
    let (more, state) := take state line true
    takeLines take rest state (output ++ more)

/-- A filter that takes its input record by record. It is told whether there is a mark behind a
record. -/
def recordFilter {σ : Type} (mark : String) (start : σ) (take : σ → String → Bool → String × σ)
    (isDone : σ → Bool) (finish : σ → String) : Filter (LineState σ) where
  start := ⟨start, ""⟩
  take held piece :=
    let parts := (held.line ++ piece).splitOn mark
    let (output, state) := takeLines take parts.dropLast held.state ""
    (output, ⟨state, parts.getLast?.getD ""⟩)
  isDone held := isDone held.state
  finish held :=
    if held.line.isEmpty then finish held.state
    else
      let (output, state) := take held.state held.line false
      output ++ finish state

/-- The mark behind the records of a program, with the flag a zero byte. -/
def recordMark (isZero : Bool) : String :=
  if isZero then "\x00" else "\n"

/-! ## Lines -/

/-- A filter that takes its input line by line. It is told whether a line has an end. -/
def lineFilter {σ : Type} (start : σ) (take : σ → String → Bool → String × σ)
    (isDone : σ → Bool) (finish : σ → String) : Filter (LineState σ) :=
  recordFilter "\n" start take isDone finish

/-- A filter that changes each line by itself and ends every one. -/
def lineMap (change : String → String) : Filter (LineState Unit) :=
  lineFilter () (fun _ line _ => (change line ++ "\n", ())) (fun _ => false) fun _ => ""

/-- A filter that collects all lines and gives out others at the end. -/
def lineCollector (finish : List String → String) : Filter (LineState (List String)) :=
  lineFilter [] (fun lines line _ => ("", line :: lines)) (fun _ => false)
    fun lines => finish lines.reverse

/-! ## Whole files -/

/-- The lines of a text; what stands behind the last mark is a line too. -/
def linesOf (mark text : String) : List String :=
  let parts := text.splitOn mark
  if parts.getLast? = some "" then parts.dropLast else parts

/-- Reads some files to their ends. The input is read once, whatever it is named for. -/
def withTexts (base : Place) (lament : String → SystemFault → Task)
    (next : List (Option String) → Task) : List String → List (Option String) → Task
  | [], texts => next texts.reverse
  | operand :: rest, texts =>
    openOperand base operand fun
      | .error fault => lament operand fault
      | .ok file =>
        readAll file (fun
          | .error fault => lament operand fault
          | .ok text => withTexts base lament next rest (some text :: texts)) patience ""

end RpcEndpoint.Program
