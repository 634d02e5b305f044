import RpcEndpoint.Proofs.Closing.Reasons

/-!
# Receipts

Whoever sends a notification and waits for its fate is told what became of it: the verdict of the
worker, or that the connection is closed, when the worker has stopped before. `Receipted` says where
the notifications are that somebody waits for.
-/

namespace RpcEndpoint

open Connection

variable {app : Application} {ω : Type}

/-! ## Slips -/

/-- A verdict, with the slip of whoever waits for it. -/
structure Entry where
  slip : Option Slip
  verdict : Verdict

/-- The slips of entries. -/
def slipsIn (entries : List Entry) : List Slip :=
  entries.filterMap (·.slip)

/-- The verdicts that somebody waits for, with their receipts. -/
def verdictsIn (entries : List Entry) : List (Nat × Verdict) :=
  entries.filterMap fun entry => entry.slip.map fun slip => (slip.receipt, entry.verdict)

/-- What is reported of verdicts. -/
def fatesIn (entries : List Entry) : List (Nat × Except Failure Unit) :=
  (verdictsIn entries).map fun ruled => (ruled.1, ruled.2.ruling.fate)

/-- The slip that comes with a job. -/
def Job.slip? : Job app → Option Slip
  | .carryOut command => command.slip?
  | _ => none

/-- The slips that come with jobs. -/
def slipsOf (jobs : List (Job app)) : List Slip :=
  jobs.filterMap Job.slip?

/-- The verdict of the first step of a job, with the slip. -/
def Job.rulings [Wire ω] (connection : Connection app ω) (job : Job app) : List Entry :=
  (job.verdict connection).toList.map fun verdict => ⟨job.slip?, verdict⟩

/-- The slips that are lost with the first step of a job. -/
def Job.losses (connection : Connection app ω) : Job app → List Slip
  | .halt => connection.slips
  | _ => []

namespace Machine

variable [Wire ω]

/-- The verdicts of a schedule, with their slips. -/
def entries (machine : Machine app ω) (schedule : List (Choice app ω)) : List Entry :=
  machine.jottings Job.rulings schedule

/-- The slips that are lost along a schedule. -/
def losses (machine : Machine app ω) (schedule : List (Choice app ω)) : List Slip :=
  machine.jottings Job.losses schedule

/-- The slips that were issued along a schedule. -/
def issued : Machine app ω → List (Choice app ω) → List Slip
  | _, [] => []
  | machine, choice :: rest => (machine.slip? choice).toList ++ (machine.next choice).issued rest

theorem issued_append (machine : Machine app ω) (left right : List (Choice app ω)) :
    machine.issued (left ++ right) =
      machine.issued left ++ (machine.run left).issued right := by
  induction left generalizing machine with
  | nil =>
      rfl
  | cons choice rest inductionHypothesis =>
      rw [List.cons_append, issued, issued, inductionHypothesis, List.append_assoc]
      rfl

/-- The entries of a schedule are its verdicts. -/
theorem map_verdict_entries (machine : Machine app ω) (schedule : List (Choice app ω)) :
    (machine.entries schedule).map (·.verdict) = machine.verdicts schedule := by
  rw [verdicts_eq_jottings]
  induction schedule generalizing machine with
  | nil =>
      rfl
  | cons choice rest inductionHypothesis =>
      rw [entries, jottings, jottings, List.map_append, ← inductionHypothesis]
      congr 1
      cases choice with
      | work =>
          unfold jotted
          cases machine.agenda with
          | nil =>
              rfl
          | cons job others =>
              simp [Job.rulings, Function.comp_def]
      | _ =>
          rfl

end Machine

/-! ## Steps -/

namespace Job

variable [Wire ω]

theorem rulings_notification
    (message : Notification) (receipt : Option Nat) (connection : Connection app ω) :
    Job.rulings connection (.carryOut (.notification message receipt)) =
      [⟨receipt.map (⟨·, message⟩), .notification message, connection.rule message⟩] := by
  rw [rulings, verdict_notification]
  rfl

/-- A job has the slip of its entry. -/
theorem slipsIn_rulings (connection : Connection app ω) (job : Job app) :
    slipsIn (job.rulings connection) = job.slip?.toList := by
  cases isSlip : job.slip? with
  | none =>
      rw [slipsIn, rulings, isSlip, List.filterMap_map]
      exact List.filterMap_eq_nil_iff.mpr fun _ _ => rfl
  | some slip =>
      cases job with
      | carryOut command =>
          cases command with
          | notification message receipt =>
              have same : receipt.map (⟨·, message⟩) = some slip := isSlip
              rw [rulings_notification, same]
              rfl
          | _ =>
              contradiction
      | _ =>
          contradiction

/-- The verdict for which somebody waits is the ruling on that notification. -/
theorem verdict_of_rulings
    {connection : Connection app ω} {job : Job app} {entry : Entry} {slip : Slip}
    (isEntry : entry ∈ job.rulings connection) (isSlip : entry.slip = some slip) :
    entry.verdict = ⟨.notification slip.message, connection.rule slip.message⟩ := by
  obtain ⟨verdict, isVerdict, rfl⟩ := List.mem_map.mp isEntry
  cases job with
  | carryOut command =>
      cases command with
      | notification message receipt =>
          obtain ⟨number, -, rfl⟩ := Option.map_eq_some_iff.mp isSlip
          rw [verdict_notification] at isVerdict
          exact List.mem_singleton.mp isVerdict
      | _ =>
          contradiction
  | _ =>
      contradiction

/-- A job without a slip reports nothing. -/
theorem fatesIn_rulings
    {job : Job app} (noSlip : job.slip? = none) (connection : Connection app ω) :
    fatesIn (job.rulings connection) = [] := by
  have unreported : verdictsIn (job.rulings connection) = [] := by
    rw [verdictsIn, rulings, noSlip, List.filterMap_map]
    exact List.filterMap_eq_nil_iff.mpr fun _ _ => rfl
  rw [fatesIn, unreported]
  rfl

end Job

/-- Slips come with commands, which no step of a job brings. -/
theorem Posting.brings_no_slips [Wire ω]
    {before : Connection app ω} {progress : Progress app ω} {job : Job app}
    (posting : Posting before progress job) : slipsOf progress.jobs = [] := by
  refine List.filterMap_eq_nil_iff.mpr fun next isNext => ?_
  cases next with
  | carryOut command =>
      exact absurd isNext (posting.not_carried command)
  | _ =>
      rfl

/-- As long as the worker goes on, the first step of a job reports what its entry says, and no slip
comes or goes. -/
theorem Posting.reports [Wire ω]
    {before : Connection app ω} {progress : Progress app ω} {job : Job app}
    (posting : Posting before progress job) (goesOn : job ≠ .halt) :
    let books := progress.connection.books
    books.receipts = (fatesIn (job.rulings before)).reverse ++ before.receipts ∧
      books.slips = before.slips ∧ books.nextReceipt = before.nextReceipt ∧
      books.running = before.running := by
  intro books
  have unreported (noSlip : job.slip? = none) :
      before.receipts = (fatesIn (job.rulings before)).reverse ++ before.receipts := by
    rw [Job.fatesIn_rulings noSlip]
    rfl
  cases posting with
  | @ruled message receipt jobs isBooks =>
      simp only [books, isBooks]
      refine ⟨?_, rfl, rfl, rfl⟩
      rw [Job.rulings_notification]
      cases receipt <;> rfl
  | idle isIdle jobs isBooks =>
      have noSlip : job.slip? = none := by
        cases job with
        | carryOut command =>
            cases command <;> first | rfl | contradiction
        | _ =>
            rfl
      simp only [books, isBooks]
      exact ⟨unreported noSlip, rfl, rfl, rfl⟩
  | @drained command failure count fells jobs counted isBooks =>
      have noSlip : command.slip? = none := by
        cases command <;> first | rfl | contradiction
      simp only [books, isBooks]
      exact ⟨unreported noSlip, rfl, rfl, rfl⟩
  | halted =>
      contradiction
  | _ =>
      rename_i isBooks
      simp only [books, isBooks]
      exact ⟨unreported rfl, rfl, rfl, rfl⟩

/-! ## Every schedule -/

/-- Where the notifications are that somebody waits for, and what was reported. -/
structure Receipted (issued : List Slip) (entries : List Entry) (losses : List Slip)
    (machine : Machine app ω) : Prop where
  /-- They have their verdicts, are before the worker, are lost, or are in the inbox. -/
  slips : slipsIn entries ++
    (slipsOf machine.agenda ++ (losses ++ machine.connection.books.slips)) = issued
  numbered : issued.map (·.receipt) = List.range machine.connection.books.nextReceipt
  receipts : machine.connection.books.receipts = loseSlips losses (fatesIn entries).reverse
  kept : machine.connection.books.running = true → losses = []
  stopped : machine.connection.books.running = false → machine.connection.books.slips = []
  messages : ∀ entry ∈ entries, ∀ slip, entry.slip = some slip →
    entry.verdict.message = .notification slip.message
  closes : ∀ entry ∈ entries, ∀ slip failure, entry.slip = some slip →
    entry.verdict.ruling = .dropped failure → .order (.close failure) ∈ machine.taken

theorem slipsIn_append (left right : List Entry) :
    slipsIn (left ++ right) = slipsIn left ++ slipsIn right :=
  List.filterMap_append

theorem verdictsIn_append (left right : List Entry) :
    verdictsIn (left ++ right) = verdictsIn left ++ verdictsIn right :=
  List.filterMap_append

theorem fatesIn_append (left right : List Entry) :
    fatesIn (left ++ right) = fatesIn left ++ fatesIn right := by
  rw [fatesIn, verdictsIn_append, List.map_append]
  rfl

theorem loseSlips_append (left right : List Slip) (receipts : List (Nat × Except Failure Unit)) :
    loseSlips (left ++ right) receipts = loseSlips right (loseSlips left receipts) :=
  List.foldl_append

namespace Receipted

variable [Wire ω] {issued : List Slip} {entries : List Entry} {losses : List Slip}
  {before after : Machine app ω}

/-- The worker leaves its loop. -/
private theorem halted
    (receipted : Receipted issued entries losses before) {rest : List (Job app)}
    (agenda : before.agenda = .halt :: rest) :
    Receipted issued entries (losses ++ before.connection.slips)
      (before.absorb rest (Job.halt.step before.now before.connection)) := by
  obtain ⟨slips, numbered, receipts, kept, stopped, messages, closes⟩ := receipted
  have books := books_halt before.connection
  change (before.absorb rest (Job.halt.step before.now before.connection)).connection.books = _
    at books
  rw [agenda] at slips
  refine ⟨?_, ?_, ?_, ?_, ?_, messages, closes⟩
  · rw [books]
    change _ ++ (slipsOf rest ++ (_ ++ [])) = _
    rw [List.append_nil]
    exact slips
  · rw [books]
    exact numbered
  · rw [books, loseSlips_append, ← receipts]
    rfl
  · intro isRunning
    rw [books] at isRunning
    contradiction
  · intro hasStopped
    rw [books]

/-- The worker does the first step of another job. -/
private theorem worked
    (receipted : Receipted issued entries losses before) (orderly : Orderly before)
    (sealing : Sealing before) {job : Job app} {rest : List (Job app)}
    (agenda : before.agenda = job :: rest) (goesOn : job ≠ .halt) :
    Receipted issued (entries ++ job.rulings before.connection) losses
      (before.absorb rest (job.step before.now before.connection)) := by
  have posting := job.posting before.now before.connection
  obtain ⟨sameReceipts, sameSlips, sameNext, sameRunning⟩ := posting.reports goesOn
  obtain ⟨slips, numbered, receipts, kept, stopped, messages, closes⟩ := receipted
  have parted : slipsOf (job :: rest) = job.slip?.toList ++ slipsOf rest :=
    filterMap_cons_eq_append Job.slip? job rest
  rw [agenda, parted, ← Job.slipsIn_rulings before.connection] at slips
  refine ⟨?_, ?_, ?_, ?_, ?_, ?_, ?_⟩
  · change slipsIn (_ ++ _) ++ (slipsOf (_ ++ rest) ++ (_ ++
      (job.step before.now before.connection).connection.books.slips)) = _
    have later : slipsOf ((job.step before.now before.connection).jobs ++ rest) = slipsOf rest := by
      rw [slipsOf, List.filterMap_append]
      exact congrArg (· ++ _) posting.brings_no_slips
    rw [slipsIn_append, later, sameSlips]
    simp only [List.append_assoc] at slips ⊢
    exact slips
  · exact numbered.trans (congrArg List.range sameNext.symm)
  · refine sameReceipts.trans ?_
    rw [fatesIn_append, List.reverse_append]
    -- Only a worker that goes on reports a verdict, and then nothing is lost yet.
    cases isSlip : job.slip? with
    | none =>
        rw [Job.fatesIn_rulings isSlip]
        exact receipts
    | some slip =>
        have isRunning : before.connection.books.running = true := by
          cases job with
          | carryOut command =>
              exact (orderly.alone agenda).2
          | _ =>
              contradiction
        have nothingLost := kept isRunning
        rw [nothingLost] at receipts ⊢
        exact congrArg (_ ++ ·) receipts
  · intro isRunning
    exact kept (sameRunning.symm.trans isRunning)
  · intro hasStopped
    exact sameSlips.trans (stopped (sameRunning.symm.trans hasStopped))
  · intro entry isEntry slip isSlip
    rcases List.mem_append.mp isEntry with wasEntry | isNew
    · exact messages entry wasEntry slip isSlip
    · rw [Job.verdict_of_rulings isNew isSlip]
  · intro entry isEntry slip failure isSlip isDropped
    rcases List.mem_append.mp isEntry with wasEntry | isNew
    · exact closes entry wasEntry slip failure isSlip isDropped
    · rw [Job.verdict_of_rulings isNew isSlip] at isDropped
      exact sealing.ordered (rule_eq_dropped_iff.mp isDropped)

theorem next
    (receipted : Receipted issued entries losses before) (orderly : Orderly before)
    (sealing : Sealing before) {choice : Choice app ω} (booked : Booked before choice after) :
    Receipted (issued ++ (before.slip? choice).toList)
      (entries ++ before.jotted Job.rulings choice)
      (losses ++ before.jotted Job.losses choice) after := by
  cases booked with
  | @worked job rest agenda =>
      have noSlip : (before.slip? .work).toList = [] := rfl
      rw [Machine.jotted_work _ agenda, Machine.jotted_work _ agenda, noSlip, List.append_nil]
      by_cases isHalt : job = .halt
      · subst isHalt
        have noEntry : Job.rulings before.connection (.halt : Job app) = [] := rfl
        rw [noEntry, List.append_nil]
        exact receipted.halted agenda
      · have noLoss : job.losses before.connection = [] := by
          cases job with
          | halt =>
              exact absurd rfl isHalt
          | _ =>
              rfl
        rw [noLoss, List.append_nil]
        exact receipted.worked orderly sealing agenda isHalt
  | @taken command rest agenda isRunning inbox =>
      have nothing : losses = [] := receipted.kept isRunning
      have isTaken : slipsOf [.carryOut command, .sweep] ++
          (losses ++ rest.filterMap Command.slip?) =
            slipsOf before.agenda ++ (losses ++ before.connection.slips) := by
        rw [nothing, agenda, Connection.slips, inbox, slipsOf, List.filterMap_cons,
          List.filterMap_cons]
        cases found : command.slip? <;> simp [Job.slip?, found, slipsOf]
      obtain ⟨slips, numbered, receipts, kept, stopped, messages, closes⟩ := receipted
      simp only [Machine.slip?, Machine.jotted, Option.toList_none, List.append_nil]
      refine ⟨?_, numbered, receipts, kept, ?_, messages, ?_⟩
      · rw [← slips]
        exact congrArg (slipsIn entries ++ ·) isTaken
      · intro hasStopped
        exact absurd (isRunning.symm.trans hasStopped) Bool.noConfusion
      · intro entry isEntry slip failure isSlip isDropped
        exact List.mem_append_left _ (closes entry isEntry slip failure isSlip isDropped)
  | woken agenda isRunning =>
      simp only [Machine.slip?, Machine.jotted, Option.toList_none, List.append_nil]
      obtain ⟨slips, numbered, receipts, kept, stopped, messages, closes⟩ := receipted
      rw [agenda] at slips
      exact ⟨slips, numbered, receipts, kept, stopped, messages, closes⟩
  | reordered agenda =>
      simp only [Machine.slip?, Machine.jotted, Option.toList_none, List.append_nil]
      obtain ⟨slips, numbered, receipts, kept, stopped, messages, closes⟩ := receipted
      rw [agenda] at slips
      exact ⟨slips, numbered, receipts, kept, stopped, messages, closes⟩
  | @called method encoded after isRunning agenda taken history books =>
      obtain ⟨slips, numbered, receipts, kept, stopped, messages, closes⟩ := receipted
      simp only [Machine.slip?, isRunning, Machine.jotted, if_true, Option.toList_some,
        List.append_nil]
      refine ⟨?_, ?_, ?_, ?_, ?_, messages, ?_⟩
      · rw [agenda, books, ← slips]
        simp [Connection.books]
      · rw [books, List.map_append, numbered]
        exact List.range_succ.symm
      · rw [books]
        exact receipts
      · rw [books]
        exact kept
      · intro hasStopped
        rw [books] at hasStopped
        exact absurd (isRunning.symm.trans hasStopped) Bool.noConfusion
      · rw [taken]
        exact closes
  | beside unworked silent agenda taken history books =>
      rw [silent, Machine.jotted_of_unworked unworked, Machine.jotted_of_unworked unworked]
      simp only [Option.toList_none, List.append_nil]
      obtain ⟨slips, numbered, receipts, kept, stopped, messages, closes⟩ := receipted
      rw [← agenda, ← books] at slips
      rw [← books] at numbered receipts kept stopped
      rw [← taken] at closes
      exact ⟨slips, numbered, receipts, kept, stopped, messages, closes⟩

end Receipted

theorem receipted_run [Wire ω]
    (wire : ω) (memory : app.Memory) (defaultTimeout : Option Duration)
    (schedule : List (Choice app ω)) :
    let start : Machine app ω := .start wire memory defaultTimeout
    Receipted (start.issued schedule) (start.entries schedule) (start.losses schedule)
      (start.run schedule) := by
  intro start
  have reachable : start.Reachable := ⟨wire, memory, defaultTimeout, [], rfl⟩
  refine reachable.schedule_induction
    (fun schedule reached => Receipted (start.issued schedule) (start.entries schedule)
      (start.losses schedule) reached) ?_ ?_ schedule
  · refine ⟨rfl, rfl, rfl, fun _ => rfl, ?_, ?_, ?_⟩
    · intro hasStopped
      exact rfl
    · intro entry isEntry
      exact absurd isEntry List.not_mem_nil
    · intro entry isEntry
      exact absurd isEntry List.not_mem_nil
  · intro schedule choice orderly booked receipted
    have sealing := sealing_of_reachable (reachable.run schedule)
    have issued : start.issued (schedule ++ [choice]) =
        start.issued schedule ++ ((start.run schedule).slip? choice).toList := by
      rw [Machine.issued_append]
      exact congrArg (_ ++ ·) (List.append_nil _)
    unfold Machine.entries Machine.losses at receipted ⊢
    rw [issued, Machine.jottings_snoc, Machine.jottings_snoc]
    exact receipted.next orderly sealing booked

end RpcEndpoint
