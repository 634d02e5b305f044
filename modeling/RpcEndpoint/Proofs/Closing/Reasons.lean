import RpcEndpoint.Proofs.Accounts.Always

/-!
# Why a connection is closed

The reason is that of the last order to close that was carried out. From the first step of such an
order on nothing is pending, and once the order is carried out no request is entered.
-/

namespace RpcEndpoint

open Connection

variable {app : Application} {ω : Type}

/-! ## Reasons -/

/-- The failure with which a command closes the connection. -/
def Command.reason? : Command app → Option Failure
  | .order (.close failure) => some failure
  | _ => none

/-- The failures with which commands close the connection. -/
def reasonsIn (commands : List (Command app)) : List Failure :=
  commands.filterMap Command.reason?

/-- The failure with which a job will close the connection. -/
def Job.reason? : Job app → Option Failure
  | .carryOut command => command.reason?
  | .shut failure => some failure
  | _ => none

/-- The failures with which jobs will close the connection. -/
def reasonsOf (jobs : List (Job app)) : List Failure :=
  jobs.filterMap Job.reason?

theorem reasonsIn_append (left right : List (Command app)) :
    reasonsIn (left ++ right) = reasonsIn left ++ reasonsIn right :=
  List.filterMap_append

theorem reasonsOf_append (left right : List (Job app)) :
    reasonsOf (left ++ right) = reasonsOf left ++ reasonsOf right :=
  List.filterMap_append

theorem reasonsOf_cons (job : Job app) (rest : List (Job app)) :
    reasonsOf (job :: rest) = job.reason?.toList ++ reasonsOf rest :=
  filterMap_cons_eq_append Job.reason? job rest

namespace Job

/-- Whether a job enters a request that nothing speaks against, or writes it. -/
def offers : Job app → Bool
  | .launch _ _ _ | .send _ => true
  | _ => false

theorem reason?_of_mayIdle {job : Job app} (idle : job.mayIdle = true) : job.reason? = none := by
  cases job with
  | carryOut command =>
      cases command with
      | order wanted =>
          cases wanted <;> first | rfl | contradiction
      | _ =>
          rfl
  | _ =>
      first | rfl | contradiction

theorem offers_of_runs {jobs : List (Job app)} (running : ∀ job ∈ jobs, job.runs = true) :
    jobs.any offers = false :=
  List.any_eq_false.mpr (of_runs (fun _ => Bool.false_ne_true) (fun _ => Bool.false_ne_true)
    (fun _ => Bool.false_ne_true) running)

end Job

theorem reasonsOf_of_runs {jobs : List (Job app)} (running : ∀ job ∈ jobs, job.runs = true) :
    reasonsOf jobs = [] :=
  List.filterMap_eq_nil_iff.mpr (Job.of_runs (fun _ => rfl) (fun _ => rfl) (fun _ => rfl) running)

namespace Posting

variable [Wire ω] {before : Connection app ω} {progress : Progress app ω} {job : Job app}

/-- Only the last job of an order to close closes the connection. -/
theorem reasons (posting : Posting before progress job) :
    (progress.connection.books.closed = before.closed ∧
        reasonsOf progress.jobs = job.reason?.toList) ∨
      ∃ failure, job = .shut failure ∧ progress.jobs = [] ∧
        progress.connection.books.closed = some failure := by
  cases posting with
  | @shut failure jobs books =>
      refine .inr ⟨failure, rfl, jobs, ?_⟩
      rw [books]
  | idle isIdle jobs books =>
      left
      rw [books, reasonsOf_of_runs jobs, Job.reason?_of_mayIdle isIdle]
      exact ⟨rfl, rfl⟩
  | honoured jobs books | announced jobs books =>
      left
      rw [books, reasonsOf_of_runs jobs]
      exact ⟨rfl, rfl⟩
  | @drained command failure count fells jobs counted books =>
      left
      have closes : reasonsOf command.closing = command.reason?.toList := by
        cases command with
        | order wanted =>
            cases wanted <;> rfl
        | _ =>
            rfl
      rw [books, jobs, reasonsOf_append, closes]
      simp [reasonsOf, Job.reason?, Connection.books]
  | _ =>
      rename_i jobs books
      left
      rw [books, jobs]
      simp [reasonsOf, Job.reason?, Command.reason?, Connection.books]

/-- Only the launch of a request fills an empty table. -/
theorem stays_empty
    (posting : Posting before progress job) (isEmpty : before.pending = [])
    (notLaunched : ∀ message options sink, job ≠ .launch message options sink) :
    progress.connection.books.pending = [] := by
  cases posting with
  | @launched message options sink =>
      exact absurd rfl (notLaunched message options sink)
  | idle isIdle jobs books =>
      rw [books]
      exact isEmpty
  | drained failure count fells jobs counted books =>
      rw [books]
  | _ =>
      rename_i books
      rw [books]
      simp [PendingTable.remove, PendingTable.notDue, Connection.books, isEmpty]

/-- A request is offered after it was admitted, which a closed connection does not do. -/
theorem offers
    (posting : Posting before progress job) (isOffered : progress.jobs.any Job.offers = true) :
    (∃ command, job = .carryOut command ∧ before.closed = none) ∨ job.offers = true := by
  cases posting with
  | admitted refusal jobs books =>
      left
      refine ⟨_, rfl, ?_⟩
      unfold refusal? at refusal
      split at refusal
      · contradiction
      · assumption
  | launched =>
      exact .inr rfl
  | idle isIdle jobs books | honoured jobs books | announced jobs books =>
      rw [Job.offers_of_runs jobs] at isOffered
      contradiction
  | @drained command failure count fells jobs counted books =>
      have closes : command.closing.any Job.offers = false := by
        unfold Command.closing
        split <;> rfl
      simp [jobs, closes, Job.offers] at isOffered
  | _ =>
      rename_i jobs books
      simp [jobs, Job.offers] at isOffered

/-- The last job of an order to close comes with its first step, which empties the table. -/
theorem closes
    (posting : Posting before progress job) {failure : Failure}
    (isNext : .shut failure ∈ progress.jobs) :
    (∃ command, job = .carryOut command) ∧ progress.connection.books.pending = [] ∧
      progress.jobs.any Job.offers = false := by
  cases posting with
  | @drained command reason count fells jobs counted books =>
      have closes : command.closing.any Job.offers = false := by
        unfold Command.closing
        split <;> rfl
      refine ⟨⟨command, rfl⟩, ?_, ?_⟩
      · rw [books]
      · simp [jobs, closes, Job.offers]
  | idle isIdle jobs books | honoured jobs books | announced jobs books =>
      exact absurd (jobs _ isNext) Bool.false_ne_true
  | _ =>
      rename_i jobs books
      simp [jobs] at isNext

end Posting

/-! ## Every schedule -/

/-- How a connection comes to be closed. -/
structure Sealing (machine : Machine app ω) : Prop where
  /-- The reason is the last one, but for one that is still before the worker. -/
  reasons : ∃ past, reasonsIn machine.taken = past ++ reasonsOf machine.agenda ∧
    machine.connection.books.closed = past.getLast?
  settled : (machine.connection.books.closed ≠ none ∨ ∃ failure, .shut failure ∈ machine.agenda) →
    machine.connection.books.pending = [] ∧ machine.agenda.any Job.offers = false

namespace Sealing

variable [Wire ω] {before after : Machine app ω}

/-- The worker does the first step of a job. -/
private theorem worked
    (sealing : Sealing before) (orderly : Orderly before)
    {job : Job app} {rest : List (Job app)} (agenda : before.agenda = job :: rest) :
    Sealing (before.absorb rest (job.step before.now before.connection)) := by
  have posting := job.posting before.now before.connection
  obtain ⟨⟨past, isTaken, closed⟩, settled⟩ := sealing
  rw [agenda] at isTaken settled
  refine ⟨?_, ?_⟩
  · rw [reasonsOf_cons] at isTaken
    rcases posting.reasons with ⟨sameClosed, jobs⟩ | ⟨failure, rfl, noJobs, isClosed⟩
    · refine ⟨past, ?_, sameClosed.trans closed⟩
      rw [← jobs, ← reasonsOf_append] at isTaken
      exact isTaken
    · refine ⟨past ++ [failure], ?_, isClosed.trans List.getLast?_concat.symm⟩
      change _ = past ++ [failure] ++ reasonsOf (_ ++ rest)
      rw [noJobs, List.append_assoc]
      exact isTaken
  · intro isSealed
    change _ ∧ (_ ++ rest).any Job.offers = false
    rw [List.any_append, Bool.or_eq_false_iff]
    -- Either this step begins a close and empties the table, or a close was underway before it.
    by_cases isClosing : ∃ failure, .shut failure ∈ (job.step before.now before.connection).jobs
    · obtain ⟨failure, isShut⟩ := isClosing
      obtain ⟨⟨command, rfl⟩, isEmpty, notOffered⟩ := posting.closes isShut
      rw [(orderly.alone agenda).1]
      exact ⟨isEmpty, notOffered, rfl⟩
    · have wasSealed : before.connection.books.closed ≠ none ∨
          ∃ failure, .shut failure ∈ job :: rest := by
        rcases isSealed with isClosed | ⟨failure, isShut⟩
        · rcases posting.reasons with ⟨sameClosed, -⟩ | ⟨failure, rfl, -, -⟩
          · exact .inl fun wasOpen => isClosed (sameClosed.trans wasOpen)
          · exact .inr ⟨failure, List.mem_cons_self⟩
        · rcases List.mem_append.mp isShut with isNew | isLater
          · exact absurd ⟨failure, isNew⟩ isClosing
          · exact .inr ⟨failure, List.mem_cons_of_mem job isLater⟩
      obtain ⟨isEmpty, notOffered⟩ := settled wasSealed
      rw [List.any_cons, Bool.or_eq_false_iff] at notOffered
      refine ⟨posting.stays_empty isEmpty ?_, ?_, notOffered.2⟩
      · rintro message options sink rfl
        exact Bool.noConfusion notOffered.1
      · refine Bool.eq_false_iff.mpr fun isOffered => ?_
        rcases posting.offers isOffered with ⟨command, rfl, isOpen⟩ | wasOffered
        · rw [(orderly.alone agenda).1] at wasSealed
          rcases wasSealed with isClosed | ⟨failure, isShut⟩
          · exact isClosed isOpen
          · simp at isShut
        · exact Bool.noConfusion (notOffered.1.symm.trans wasOffered)

theorem next
    (sealing : Sealing before) (orderly : Orderly before)
    {choice : Choice app ω} (booked : Booked before choice after) : Sealing after := by
  cases booked with
  | worked agenda =>
      exact sealing.worked orderly agenda
  | @taken command rest agenda isRunning inbox =>
      obtain ⟨⟨past, isTaken, closed⟩, settled⟩ := sealing
      rw [agenda] at isTaken settled
      refine ⟨⟨past, ?_, closed⟩, ?_⟩
      · change reasonsIn (before.taken ++ [command]) = _
        rw [reasonsIn_append, isTaken, List.append_assoc]
        rfl
      · rintro (isClosed | ⟨failure, isShut⟩)
        · exact ⟨(settled (.inl isClosed)).1, rfl⟩
        · simp at isShut
  | woken agenda isRunning =>
      obtain ⟨⟨past, isTaken, closed⟩, settled⟩ := sealing
      rw [agenda] at isTaken settled
      refine ⟨⟨past, isTaken, closed⟩, ?_⟩
      rintro (isClosed | ⟨failure, isShut⟩)
      · exact ⟨(settled (.inl isClosed)).1, rfl⟩
      · simp at isShut
  | reordered agenda =>
      obtain ⟨⟨past, isTaken, closed⟩, settled⟩ := sealing
      rw [agenda] at isTaken settled
      refine ⟨⟨past, isTaken, closed⟩, ?_⟩
      rintro (isClosed | ⟨failure, isShut⟩)
      · exact settled (.inl isClosed)
      · refine settled (.inr ⟨failure, ?_⟩)
        simpa using isShut
  | called isRunning agenda taken history books
  | beside unworked silent agenda taken history books =>
      obtain ⟨⟨past, isTaken, closed⟩, settled⟩ := sealing
      rw [← agenda] at isTaken settled
      refine ⟨⟨past, ?_, ?_⟩, ?_⟩
      · rwa [taken]
      · rwa [books]
      · rwa [books]

end Sealing

/-- A closed connection was ordered to be closed, for this reason. -/
theorem Sealing.ordered
    {machine : Machine app ω} (sealing : Sealing machine) {failure : Failure}
    (isClosed : machine.connection.closed = some failure) :
    .order (.close failure) ∈ machine.taken := by
  obtain ⟨⟨past, isTaken, isLast⟩, -⟩ := sealing
  have isReason : failure ∈ reasonsIn machine.taken := by
    rw [isTaken]
    exact List.mem_append_left _ (List.mem_of_getLast? (isLast.symm.trans isClosed))
  obtain ⟨command, isCommand, gives⟩ := List.mem_filterMap.mp isReason
  cases command with
  | order wanted =>
      cases wanted with
      | close reason =>
          rwa [← Option.some.inj gives]
      | _ =>
          contradiction
  | _ =>
      contradiction

theorem sealing_of_reachable [Wire ω]
    {machine : Machine app ω} (reachable : machine.Reachable) : Sealing machine := by
  refine reachable.booked_induction Sealing ?_ fun _ _ _ orderly booked sealing =>
    sealing.next orderly booked
  intro wire memory defaultTimeout
  refine ⟨⟨[], rfl, rfl⟩, ?_⟩
  rintro (isClosed | ⟨failure, isShut⟩)
  · exact absurd rfl isClosed
  · exact absurd isShut List.not_mem_nil

end RpcEndpoint
