import RpcEndpoint.Proofs.Accounts.Winding
import RpcEndpoint.Proofs.Requests.Deadlines
import RpcEndpoint.Proofs.Tokens.Causes

/-!
# Timeouts

When a request is entered, the clock and its limit are taken down, and when its time is up, the
clock again. A request is admitted once at the most, its deadline is made of its admission, and it
fails as late only at the end of that deadline, or because an order has failed it with just that
(`Timely`). The look at the deadlines ends every iteration of the worker; it ends the requests that
are late, in the order of their identifiers, and touches no others.
-/

namespace RpcEndpoint

open Connection

variable {app : Application} {ω α : Type}

/-! ## What is taken down with the clock -/

namespace Machine

/-- What is taken down along a schedule, when notes may tell the time. -/
def readings [Wire ω] (note : Instant → Connection app ω → Job app → List α) :
    Machine app ω → List (Choice app ω) → List α
  | _, [] => []
  | machine, choice :: rest =>
    machine.jotted (note machine.now) choice ++ (machine.next choice).readings note rest

theorem readings_snoc [Wire ω]
    (note : Instant → Connection app ω → Job app → List α) (machine : Machine app ω)
    (schedule : List (Choice app ω)) (choice : Choice app ω) :
    machine.readings note (schedule ++ [choice]) =
      machine.readings note schedule ++
        (machine.run schedule).jotted (note (machine.run schedule).now) choice := by
  induction schedule generalizing machine with
  | nil =>
      exact List.append_nil _
  | cons first rest inductionHypothesis =>
      rw [List.cons_append, readings, readings, inductionHypothesis, List.append_assoc]
      rfl

end Machine

/-- When a request was entered, and how long it may take. -/
structure Admission where
  id : MessageId
  limit : Option Duration
  time : Instant
deriving Repr, DecidableEq

/-- The limit of a request is its own, or else that of the connection. -/
def Job.admissions (now : Instant) (connection : Connection app ω) : Job app → List Admission
  | .launch message options _ =>
    [⟨message.id, options.timeout.or connection.defaultTimeout, now⟩]
  | _ => []

/-- The requests whose time is up when the worker looks. -/
def Job.expiries (now : Instant) (connection : Connection app ω) :
    Job app → List (MessageId × Instant)
  | .sweep =>
    if connection.running then (connection.pending.due now).map fun entry => (entry.id, now)
    else []
  | _ => []

/-- The requests that were entered along a schedule. -/
def Machine.admissions [Wire ω] (machine : Machine app ω) (schedule : List (Choice app ω)) :
    List Admission :=
  machine.readings Job.admissions schedule

/-- The requests whose time was up along a schedule, and what the clock showed then. -/
def Machine.expiries [Wire ω] (machine : Machine app ω) (schedule : List (Choice app ω)) :
    List (MessageId × Instant) :=
  machine.readings Job.expiries schedule

private theorem eq_of_mem_admissions
    {now : Instant} {connection : Connection app ω} {job : Job app} {entered : Admission}
    (isNew : entered ∈ job.admissions now connection) :
    ∃ message options sink, job = .launch message options sink ∧
      entered = ⟨message.id, options.timeout.or connection.defaultTimeout, now⟩ := by
  cases job with
  | launch message options sink =>
      exact ⟨message, options, sink, rfl, List.mem_singleton.mp isNew⟩
  | _ =>
      contradiction

private theorem mem_expiries
    {now clock : Instant} {connection : Connection app ω} {job : Job app} {id : MessageId} :
    (id, clock) ∈ job.expiries now connection ↔
      job = .sweep ∧ connection.running = true ∧ clock = now ∧
        ∃ entry ∈ connection.pending.due now, entry.id = id := by
  cases job with
  | sweep =>
      unfold Job.expiries
      by_cases isRunning : connection.running = true
      · rw [if_pos isRunning, List.mem_map]
        constructor
        · rintro ⟨entry, isDue, same⟩
          obtain ⟨sameId, sameClock⟩ := Prod.mk.inj same
          exact ⟨rfl, isRunning, sameClock.symm, entry, isDue, sameId⟩
        · rintro ⟨-, -, rfl, entry, isDue, rfl⟩
          exact ⟨entry, isDue, rfl⟩
      · rw [if_neg isRunning]
        simp [isRunning]
  | _ =>
      simp [Job.expiries]

private theorem jobs_sweep [Wire ω]
    {now : Instant} {connection : Connection app ω} (isRunning : connection.running = true) :
    (Job.sweep.step now connection).jobs = (connection.pending.due now).map .timeOut := by
  rw [Job.step, if_pos isRunning, Connection.sweep]
  split
  · rename_i nothing
    rw [nothing]
    rfl
  · rename_i first others isDue
    rw [isDue]

/-! ## Deadlines -/

/-- A deadline is there if the clock can show it, and it is the limit after the admission. -/
theorem Admission.deadline_eq_some
    {entered : Admission} {deadline : Deadline}
    (isDeadline : entered.limit.bind (Deadline.after? entered.time) = some deadline) :
    entered.limit = some deadline.timeout ∧
      deadline.time.nanoseconds = entered.time.nanoseconds + deadline.timeout.nanoseconds ∧
      entered.time.nanoseconds + deadline.timeout.nanoseconds < Instant.bound := by
  obtain ⟨timeout, isLimit, isAfter⟩ := Option.bind_eq_some_iff.mp isDeadline
  obtain ⟨time, isTime, rfl⟩ := Option.map_eq_some_iff.mp isAfter
  unfold Instant.after? at isTime
  dsimp only at isTime
  split at isTime
  · rename_i inTime
    cases isTime
    exact ⟨isLimit, rfl, inTime⟩
  · contradiction

/-! ## Requests that the worker has come to -/

/-- The request was taken, and nothing is on its way to enter it. -/
structure Machine.Past (machine : Machine app ω) (id : MessageId) : Prop where
  taken : id ∈ (promisesIn machine.taken).map (·.id)
  gone : ∀ job ∈ machine.agenda, job.begins = true → id ∉ job.promises.map (·.id)

private theorem mem_promisesIn
    {commands : List (Command app)} {message : Request} {options : Options} {sink : Sink app}
    (isTaken : .request message options sink ∈ commands) :
    message.id ∈ (promisesIn commands).map (·.id) :=
  List.mem_map.mpr ⟨⟨message.id, sink⟩, List.mem_filterMap.mpr ⟨_, isTaken, rfl⟩, rfl⟩

namespace Machine.Past

theorem not_head
    {machine : Machine app ω} {id : MessageId} (past : machine.Past id)
    {job : Job app} {rest : List (Job app)} (agenda : machine.agenda = job :: rest)
    (begins : job.begins = true) : id ∉ job.promises.map (·.id) :=
  past.gone job (by simp [agenda]) begins

variable [Wire ω] {before after : Machine app ω} {id : MessageId}

theorem stroke
    (past : before.Past id) (ledger : Ledger before) (bound : before.accepted.length ≤ 2 ^ 64)
    (stroke : Stroke before after) : after.Past id := by
  obtain ⟨taken, gone⟩ := past
  cases stroke with
  | @taken command rest agenda isRunning inbox =>
      refine ⟨?_, ?_⟩
      · change id ∈ (promisesIn (before.taken ++ [command])).map (·.id)
        rw [promisesIn_append, List.map_append]
        exact List.mem_append_left _ taken
      · intro job isJob begins isOwn
        rcases List.mem_pair.mp isJob with rfl | rfl
        · -- What comes from the inbox was not taken before.
          refine ledger.not_mem_taken_of_queued bound ?_ taken
          have split : promisesIn (command :: rest) =
              command.promise?.toList ++ promisesIn rest := by
            rw [← promisesIn_singleton, ← promisesIn_append, List.singleton_append]
          rw [Machine.queued, inbox, split, List.map_append]
          exact List.mem_append_left _ isOwn
        · contradiction
  | woken agenda isRunning =>
      refine ⟨taken, ?_⟩
      intro job isJob begins
      rw [List.mem_singleton.mp isJob] at begins
      contradiction
  | @worked head rest agenda =>
      refine ⟨taken, ?_⟩
      intro job isJob begins
      rcases List.mem_append.mp isJob with isNew | isLater
      · have move := head.move before.now before.connection (ledger.distinct bound)
        have isGone := gone head (by simp [agenda])
        obtain ⟨-, precedes⟩ := move.begins isNew begins
        cases precedes with
        | launch message options sink => exact isGone rfl
        | send message options sink => exact List.not_mem_nil
      · exact gone job (by simp [agenda, isLater]) begins
  | @reordered held hooks rest agenda =>
      refine ⟨taken, ?_⟩
      intro job isJob begins
      rcases List.mem_cons.mp isJob with rfl | isLater
      · contradiction
      · exact gone job (by simp [agenda, isLater]) begins
  | sent | still =>
      exact ⟨taken, gone⟩

/-- When the worker has come to a request, and has nothing more before it that might enter one, the
request is past. -/
theorem of_worked
    {job : Job app} {rest : List (Job app)} (sound : Sound before)
    (agenda : before.agenda = job :: rest) (taken : id ∈ (promisesIn before.taken).map (·.id))
    (silent : ∀ next ∈ (job.step before.now before.connection).jobs,
      id ∉ next.promises.map (·.id) ∨ next.begins = false) :
    (before.absorb rest (job.step before.now before.connection)).Past id := by
  refine ⟨taken, ?_⟩
  intro next isNext begins isOwn
  have quiet : next.begins = false := by
    rcases List.mem_append.mp isNext with isNew | isLater
    · exact (silent next isNew).resolve_left (not_not_intro isOwn)
    · exact sound.tracked.sending.head next (by rwa [agenda])
  rw [quiet] at begins
  contradiction

end Machine.Past

/-! ## What a step does to the table and to failures -/

/-- Only a request that is launched comes to the table. -/
theorem Posting.was_pending [Wire ω]
    {before : Connection app ω} {progress : Progress app ω} {job : Job app}
    (posting : Posting before progress job)
    (noLaunch : ∀ message options sink, job ≠ .launch message options sink)
    {entry : PendingRequest app} (isPending : entry ∈ progress.connection.books.pending) :
    entry ∈ before.pending := by
  cases posting with
  | drained fells jobs counted books =>
      rename_i books
      rw [books] at isPending
      contradiction
  | launched =>
      exact absurd rfl (noLaunch _ _ _)
  | expelled | withdrawn | matched | swept =>
      rename_i books
      rw [books] at isPending
      exact List.mem_of_mem_filter isPending
  | idle isIdle jobs books =>
      rw [books] at isPending
      exact isPending
  | _ =>
      rename_i books
      rw [books] at isPending
      exact isPending

theorem Machine.Fails.of_unworked [Wire ω]
    {before after : Machine app ω} {choice : Choice app ω} (booked : Booked before choice after)
    (unworked : choice = .work → before.agenda = []) {id : MessageId} {failure : Failure}
    (fails : after.Fails id failure) : before.Fails id failure := by
  cases booked with
  | worked agenda =>
      rw [unworked rfl] at agenda
      contradiction
  | taken =>
      refine fails.imp_right ?_
      rintro ⟨job, isJob, denies⟩
      rcases List.mem_pair.mp isJob with rfl | rfl <;> cases denies
  | woken =>
      refine fails.imp_right ?_
      rintro ⟨job, isJob, denies⟩
      rw [List.mem_singleton.mp isJob] at denies
      cases denies
  | @reordered held hooks rest agenda =>
      refine fails.imp_right ?_
      rintro ⟨job, isJob, denies⟩
      rcases List.mem_cons.mp isJob with rfl | isLater
      · cases denies
      · exact ⟨job, by simp [agenda, isLater], denies⟩
  | called isRunning agenda taken history books
  | beside unworked silent agenda taken history books =>
      unfold Fails at fails
      rwa [history, agenda] at fails

/-! ## Admissions along a schedule -/

/-- What is known of the requests that were entered along a schedule. -/
structure Timely (admissions : List Admission) (expiries : List (MessageId × Instant))
    (felled : List (MessageId × Failure)) (machine : Machine app ω) : Prop where
  past : ∀ entered ∈ admissions, machine.Past entered.id
  once : ∀ entered ∈ admissions, ∀ other ∈ admissions, entered.id = other.id → entered = other
  limited : ∀ entered ∈ admissions, ∃ message options sink,
    .request message options sink ∈ machine.taken ∧ message.id = entered.id ∧
      entered.limit = options.timeout.or machine.connection.defaultTimeout
  pending : ∀ entry ∈ machine.connection.pending, ∃ entered ∈ admissions,
    entered.id = entry.id ∧ entry.deadline = entered.limit.bind (Deadline.after? entered.time)
  expired : ∀ id clock, (id, clock) ∈ expiries → ∃ entered ∈ admissions, ∃ timeout,
    entered.id = id ∧ entered.limit = some timeout ∧
      entered.time.nanoseconds + timeout.nanoseconds < Instant.bound ∧
      entered.time.nanoseconds + timeout.nanoseconds ≤ clock.nanoseconds ∧
      machine.Fails id (.timedOut timeout)
  /-- Who fails as late was late, or was failed so by an order, or was never entered. -/
  late : ∀ id timeout, machine.Fails id (.timedOut timeout) →
    (id, .timedOut timeout) ∈ felled ∨
      (∃ entered ∈ admissions, ∃ clock, entered.id = id ∧ entered.limit = some timeout ∧
        (id, clock) ∈ expiries) ∨
      machine.Past id ∧ ∀ entered ∈ admissions, entered.id ≠ id

namespace Timely

variable [Wire ω] {admissions : List Admission} {expiries : List (MessageId × Instant)}
  {felled : List (MessageId × Failure)} {before after : Machine app ω}

private theorem unworked
    (timely : Timely admissions expiries felled before) (sound : Sound before)
    (bound : before.accepted.length ≤ 2 ^ 64) {choice : Choice app ω}
    (booked : Booked before choice after) (stroke : Stroke before after)
    (boundAfter : after.accepted.length ≤ 2 ^ 64)
    (unworked : choice = .work → before.agenda = [])
    (sameLimit : after.connection.defaultTimeout = before.connection.defaultTimeout) :
    Timely admissions expiries felled after := by
  have ledger := sound.tracked.ledger
  have samePending : after.connection.pending = before.connection.pending := by
    cases booked with
    | worked agenda =>
        rw [unworked rfl] at agenda
        contradiction
    | called isRunning agenda taken history books
    | beside unworked silent agenda taken history books =>
        exact congrArg Books.pending books
    | taken | woken | reordered =>
        rfl
  refine ⟨?_, timely.once, ?_, ?_, ?_, ?_⟩
  · intro entered isEntered
    exact (timely.past entered isEntered).stroke ledger bound stroke
  · intro entered isEntered
    obtain ⟨message, options, sink, isTaken, sameId, isLimit⟩ := timely.limited entered isEntered
    rw [← sameLimit] at isLimit
    exact ⟨message, options, sink, stroke.taken_prefix.subset isTaken, sameId, isLimit⟩
  · rw [samePending]
    exact timely.pending
  · intro id clock isExpired
    obtain ⟨entered, isEntered, timeout, sameId, isLimit, inTime, hasCome, fails⟩ :=
      timely.expired id clock isExpired
    exact ⟨entered, isEntered, timeout, sameId, isLimit, inTime, hasCome,
      fails.leads sound (.single stroke) boundAfter⟩
  · intro id timeout fails
    rcases timely.late id timeout (fails.of_unworked booked unworked) with
      isFelled | wasLate | ⟨past, absent⟩
    · exact .inl isFelled
    · exact .inr (.inl wasLate)
    · exact .inr (.inr ⟨past.stroke ledger bound stroke, absent⟩)

section Work

variable {job : Job app} {rest : List (Job app)}

private theorem past_worked
    (timely : Timely admissions expiries felled before) (sound : Sound before)
    (bound : before.accepted.length ≤ 2 ^ 64) (agenda : before.agenda = job :: rest)
    {entered : Admission}
    (isEntered : entered ∈ admissions ++ job.admissions before.now before.connection) :
    (before.absorb rest (job.step before.now before.connection)).Past entered.id := by
  rcases List.mem_append.mp isEntered with wasEntered | isNew
  · exact (timely.past entered wasEntered).stroke sound.tracked.ledger bound (.worked agenda)
  · obtain ⟨message, options, sink, rfl, rfl⟩ := eq_of_mem_admissions isNew
    have isTaken := sound.traced.launched message options sink (by simp [agenda])
    refine .of_worked sound agenda (mem_promisesIn isTaken) ?_
    intro next isNext
    rw [List.mem_singleton.mp isNext]
    exact .inl List.not_mem_nil

omit [Wire ω] in
private theorem once_worked
    (timely : Timely admissions expiries felled before) (agenda : before.agenda = job :: rest) :
    ∀ entered ∈ admissions ++ job.admissions before.now before.connection,
      ∀ other ∈ admissions ++ job.admissions before.now before.connection,
        entered.id = other.id → entered = other := by
  -- What was entered earlier is past, and so it is not launched again.
  have apart {entered other : Admission} (wasEntered : entered ∈ admissions)
      (isNew : other ∈ job.admissions before.now before.connection) : entered.id ≠ other.id := by
    obtain ⟨message, options, sink, rfl, rfl⟩ := eq_of_mem_admissions isNew
    intro sameId
    apply (timely.past entered wasEntered).not_head agenda rfl
    exact List.mem_singleton.mpr sameId
  intro entered isEntered other isOther sameId
  rcases List.mem_append.mp isEntered with wasEntered | isNew
  · rcases List.mem_append.mp isOther with wasOther | isNewOther
    · exact timely.once entered wasEntered other wasOther sameId
    · exact absurd sameId (apart wasEntered isNewOther)
  · rcases List.mem_append.mp isOther with wasOther | isNewOther
    · exact absurd sameId.symm (apart wasOther isNew)
    · obtain ⟨message, options, sink, rfl, rfl⟩ := eq_of_mem_admissions isNew
      exact (List.mem_singleton.mp isNewOther).symm

private theorem pending_worked
    (timely : Timely admissions expiries felled before) {entry : PendingRequest app}
    (isPending : entry ∈ (job.step before.now before.connection).connection.pending) :
    ∃ entered ∈ admissions ++ job.admissions before.now before.connection,
      entered.id = entry.id ∧ entry.deadline = entered.limit.bind (Deadline.after? entered.time) := by
  by_cases isLaunch : ∃ message options sink, job = .launch message options sink
  · obtain ⟨message, options, sink, rfl⟩ := isLaunch
    rw [pending_launch] at isPending
    rcases List.mem_append.mp isPending with wasPending | isNew
    · obtain ⟨entered, isEntered, sameId, isDeadline⟩ :=
        timely.pending entry (List.mem_of_mem_filter wasPending)
      exact ⟨entered, List.mem_append_left _ isEntered, sameId, isDeadline⟩
    · rw [List.mem_singleton.mp isNew]
      exact ⟨_, List.mem_append_right _ List.mem_cons_self, rfl, rfl⟩
  · have wasPending : entry ∈ before.connection.pending := by
      refine (job.posting before.now before.connection).was_pending ?_ isPending
      rintro message options sink rfl
      exact isLaunch ⟨message, options, sink, rfl⟩
    obtain ⟨entered, isEntered, sameId, isDeadline⟩ := timely.pending entry wasPending
    exact ⟨entered, List.mem_append_left _ isEntered, sameId, isDeadline⟩

omit [Wire ω] in
/-- Whose time is up was entered with a limit that is over now. -/
private theorem admission_of_due
    (timely : Timely admissions expiries felled before) {entry : PendingRequest app}
    (isDue : entry ∈ before.connection.pending.due before.now) :
    ∃ entered ∈ admissions, ∃ timeout, entered.id = entry.id ∧ entered.limit = some timeout ∧
      entered.time.nanoseconds + timeout.nanoseconds < Instant.bound ∧
      entered.time.nanoseconds + timeout.nanoseconds ≤ before.now.nanoseconds ∧
      entry.lateness = .timedOut timeout := by
  obtain ⟨deadline, isDeadline, hasCome, isLate⟩ := PendingTable.lateness_of_due isDue
  obtain ⟨entered, isEntered, sameId, made⟩ :=
    timely.pending entry (PendingTable.mem_due.mp isDue).1
  obtain ⟨isLimit, isTime, inTime⟩ := Admission.deadline_eq_some (made.symm.trans isDeadline)
  rw [isTime] at hasCome
  exact ⟨entered, isEntered, deadline.timeout, sameId, isLimit, inTime, hasCome, isLate⟩

private theorem expired_worked
    (timely : Timely admissions expiries felled before) (sound : Sound before)
    (agenda : before.agenda = job :: rest)
    (boundAfter : (before.absorb rest
      (job.step before.now before.connection)).accepted.length ≤ 2 ^ 64)
    {id : MessageId} {clock : Instant}
    (isExpired : (id, clock) ∈ expiries ++ job.expiries before.now before.connection) :
    ∃ entered ∈ admissions ++ job.admissions before.now before.connection, ∃ timeout,
      entered.id = id ∧ entered.limit = some timeout ∧
        entered.time.nanoseconds + timeout.nanoseconds < Instant.bound ∧
        entered.time.nanoseconds + timeout.nanoseconds ≤ clock.nanoseconds ∧
        (before.absorb rest (job.step before.now before.connection)).Fails id
          (.timedOut timeout) := by
  rcases List.mem_append.mp isExpired with wasExpired | isNew
  · obtain ⟨entered, isEntered, timeout, sameId, isLimit, inTime, hasCome, fails⟩ :=
      timely.expired id clock wasExpired
    exact ⟨entered, List.mem_append_left _ isEntered, timeout, sameId, isLimit, inTime, hasCome,
      fails.leads sound (.single (.worked agenda)) boundAfter⟩
  · obtain ⟨rfl, isRunning, rfl, entry, isDue, rfl⟩ := mem_expiries.mp isNew
    obtain ⟨entered, isEntered, timeout, sameId, isLimit, inTime, hasCome, isLate⟩ :=
      timely.admission_of_due isDue
    refine ⟨entered, List.mem_append_left _ isEntered, timeout, sameId, isLimit, inTime, hasCome,
      .inr ⟨.timeOut entry, List.mem_append_left _ ?_, .timeOut rfl isLate⟩⟩
    rw [jobs_sweep isRunning]
    exact List.mem_map_of_mem isDue

omit [Wire ω] in
/-- An order that fails what is pending has felled whom its jobs deny. -/
private theorem felled_of_denies
    {connection : Connection app ω} {command : Command app} {failure other : Failure}
    (fells : command.fells = some failure) {id : MessageId} {next : Job app}
    (isNext : next ∈ connection.pending.inOrder.map (fun entry => .finish entry (.error failure)) ++
      command.closing)
    (denies : next.Denies id other) :
    (id, other) ∈ (Job.carryOut command).felled connection := by
  rcases List.mem_append.mp isNext with isFinish | isClosing
  · obtain ⟨entry, isEntry, rfl⟩ := List.mem_map.mp isFinish
    cases denies with
    | finish sameId =>
        rw [Job.felled, fells, ← sameId]
        exact List.mem_map_of_mem isEntry
  · unfold Command.closing at isClosing
    split at isClosing
    · rw [List.mem_singleton.mp isClosing] at denies
      cases denies
    · rw [List.mem_singleton.mp isClosing] at denies
      cases denies
    · contradiction

/-- Who has failed as late before this job is still known to have been late, or failed so, or not to
have been entered. -/
private theorem late_stays
    (timely : Timely admissions expiries felled before) (sound : Sound before)
    (bound : before.accepted.length ≤ 2 ^ 64) (agenda : before.agenda = job :: rest)
    {id : MessageId} {timeout : Duration} (failed : before.Fails id (.timedOut timeout)) :
    (id, .timedOut timeout) ∈ felled ∨
      (∃ entered ∈ admissions, ∃ clock, entered.id = id ∧ entered.limit = some timeout ∧
        (id, clock) ∈ expiries) ∨
      (before.absorb rest (job.step before.now before.connection)).Past id ∧
        ∀ entered ∈ admissions ++ job.admissions before.now before.connection,
          entered.id ≠ id := by
  refine (timely.late id timeout failed).imp_right fun known => known.imp_right ?_
  rintro ⟨past, absent⟩
  refine ⟨past.stroke sound.tracked.ledger bound (.worked agenda), ?_⟩
  intro entered isEntered sameId
  rcases List.mem_append.mp isEntered with wasEntered | isNew
  · exact absent entered wasEntered sameId
  · obtain ⟨message, options, sink, rfl, rfl⟩ := eq_of_mem_admissions isNew
    exact past.not_head agenda rfl (List.mem_singleton.mpr sameId.symm)

/-- Who is turned away at a closed connection was never entered. -/
private theorem turned_away
    (timely : Timely admissions expiries felled before) (sound : Sound before)
    {message : Request} {options : Options} {sink : Sink app} {failure : Failure}
    (agenda : before.agenda = .carryOut (.request message options sink) :: rest)
    (isClosed : before.connection.closed = some failure) :
    (before.absorb rest ((Job.carryOut (.request message options sink)).step before.now
        before.connection)).Past message.id ∧
      ∀ entered ∈ admissions, entered.id ≠ message.id := by
  refine ⟨?_, ?_⟩
  · have isTaken := sound.traced.carried _ (agenda ▸ List.mem_cons_self)
    refine .of_worked sound agenda (mem_promisesIn isTaken) ?_
    intro next isNext
    have refusal : before.connection.refusal? options = some failure := by
      rw [refusal?, isClosed]
    simp only [Job.step, Connection.begin, weigh, refusal, List.mem_singleton] at isNext
    rw [isNext]
    exact .inr rfl
  · intro entered isEntered sameEntered
    apply (timely.past entered isEntered).not_head agenda rfl
    exact List.mem_singleton.mpr sameEntered

/-- Whom the look at the deadlines fails was entered with the limit that he is told. -/
private theorem late_of_swept
    (timely : Timely admissions expiries felled before) {id : MessageId} {timeout : Duration}
    {next : Job app} (isNext : next ∈ (Job.sweep.step before.now before.connection).jobs)
    (denies : next.Denies id (.timedOut timeout)) :
    ∃ entered ∈ admissions, entered.id = id ∧ entered.limit = some timeout ∧
      (id, before.now) ∈ Job.sweep.expiries before.now before.connection := by
  have isRunning : before.connection.running = true := by
    by_contra hasStopped
    rw [Job.step, if_neg hasStopped] at isNext
    contradiction
  rw [jobs_sweep isRunning] at isNext
  obtain ⟨entry, isDue, rfl⟩ := List.mem_map.mp isNext
  obtain ⟨entered, isEntered, limit, sameEntered, isLimit, -, -, isLate⟩ :=
    timely.admission_of_due isDue
  generalize isFailure : Failure.timedOut timeout = failure at denies
  cases denies with
  | timeOut isOwn isSame =>
      have sameLimit : timeout = limit := by
        rw [isLate, ← isFailure] at isSame
        exact (Failure.timedOut.inj isSame).symm
      exact ⟨entered, isEntered, sameEntered.trans isOwn, sameLimit ▸ isLimit,
        mem_expiries.mpr ⟨rfl, isRunning, rfl, entry, isDue, isOwn⟩⟩

private theorem late_worked
    (timely : Timely admissions expiries felled before) (sound : Sound before)
    (bound : before.accepted.length ≤ 2 ^ 64) (agenda : before.agenda = job :: rest)
    {id : MessageId} {timeout : Duration}
    (fails : (before.absorb rest (job.step before.now before.connection)).Fails id
      (.timedOut timeout)) :
    (id, .timedOut timeout) ∈ felled ++ job.felled before.connection ∨
      (∃ entered ∈ admissions ++ job.admissions before.now before.connection, ∃ clock,
        entered.id = id ∧ entered.limit = some timeout ∧
          (id, clock) ∈ expiries ++ job.expiries before.now before.connection) ∨
      (before.absorb rest (job.step before.now before.connection)).Past id ∧
        ∀ entered ∈ admissions ++ job.admissions before.now before.connection,
          entered.id ≠ id := by
  have distinct := sound.tracked.ledger.distinct bound
  -- The request has failed before, or this job fails it, and then its cause says why.
  rcases fails.of_stroke distinct (.worked agenda) with
    failed | ⟨head, others, isAgenda, -, next, isNext, denies, cause⟩
  · rcases timely.late_stays sound bound agenda failed with
      isFelled | ⟨entered, isEntered, clock, sameId, isLimit, isExpired⟩ | turnedAway
    · exact .inl (List.mem_append_left _ isFelled)
    · exact .inr (.inl ⟨entered, List.mem_append_left _ isEntered, clock, sameId, isLimit,
        List.mem_append_left _ isExpired⟩)
    · exact .inr (.inr turnedAway)
  · rw [agenda] at isAgenda
    obtain ⟨rfl, rfl⟩ := List.cons.inj isAgenda
    generalize isFailure : Failure.timedOut timeout = failure at denies cause ⊢
    cases cause with
    | @closed message options sink _ sameId isClosed =>
        subst sameId
        obtain ⟨past, absent⟩ := timely.turned_away sound agenda isClosed
        refine .inr (.inr ⟨past, fun entered isEntered => absent entered ?_⟩)
        exact (List.mem_append.mp isEntered).resolve_right List.not_mem_nil
    | failed failure =>
        left
        refine List.mem_append_right _ (felled_of_denies rfl ?_ denies)
        change next ∈ (before.connection.drain failure).jobs at isNext
        rw [(drain_spec failure before.connection).1] at isNext
        exact List.mem_append_left _ isNext
    | drained failure =>
        left
        refine List.mem_append_right _ (felled_of_denies rfl ?_ denies)
        change next ∈ (before.connection.drain failure).jobs ++ [.shut failure] at isNext
        rw [(drain_spec failure before.connection).1] at isNext
        exact isNext
    | late isPending sameId =>
        obtain ⟨entered, isEntered, sameEntered, isLimit, isExpired⟩ :=
          timely.late_of_swept isNext (isFailure ▸ denies)
        exact .inr (.inl ⟨entered, List.mem_append_left _ isEntered, before.now, sameEntered,
          isLimit, List.mem_append_right _ isExpired⟩)
    | barred | cancelled | stopped | refused =>
        cases isFailure

private theorem worked
    (timely : Timely admissions expiries felled before) (sound : Sound before)
    (bound : before.accepted.length ≤ 2 ^ 64) (agenda : before.agenda = job :: rest)
    (sameLimit : (job.step before.now before.connection).connection.defaultTimeout =
      before.connection.defaultTimeout)
    (boundAfter : (before.absorb rest
      (job.step before.now before.connection)).accepted.length ≤ 2 ^ 64) :
    Timely (admissions ++ job.admissions before.now before.connection)
      (expiries ++ job.expiries before.now before.connection)
      (felled ++ job.felled before.connection)
      (before.absorb rest (job.step before.now before.connection)) := by
  refine ⟨fun _ => timely.past_worked sound bound agenda, timely.once_worked agenda, ?_,
    fun _ => timely.pending_worked, fun _ _ => timely.expired_worked sound agenda boundAfter,
    fun _ _ => timely.late_worked sound bound agenda⟩
  intro entered isEntered
  change ∃ message options sink, _ ∈ before.taken ∧ _ ∧ _ =
    Option.or _ (job.step before.now before.connection).connection.defaultTimeout
  rw [sameLimit]
  rcases List.mem_append.mp isEntered with wasEntered | isNew
  · exact timely.limited entered wasEntered
  · obtain ⟨message, options, sink, rfl, rfl⟩ := eq_of_mem_admissions isNew
    have isTaken := sound.traced.launched message options sink (by simp [agenda])
    exact ⟨message, options, sink, isTaken, rfl, rfl⟩

end Work

end Timely

theorem timely_run [Wire ω]
    (wire : ω) (memory : app.Memory) (defaultTimeout : Option Duration)
    (schedule : List (Choice app ω)) :
    let start : Machine app ω := .start wire memory defaultTimeout
    (start.run schedule).accepted.length ≤ 2 ^ 64 →
      Timely (start.admissions schedule) (start.expiries schedule) (start.felled schedule)
        (start.run schedule) := by
  intro start
  have reachable : start.Reachable := ⟨wire, memory, defaultTimeout, [], rfl⟩
  refine (reachable.schedule_induction
    (fun schedule reached => reached.Attained ∧
      (reached.accepted.length ≤ 2 ^ 64 → Timely (start.admissions schedule)
        (start.expiries schedule) (start.felled schedule) reached)) ?_ ?_ schedule).2
  · refine ⟨⟨wire, memory, defaultTimeout, .refl⟩, fun _ => ⟨nofun, nofun, nofun, nofun, nofun, ?_⟩⟩
    rintro id timeout (isGiven | ⟨job, isJob, -⟩)
    · contradiction
    · contradiction
  · rintro schedule choice - booked ⟨attained, timely⟩
    have stroke := (start.run schedule).stroke choice
    refine ⟨attained.leads (.single stroke), fun boundAfter => ?_⟩
    have bound := stroke.bound boundAfter
    have sound := attained.sound bound
    have sameLimit := (start.run schedule).limit_next choice
    rw [Machine.admissions, Machine.expiries, Machine.felled, Machine.readings_snoc,
      Machine.readings_snoc, Machine.jottings_snoc]
    by_cases works : choice = .work ∧ ∃ job rest, (start.run schedule).agenda = job :: rest
    · obtain ⟨rfl, job, rest, agenda⟩ := works
      have isNext : (start.run schedule).next .work = (start.run schedule).absorb rest
          (job.step (start.run schedule).now (start.run schedule).connection) := by
        rw [Machine.next, agenda]
      rw [Machine.jotted_work _ agenda, Machine.jotted_work _ agenda,
        Machine.jotted_work _ agenda]
      rw [isNext] at sameLimit boundAfter ⊢
      exact (timely bound).worked sound bound agenda sameLimit boundAfter
    · have unworked : choice = .work → (start.run schedule).agenda = [] := by
        intro isWork
        by_contra busy
        obtain ⟨job, rest, agenda⟩ := List.exists_cons_of_ne_nil busy
        exact works ⟨isWork, job, rest, agenda⟩
      rw [Machine.jotted_of_unworked unworked, Machine.jotted_of_unworked unworked,
        Machine.jotted_of_unworked unworked, List.append_nil, List.append_nil, List.append_nil]
      exact (timely bound).unworked sound bound booked stroke boundAfter unworked sameLimit

/-! ## The look at the deadlines -/

/-- What the log tells of requests that are late: of each, that the observers were told of it, and
then its outcome. -/
def latenessOf (entries : List (PendingRequest app)) : List (Occurrence app) :=
  entries.flatMap fun entry =>
    [.emitted (.requestTimedOut entry.id entry.method),
      .completed entry.id (.error entry.lateness)]

private theorem owingOf_timeOut (entries : List (PendingRequest app)) :
    owingOf (entries.map .timeOut) = latenessOf entries := by
  rw [owingOf, List.flatMap_map]
  rfl

namespace PendingTable

variable {table : PendingTable app} {now : Instant}

theorem mem_notDue_iff {entry : PendingRequest app} :
    entry ∈ table.notDue now ↔ entry ∈ table ∧ ∀ deadline, entry.deadline = some deadline →
      now.nanoseconds < deadline.time.nanoseconds := by
  rw [mem_notDue]
  refine and_congr_right fun _ => ?_
  rw [← Bool.not_eq_true, isDue_iff]
  simp only [not_exists, not_and, Nat.not_le]

end PendingTable

variable [Wire ω]

/-- The worker ends those that are late, and then has nothing more before it. -/
private theorem windsUp_sweep
    {machine : Machine app ω} (agenda : machine.agenda = [.sweep])
    (isRunning : machine.connection.running = true) :
    ∃ stats, (machine.next .work).WindsUp []
      (machine.connection.pending.notDue machine.now)
      (machine.connection.marks ++ latenessOf (machine.connection.pending.due machine.now))
      stats := by
  have isNext : machine.next .work =
      machine.absorb [] (Job.sweep.step machine.now machine.connection) := by
    rw [Machine.next, agenda]
  refine ⟨_, (machine.connection.pending.due machine.now).map .timeOut, ?_, ?_, ?_, ?_, rfl⟩
  · rw [isNext, Machine.absorb, jobs_sweep isRunning]
  · intro job isJob
    obtain ⟨entry, -, rfl⟩ := List.mem_map.mp isJob
    rfl
  · rw [isNext]
    change (Job.sweep.step machine.now machine.connection).connection.pending = _
    rw [Job.step, if_pos isRunning, Connection.sweep]
    split
    · rename_i nothing
      exact (PendingTable.notDue_eq_self nothing).symm
    · rfl
  · rw [isNext, owingOf_timeOut]
    change (Job.sweep.step machine.now machine.connection).connection.marks ++ _ = _
    rw [Job.step, if_pos isRunning, Connection.sweep]
    split <;> rfl

/-- The same without interruption. -/
private theorem expire_spec (now : Instant) (connection : Connection app ω) :
    (connection.expire now).pending = connection.pending.notDue now ∧
      (connection.expire now).marks =
        connection.marks ++ latenessOf (connection.pending.due now) := by
  unfold expire
  split
  · rename_i nothing
    rw [PendingTable.notDue_eq_self nothing, nothing]
    exact ⟨rfl, (List.append_nil _).symm⟩
  · rename_i first rest isDue
    have late (started : Connection app ω) (entry : PendingRequest app) :
        Settles now [.timeOut entry] started (started.timeOut entry) :=
      Settles.timeOut started entry
    have settles := Settles.map late (first :: rest)
      { connection with pending := connection.pending.notDue now }.countPending
    obtain ⟨pending, marks, -⟩ := settles.winds <| by
      intro job isJob
      obtain ⟨entry, -, rfl⟩ := List.mem_map.mp isJob
      rfl
    rw [owingOf_timeOut] at marks
    rw [isDue]
    exact ⟨pending, marks⟩

/-- Nothing is pending once the worker has stopped. -/
private theorem stopped_of_reachable
    {machine : Machine app ω} (reachable : machine.Reachable) : Stopped machine := by
  refine (reachable.induction
    (fun reached => (GoingOn reached ∨ Ending reached) ∧ Stopped reached) ?_ ?_).2
  · intro wire memory defaultTimeout
    exact ⟨.inl ⟨rfl, rfl, rfl⟩, nofun⟩
  · rintro before after distinct ⟨phase, stopped⟩ stroke
    refine ⟨?_, stopped.stroke phase distinct stroke⟩
    rcases phase with goingOn | ending
    · exact goingOn.stroke distinct stroke
    · exact .inr (ending.stroke distinct stroke)

/-- Whom the worker times out has a deadline, so that nobody is cancelled for lack of one. -/
private theorem deadline_of_timeOut
    {machine : Machine app ω} (reachable : machine.Reachable) {entry : PendingRequest app}
    (isListed : .timeOut entry ∈ machine.agenda) :
    ∃ deadline, entry.deadline = some deadline := by
  revert isListed
  refine reachable.booked_induction
    (fun reached => .timeOut entry ∈ reached.agenda → ∃ deadline, entry.deadline = some deadline)
    (fun _ _ _ isListed => absurd isListed List.not_mem_nil) ?_
  intro before choice after orderly booked held isListed
  cases booked with
  | taken | woken =>
      simp at isListed
  | @worked job rest agenda =>
      rcases List.mem_append.mp isListed with isNew | isLater
      · obtain ⟨now, isDue⟩ := (job.posting before.now before.connection).mayBring isNew
        obtain ⟨deadline, isDeadline, -⟩ := PendingTable.lateness_of_due isDue
        exact ⟨deadline, isDeadline⟩
      · exact held (by simp [agenda, isLater])
  | reordered agenda =>
      exact held (by simpa [agenda] using isListed)
  | called isRunning agenda | beside unworked silent agenda =>
      exact held (agenda ▸ isListed)

/-- A request that was entered fails as late only with its own limit, or else that of the connection,
when the clock has come to the end of that; or an order has failed it with just that while it was
pending. One whose limit the clock cannot show is never late. No deadline is before the earliest
one; the look at the deadlines takes somebody out of the table just when that one has come, and so
it does when the worker wakes up for it. This look is the last thing in an iteration. It takes out
whoever is late by then and nobody else, and before the next iteration the log tells of those, in
the order of their identifiers, that observers were told of each and then its outcome. Whoever is
taken out has a deadline, and comes to no other failure. Nothing is pending once the worker has
stopped. For what concerns identifiers, they must not start over, which they do after `2 ^ 64`
requests. -/
theorem timeouts_keep_to_deadlines
    (wire : ω) (memory : app.Memory) (defaultTimeout : Option Duration)
    (schedule : List (Choice app ω)) :
    let start : Machine app ω := .start wire memory defaultTimeout
    let machine := start.run schedule
    let table := machine.connection.pending
    (machine.accepted.length ≤ 2 ^ 64 → ∀ entered ∈ start.admissions schedule,
      (∃ message options sink, .request message options sink ∈ machine.taken ∧
        message.id = entered.id ∧ entered.limit = options.timeout.or defaultTimeout) ∧
      (∀ timeout, (entered.id, .error (.timedOut timeout)) ∈ machine.connection.outcomes →
        (entered.id, .timedOut timeout) ∈ start.felled schedule ∨
          entered.limit = some timeout ∧ ∃ clock, (entered.id, clock) ∈ start.expiries schedule ∧
            entered.time.nanoseconds + timeout.nanoseconds ≤ clock.nanoseconds) ∧
      ∀ clock, (entered.id, clock) ∈ start.expiries schedule → ∃ timeout,
        entered.limit = some timeout ∧
          entered.time.nanoseconds + timeout.nanoseconds < Instant.bound ∧
          entered.time.nanoseconds + timeout.nanoseconds ≤ clock.nanoseconds ∧
          (machine.agenda = [] →
            (entered.id, .error (.timedOut timeout)) ∈ machine.connection.outcomes)) ∧
    ((∀ entry ∈ table, ∀ deadline, entry.deadline = some deadline →
        ∃ first, table.nextDeadline = some first ∧
          first.nanoseconds ≤ deadline.time.nanoseconds) ∧
      (∀ now, (table.notDue now).length < table.length ↔
        ∃ first, table.nextDeadline = some first ∧ first.nanoseconds ≤ now.nanoseconds) ∧
      (machine.agenda = [] → machine.connection.running = true →
        ∀ first, table.nextDeadline = some first → first.nanoseconds ≤ machine.now.nanoseconds →
          (machine.run [.wake, .work]).connection.pending.length < table.length)) ∧
    ((machine.connection.running = false → table = []) ∧
      ∀ rest, machine.agenda = .sweep :: rest → machine.connection.running = true →
        rest = [] ∧ ∀ later, (∀ choice ∈ later, choice.begins = false) →
          let reached := (machine.next .work).run later
          reached.connection.pending = table.notDue machine.now ∧
            (∀ entry, entry ∈ reached.connection.pending ↔ entry ∈ table ∧
              ∀ deadline, entry.deadline = some deadline →
                machine.now.nanoseconds < deadline.time.nanoseconds) ∧
            ∃ owed, reached.connection.marks ++ owed =
                machine.connection.marks ++ latenessOf (table.due machine.now) ∧
              (reached.agenda = [] → owed = [])) ∧
    (∀ now, (table.due now).Pairwise (fun left right => left.id.before right.id = true) ∧
      ∀ entry ∈ table.due now, ∃ deadline, entry.deadline = some deadline ∧
        deadline.time.nanoseconds ≤ now.nanoseconds ∧
        entry.lateness = .timedOut deadline.timeout) ∧
    (∀ entry, .timeOut entry ∈ machine.agenda → ∃ deadline, entry.deadline = some deadline) ∧
    ∀ (connection : Connection app ω) (now : Instant),
      (connection.expire now).pending = connection.pending.notDue now ∧
        (connection.expire now).marks =
          connection.marks ++ latenessOf (connection.pending.due now) := by
  intro start machine table
  have reachable : machine.Reachable := ⟨wire, memory, defaultTimeout, schedule, rfl⟩
  refine ⟨?_, ⟨?_, ?_, ?_⟩, ⟨(stopped_of_reachable reachable · |>.1), ?_⟩, ?_,
    fun _ => deadline_of_timeOut reachable, fun connection now => expire_spec now connection⟩
  · intro bound entered isEntered
    have timely := timely_run wire memory defaultTimeout schedule bound
    have ledger := Ledger.of_reachable reachable bound
    have sameLimit : machine.connection.defaultTimeout = defaultTimeout := start.limit_run schedule
    have wasLate {clock : Instant} (isExpired : (entered.id, clock) ∈ start.expiries schedule) :
        ∃ timeout, entered.limit = some timeout ∧
          entered.time.nanoseconds + timeout.nanoseconds < Instant.bound ∧
          entered.time.nanoseconds + timeout.nanoseconds ≤ clock.nanoseconds ∧
          machine.Fails entered.id (.timedOut timeout) := by
      obtain ⟨other, isOther, timeout, sameId, isLimit, inTime, hasCome, fails⟩ :=
        timely.expired entered.id clock isExpired
      obtain rfl := timely.once other isOther entered isEntered sameId
      exact ⟨timeout, isLimit, inTime, hasCome, fails⟩
    refine ⟨?_, ?_, ?_⟩
    · obtain ⟨message, options, sink, isTaken, sameId, isLimit⟩ :=
        timely.limited entered isEntered
      exact ⟨message, options, sink, isTaken, sameId, sameLimit ▸ isLimit⟩
    · intro timeout isGiven
      rw [ledger.outcomes] at isGiven
      rcases timely.late entered.id timeout (.inl isGiven) with
        isFelled | ⟨other, isOther, clock, sameId, isLimit, isExpired⟩ | ⟨-, absent⟩
      · exact .inl isFelled
      · obtain rfl := timely.once other isOther entered isEntered sameId
        obtain ⟨limit, isOwn, -, hasCome, -⟩ := wasLate isExpired
        obtain rfl := Option.some.inj (isLimit.symm.trans isOwn)
        exact .inr ⟨isLimit, clock, isExpired, hasCome⟩
      · exact absurd rfl (absent entered isEntered)
    · intro clock isExpired
      obtain ⟨timeout, isLimit, inTime, hasCome, fails⟩ := wasLate isExpired
      refine ⟨timeout, isLimit, inTime, hasCome, ?_⟩
      intro idle
      rcases fails with isGiven | ⟨job, isJob, -⟩
      · exact ledger.outcomes ▸ isGiven
      · rw [idle] at isJob
        contradiction
  · intro entry isEntry deadline isDeadline
    exact PendingTable.nextDeadline_le isEntry isDeadline
  · intro now
    rw [PendingTable.length_notDue_lt_iff, PendingTable.due_ne_nil_iff]
  · intro idle isRunning first isFirst hasCome
    have isWoken : machine.next .wake = { machine with agenda := [.sweep] } := by
      rw [Machine.next, idle, isRunning]
    have wokenAgenda : ({ machine with agenda := [.sweep] } : Machine app ω).agenda = [.sweep] :=
      rfl
    obtain ⟨stats, -, -, -, pending, -⟩ := windsUp_sweep wokenAgenda isRunning
    change ((machine.next .wake).next .work).connection.pending.length < _
    rw [isWoken, pending]
    exact PendingTable.length_notDue_lt_iff.mpr
      (PendingTable.due_ne_nil_iff.mpr ⟨first, isFirst, hasCome⟩)
  · intro rest agenda isRunning
    have ahead : machine.agenda = [] ++ .sweep :: rest := agenda
    have isLast : rest = [] := last_of_sweep reachable ahead
    refine ⟨isLast, ?_⟩
    intro later continues reached
    rw [isLast] at agenda
    obtain ⟨stats, windsUp⟩ := windsUp_sweep agenda isRunning
    obtain ⟨jobs, reachedAgenda, -, pending, marks, -⟩ := windsUp.run continues
    refine ⟨pending, ?_, owingOf jobs, marks, ?_⟩
    · intro entry
      rw [pending, PendingTable.mem_notDue_iff]
    · intro idle
      rw [reachedAgenda, List.append_nil] at idle
      rw [idle]
      rfl
  · intro now
    exact ⟨PendingTable.ascending_due (distinct_of_reachable reachable) now,
      fun entry => PendingTable.lateness_of_due⟩

/-- Who was told to be late, and after which time. -/
def Connection.timedOut (connection : Connection app ω) : List (MessageId × Duration) :=
  connection.outcomes.filterMap fun given =>
    match given.2 with
    | .error (.timedOut timeout) => some (given.1, timeout)
    | _ => none

omit [Wire ω] in
private theorem mem_timedOut
    {connection : Connection app ω} {id : MessageId} {timeout : Duration} :
    (id, timeout) ∈ connection.timedOut ↔ (id, .error (.timedOut timeout)) ∈ connection.outcomes := by
  unfold Connection.timedOut
  rw [List.mem_filterMap]
  constructor
  · rintro ⟨⟨other, outcome⟩, isGiven, isLate⟩
    dsimp only at isLate
    split at isLate
    · cases isLate
      exact isGiven
    · contradiction
  · intro isGiven
    exact ⟨_, isGiven, rfl⟩

/-- A request of the bare application that may take so long. -/
def askWithin (limit : Option Duration) : List (Choice bare (MemoryWire Unit)) :=
  .act (.request "ask" (.ok none) ⟨limit, none⟩ (.callback fun _ => .done)) :: .take ::
    List.replicate 4 .work

/-- At the instant 3, three requests are sent: one within 5, one within more than the clock can
show, and one within the limit of the connection, which is 7. At the instant 8 the worker wakes up;
then a request is sent within nothing. At the instant 10 the worker has not woken up yet. -/
def fourLimits : List (Choice bare (MemoryWire Unit)) :=
  .pass ⟨3⟩ :: askWithin (some ⟨5⟩) ++ askWithin (some .greatest) ++ askWithin none ++
    .pass ⟨8⟩ :: .wake :: List.replicate 8 .work ++ askWithin (some ⟨0⟩) ++
    List.replicate 8 .work ++ [.pass ⟨10⟩]

def afterFourLimits : Machine bare (MemoryWire Unit) :=
  (Machine.start .new () (some ⟨7⟩)).run fourLimits

theorem four_limits_are_kept :
    let start : Machine bare (MemoryWire Unit) := .start .new () (some ⟨7⟩)
    let connection := afterFourLimits.connection
    let woken := afterFourLimits.next .wake
    afterFourLimits.accepted.length ≤ 2 ^ 64 ∧
      start.admissions fourLimits =
        [⟨.number 1, some ⟨5⟩, ⟨3⟩⟩, ⟨.number 2, some .greatest, ⟨3⟩⟩,
          ⟨.number 3, some ⟨7⟩, ⟨3⟩⟩, ⟨.number 4, some ⟨0⟩, ⟨8⟩⟩] ∧
      start.expiries fourLimits = [(.number 1, ⟨8⟩), (.number 4, ⟨8⟩)] ∧
      afterFourLimits.agenda = [] ∧ connection.running = true ∧
      (.number 1, .error (.timedOut ⟨5⟩)) ∈ connection.outcomes ∧
      connection.pending.nextDeadline = some ⟨10⟩ ∧ afterFourLimits.now = ⟨10⟩ ∧
      (afterFourLimits.run [.wake, .work]).connection.pending.length < connection.pending.length ∧
      woken.agenda = [.sweep] ∧ woken.connection.running = true ∧
      (woken.run [.work, .work]).connection.pending = woken.connection.pending.notDue ⟨10⟩ := by
  intro start connection woken
  have bound : afterFourLimits.accepted.length ≤ 2 ^ 64 := by decide +kernel
  have admissions : start.admissions fourLimits =
      [⟨.number 1, some ⟨5⟩, ⟨3⟩⟩, ⟨.number 2, some .greatest, ⟨3⟩⟩,
        ⟨.number 3, some ⟨7⟩, ⟨3⟩⟩, ⟨.number 4, some ⟨0⟩, ⟨8⟩⟩] := by decide +kernel
  have expiries : start.expiries fourLimits = [(.number 1, ⟨8⟩), (.number 4, ⟨8⟩)] := by
    decide +kernel
  have isIdle : afterFourLimits.agenda.isEmpty = true := by decide +kernel
  have idle := List.isEmpty_iff.mp isIdle
  have isRunning : connection.running = true := by decide +kernel
  have isNext : connection.pending.nextDeadline = some ⟨10⟩ := by decide +kernel
  have clock : afterFourLimits.now = ⟨10⟩ := by decide +kernel
  have hasCome : (⟨10⟩ : Instant).nanoseconds ≤ afterFourLimits.now.nanoseconds := by rw [clock]
  obtain ⟨law, ⟨-, -, wakes⟩, -⟩ :=
    timeouts_keep_to_deadlines (.new : MemoryWire Unit) (() : bare.Memory) (some ⟨7⟩) fourLimits
  have isEntered : ⟨.number 1, some ⟨5⟩, ⟨3⟩⟩ ∈ start.admissions fourLimits := by simp [admissions]
  have isExpired : (.number 1, ⟨8⟩) ∈ start.expiries fourLimits := by simp [expiries]
  obtain ⟨timeout, isLimit, -, -, ends⟩ := (law bound _ isEntered).2.2 ⟨8⟩ isExpired
  obtain rfl := Option.some.inj isLimit
  have isWoken : woken = { afterFourLimits with agenda := [.sweep] } := by
    change afterFourLimits.next .wake = _
    rw [Machine.next, idle, isRunning]
  have wokenAgenda : woken.agenda = [.sweep] := congrArg Machine.agenda isWoken
  have wokenRunning : woken.connection.running = true := isWoken ▸ isRunning
  have wokenClock : woken.now = ⟨10⟩ := isWoken ▸ clock
  obtain ⟨-, -, ⟨-, looks⟩, -⟩ :=
    timeouts_keep_to_deadlines (.new : MemoryWire Unit) (() : bare.Memory) (some ⟨7⟩)
      (fourLimits ++ [.wake])
  rw [Machine.run_append] at looks
  have swept := ((looks [] wokenAgenda wokenRunning).2 [.work] (by simp [Choice.begins])).1
  refine ⟨bound, admissions, expiries, idle, isRunning, ends idle, isNext, clock,
    wakes idle isRunning ⟨10⟩ isNext hasCome, wokenAgenda, wokenRunning, ?_⟩
  rw [← wokenClock]
  exact swept

/-- A request may take a minute; at once an order fails it, as if five milliseconds were over. -/
def failedAsLate : List (Choice bare (MemoryWire Unit)) :=
  askWithin (some (.ofMilliseconds 60000)) ++
    .act (.order (.failPending (.timedOut (.ofMilliseconds 5)))) :: .take ::
      List.replicate 8 .work

/-- Who is told to be late need not be late. -/
theorem failed_as_late_before_the_limit :
    ¬ ∀ schedule : List (Choice bare (MemoryWire Unit)),
      let start : Machine bare (MemoryWire Unit) := .start .new () none
      ∀ entered ∈ start.admissions schedule, ∀ timeout,
        (entered.id, .error (.timedOut timeout)) ∈ (start.run schedule).connection.outcomes →
          entered.limit = some timeout ∧
            entered.time.nanoseconds + timeout.nanoseconds ≤
              (start.run schedule).now.nanoseconds := by
  intro claimed
  have isEntered : ⟨.number 1, some (.ofMilliseconds 60000), ⟨0⟩⟩ ∈
      (Machine.start .new () none).admissions failedAsLate := by
    decide +kernel
  have isLate : (.number 1, .ofMilliseconds 5) ∈
      ((Machine.start .new () none).run failedAsLate).connection.timedOut := by
    decide +kernel
  obtain ⟨isLimit, -⟩ := claimed failedAsLate _ isEntered _ (mem_timedOut.mp isLate)
  revert isLimit
  decide

end RpcEndpoint
