import RpcEndpoint.Proofs.Closing.Reasons
import RpcEndpoint.Proofs.Requests.Deadlines
import RpcEndpoint.Proofs.Requests.Places
import RpcEndpoint.Proofs.Schedule.Turn

/-!
# Failing all at once

An order to fail the pending requests, to close or to shut down takes the whole table down and then
hands out the failures one after another. Callbacks and other threads come in between, and nothing
they do reaches a request that has left the table: what was completed and what is still to be
completed add up to the same from one step to the next.
-/

namespace RpcEndpoint

open Connection

variable {app : Application} {ω : Type}

/-! ## The order of the failures -/

namespace PendingTable

variable {table other : PendingTable app}

/-- The order in which a table holds its entries does not matter. -/
theorem inOrder_eq_of_perm (distinct : table.Distinct) (same : other.Perm table) :
    other.inOrder = table.inOrder := by
  have otherDistinct : other.Distinct := (same.map _).nodup_iff.mpr distinct
  have sameEntries : other.inOrder.Perm table.inOrder :=
    other.perm_inOrder.symm.trans (same.trans table.perm_inOrder)
  refine sameEntries.eq_of_pairwise ?_ (ascending_inOrder otherDistinct)
    (ascending_inOrder distinct)
  intro left right _ _ isBefore isAfter
  rw [MessageId.before_asymm isBefore] at isAfter
  contradiction

end PendingTable

namespace Connection

theorem jobs_drain (failure : Failure) (connection : Connection app ω) :
    (connection.drain failure).jobs =
      connection.pending.inOrder.map fun entry => .finish entry (.error failure) := by
  unfold drain
  cases connection.pending.inOrder with
  | nil => rfl
  | cons first rest => rfl

theorem deeds_drain (failure : Failure) (connection : Connection app ω) :
    (connection.drain failure).deeds = [] := by
  unfold drain
  cases connection.pending.inOrder with
  | nil => rfl
  | cons first rest => rfl

theorem closed_drain (failure : Failure) (connection : Connection app ω) :
    (connection.drain failure).connection.closed = connection.closed := by
  unfold drain
  cases connection.pending.inOrder with
  | nil => rfl
  | cons first rest => rfl

theorem sends_drain (failure : Failure) (connection : Connection app ω) :
    Sends [] { connection with pending := [] } (connection.drain failure).connection := by
  unfold drain
  cases isOrder : connection.pending.inOrder with
  | nil =>
      have isEmpty : connection.pending = [] := PendingTable.inOrder_eq_nil_iff.mp isOrder
      have same : { connection with pending := [] } = connection := by rw [← isEmpty]
      rw [same]
      exact .refl connection
  | cons first rest =>
      exact .quiet rfl rfl rfl rfl rfl rfl

/-- What takes the table down does not look at the order of its entries. -/
theorem drain_eq_of_perm
    {connection : Connection app ω} (distinct : connection.pending.Distinct)
    {table : PendingTable app} (same : table.Perm connection.pending) (failure : Failure) :
    { connection with pending := table }.drain failure = connection.drain failure := by
  have sameOrder : table.inOrder = connection.pending.inOrder :=
    PendingTable.inOrder_eq_of_perm distinct same
  unfold drain
  dsimp only
  rw [sameOrder]
  cases isOrder : connection.pending.inOrder with
  | nil =>
      have isEmpty : connection.pending = [] := PendingTable.inOrder_eq_nil_iff.mp isOrder
      have isEmptyToo : table = [] := PendingTable.inOrder_eq_nil_iff.mp (sameOrder.trans isOrder)
      rw [isEmptyToo, ← isEmpty]
  | cons first rest =>
      rfl

theorem begin_of_fells [Wire ω]
    {command : Command app} {failure : Failure} (fells : command.fells = some failure)
    (connection : Connection app ω) :
    connection.begin command =
      { connection.drain failure with
        jobs := (connection.drain failure).jobs ++ command.closing } := by
  unfold Command.fells at fells
  split at fells
  · obtain rfl := Option.some.inj fells
    simp [Connection.begin, heed, Command.closing]
  · obtain rfl := Option.some.inj fells
    rfl
  · obtain rfl := Option.some.inj fells
    rfl
  · contradiction

end Connection

theorem outcomesIn_append (left right : List (Deed app)) :
    outcomesIn (left ++ right) = outcomesIn left ++ outcomesIn right :=
  List.filterMap_append

/-! ## One step -/

namespace Job

/-- Whether a job hands out an outcome, or belongs to a callback that is told one. -/
def handsOut : Job app → Bool
  | .finish _ _ | .deliver _ _ => true
  | job => job.runs

/-- The completions that a job still brings. -/
def completing : Job app → List (Deed app)
  | .finish entry outcome => [.completed entry.promise outcome]
  | .deliver promise outcome => [.completed promise outcome]
  | _ => []

theorem handsOut_of_runs {job : Job app} (runs : job.runs = true) : job.handsOut = true := by
  cases job <;> first | rfl | contradiction

end Job

def completingOf (jobs : List (Job app)) : List (Deed app) :=
  jobs.flatMap Job.completing

theorem completingOf_append (left right : List (Job app)) :
    completingOf (left ++ right) = completingOf left ++ completingOf right :=
  List.flatMap_append

theorem completingOf_of_runs
    {jobs : List (Job app)} (running : ∀ job ∈ jobs, job.runs = true) : completingOf jobs = [] :=
  List.flatMap_eq_nil_iff.mpr
    (Job.of_runs (fun _ => rfl) (fun _ => rfl) (fun _ => rfl) running)

/-- A callback completes nothing by itself. -/
theorem deeds_of_runs [Wire ω]
    {job : Job app} (runs : job.runs = true) (now : Instant) (connection : Connection app ω) :
    (job.step now connection).deeds = [] := by
  cases job with
  | react reaction =>
      cases reaction <;> rfl
  | signal hooks =>
      cases hooks <;> rfl
  | release ticket =>
      rfl
  | _ =>
      contradiction

theorem deeds_of_deliver [Wire ω]
    (promise : Promise app) (outcome : Except Failure Bytes) (now : Instant)
    (connection : Connection app ω) :
    ((Job.deliver promise outcome).step now connection).deeds = [.completed promise outcome] := by
  change (connection.honour promise outcome).deeds = _
  unfold honour
  cases promise.sink with
  | mailbox schema => rfl
  | callback react => rfl

/-- A job completes what it has to complete, or leaves it to the jobs that come of it. -/
theorem step_of_handsOut [Wire ω]
    {job : Job app} (handsOut : job.handsOut = true) (now : Instant) (connection : Connection app ω) :
    (∀ next ∈ (job.step now connection).jobs, next.handsOut = true) ∧
      (job.step now connection).deeds ++ completingOf (job.step now connection).jobs =
        job.completing := by
  cases job.posting now connection with
  | idle isIdle jobs books =>
      have runs : job.runs = true := by
        cases job <;> first | rfl | contradiction
      have nothing : job.completing = [] := by
        cases job <;> first | rfl | contradiction
      refine ⟨fun next isNext => Job.handsOut_of_runs (jobs next isNext), ?_⟩
      rw [deeds_of_runs runs, completingOf_of_runs jobs, nothing]
      rfl
  | honoured jobs books =>
      refine ⟨fun next isNext => Job.handsOut_of_runs (jobs next isNext), ?_⟩
      rw [deeds_of_deliver, completingOf_of_runs jobs]
      rfl
  | finished jobs books =>
      refine ⟨?_, rfl⟩
      intro next isNext
      rw [jobs] at isNext
      rw [List.mem_singleton.mp isNext]
      rfl
  | _ =>
      contradiction

/-- What comes behind the failures: the end of the order and the look at the deadlines. -/
def Command.remainder (command : Command app) : List (Job app) :=
  command.closing ++ [.sweep]

theorem Command.mem_remainder {command : Command app} {job : Job app} :
    job ∈ command.remainder ↔
      (∃ reason, command = .order (.close reason) ∧ job = .shut reason) ∨
        command = .order .shutdown ∧ job = .halt ∨ job = .sweep := by
  unfold remainder closing
  split
  · simp
  · simp
  · rename_i notClose notShutdown
    constructor
    · intro isSweep
      exact .inr (.inr (List.mem_singleton.mp isSweep))
    · rintro (⟨reason, isClose, -⟩ | ⟨isShutdown, -⟩ | rfl)
      · exact absurd isClose (notClose reason)
      · exact absurd isShutdown notShutdown
      · exact List.mem_singleton_self _

/-- When nothing is pending, nothing comes of that. -/
theorem step_of_remainder [Wire ω]
    {command : Command app} {job : Job app} (isLeft : job ∈ command.remainder) (now : Instant)
    {connection : Connection app ω} (isEmpty : connection.pending = []) :
    (∀ next ∈ (job.step now connection).jobs, next.handsOut = true) ∧
      (job.step now connection).deeds ++ completingOf (job.step now connection).jobs =
        job.completing := by
  have nothing : (job.step now connection).jobs = [] ∧ (job.step now connection).deeds = [] ∧
      job.completing = [] := by
    rcases Command.mem_remainder.mp isLeft with ⟨reason, -, rfl⟩ | ⟨-, rfl⟩ | rfl
    · exact ⟨rfl, rfl, rfl⟩
    · exact ⟨rfl, rfl, rfl⟩
    · have noneDue : connection.pending.due now = [] := by
        simp [isEmpty, PendingTable.due, PendingTable.inOrder]
      have isProgress : Job.sweep.step now connection = { jobs := [], connection } := by
        rw [Job.step]
        split
        · rw [Connection.sweep, noneDue]
        · rfl
      rw [isProgress]
      exact ⟨rfl, rfl, rfl⟩
  obtain ⟨jobs, deeds, completing⟩ := nothing
  rw [jobs, deeds, completing]
  exact ⟨fun next isNext => absurd isNext List.not_mem_nil, rfl⟩

/-! ## Every schedule -/

/-- The worker is underway with the failures of a command: these completions have been promised
since it came to the command, and no other request is concerned. -/
structure Machine.Failing (base : Machine app ω) (command : Command app)
    (failed : List (Deed app)) (machine : Machine app ω) : Prop where
  jobs : ∀ job ∈ machine.agenda, job.handsOut = true ∨ job ∈ command.remainder
  empty : machine.connection.pending = []
  history : machine.history ++ completingOf machine.agenda = base.history ++ failed
  outcomes : machine.connection.outcomes ++ outcomesIn (completingOf machine.agenda) =
    base.connection.outcomes ++ outcomesIn failed
  inbox : command ≠ .order .shutdown → base.connection.inbox <+: machine.connection.inbox
  closed : (∀ reason, command ≠ .order (.close reason)) →
    machine.connection.closed = base.connection.closed

namespace Machine.Failing

variable [Wire ω] {base before after : Machine app ω} {command : Command app}
  {failed : List (Deed app)}

/-- The worker does the first step of a job. -/
theorem work
    (failing : base.Failing command failed before) {job : Job app} {rest : List (Job app)}
    (agenda : before.agenda = job :: rest) :
    base.Failing command failed
      (before.absorb rest (job.step before.now before.connection)) := by
  have isJob : job.handsOut = true ∨ job ∈ command.remainder :=
    failing.jobs job (agenda ▸ List.mem_cons_self)
  have stepped : (∀ next ∈ (job.step before.now before.connection).jobs, next.handsOut = true) ∧
      (job.step before.now before.connection).deeds ++
        completingOf (job.step before.now before.connection).jobs = job.completing := by
    rcases isJob with handsOut | isLeft
    · exact step_of_handsOut handsOut before.now before.connection
    · exact step_of_remainder isLeft before.now failing.empty
  have distinct : before.connection.pending.Distinct := by
    rw [failing.empty]
    exact List.nodup_nil
  have move := job.move before.now before.connection distinct
  have posting := job.posting before.now before.connection
  obtain ⟨newJobs, completing⟩ := stepped
  have paid : (job.step before.now before.connection).deeds ++
      completingOf ((job.step before.now before.connection).jobs ++ rest) =
        completingOf before.agenda := by
    rw [completingOf_append, ← List.append_assoc, completing, agenda]
    rfl
  refine ⟨?_, ?_, ?_, ?_, ?_, ?_⟩
  · intro next isNext
    rcases List.mem_append.mp isNext with isNew | isLater
    · exact .inl (newJobs next isNew)
    · exact failing.jobs next (agenda ▸ List.mem_cons_of_mem _ isLater)
  · refine posting.stays_empty failing.empty ?_
    rintro message options sink rfl
    rcases isJob with handsOut | isLeft
    · contradiction
    · simpa using Command.mem_remainder.mp isLeft
  · change before.history ++ (job.step before.now before.connection).deeds ++ _ = _
    rw [List.append_assoc]
    exact (congrArg (before.history ++ ·) paid).trans failing.history
  · change (job.step before.now before.connection).connection.outcomes ++ _ = _
    rw [move.outcomes, List.append_assoc, ← outcomesIn_append]
    exact (congrArg (before.connection.outcomes ++ outcomesIn ·) paid).trans failing.outcomes
  · intro spared
    have goesOn : job ≠ .halt := by
      rintro rfl
      rcases isJob with handsOut | isLeft
      · contradiction
      · simpa [spared] using Command.mem_remainder.mp isLeft
    obtain ⟨commands, inbox, -, -⟩ := (move.grows goesOn).inbox
    exact (failing.inbox spared).trans ⟨commands, inbox.symm⟩
  · intro keepsOpen
    rcases posting.reasons with ⟨same, -⟩ | ⟨reason, rfl, -, -⟩
    · exact same.trans (failing.closed keepsOpen)
    · rcases isJob with handsOut | isLeft
      · contradiction
      · simpa [keepsOpen] using Command.mem_remainder.mp isLeft

omit [Wire ω] in
/-- Another thread sends something, or touches what no request depends on. -/
theorem sent
    (failing : base.Failing command failed before) (flying : List Hook)
    {accepted : List MessageId} {connection : Connection app ω}
    (sends : Sends accepted before.connection connection)
    (closed : connection.closed = before.connection.closed) :
    base.Failing command failed
      ({ before with flying }.absorb before.agenda
        { jobs := [], connection, accepted }) := by
  obtain ⟨commands, inbox, -, -⟩ := sends.grows.inbox
  refine ⟨failing.jobs, sends.pending.trans failing.empty, ?_, ?_, ?_, ?_⟩
  · exact (congrArg (· ++ completingOf before.agenda) (List.append_nil _)).trans failing.history
  · exact (congrArg (· ++ _) sends.outcomes).trans failing.outcomes
  · exact fun spared => (failing.inbox spared).trans ⟨commands, inbox.symm⟩
  · exact fun keepsOpen => closed.trans (failing.closed keepsOpen)

/-- Only the worker closes the connection. -/
private theorem closed_next {choice : Choice app ω} (unworked : choice ≠ .work) :
    (before.next choice).connection.closed = before.connection.closed := by
  have booked := before.booked choice
  generalize before.next choice = after at booked
  cases booked with
  | worked agenda =>
      contradiction
  | taken | woken | reordered =>
      rfl
  | called isRunning agenda taken history books
  | beside notWorked silent agenda taken history books =>
      exact congrArg Books.closed books

/-- Until the worker takes another command, nothing else happens to requests. -/
theorem next
    (failing : base.Failing command failed before) {choice : Choice app ω}
    (untaken : (before.next choice).taken = before.taken) :
    base.Failing command failed (before.next choice) := by
  by_cases isWork : choice = .work
  · subst isWork
    cases agenda : before.agenda with
    | nil =>
        have same : before.next .work = before := by rw [Machine.next, agenda]
        rw [same]
        exact failing
    | cons job rest =>
        have worked : before.next .work =
            before.absorb rest (job.step before.now before.connection) := by
          rw [Machine.next, agenda]
        rw [worked]
        exact failing.work agenda
  · have closed : (before.next choice).connection.closed = before.connection.closed :=
      closed_next isWork
    have stroke := before.stroke choice
    generalize before.next choice = after at stroke closed untaken
    cases stroke with
    | taken agenda isRunning inbox =>
        simp at untaken
    | woken agenda isRunning =>
        have isIdle : completingOf before.agenda = [] := by rw [agenda]; rfl
        have history := failing.history
        have outcomes := failing.outcomes
        rw [isIdle] at history outcomes
        refine ⟨?_, failing.empty, history, outcomes, failing.inbox, failing.closed⟩
        intro job isJob
        rw [List.mem_singleton.mp isJob]
        exact .inr (Command.mem_remainder.mpr (.inr (.inr rfl)))
    | worked agenda =>
        exact failing.work agenda
    | @reordered held hooks rest agenda =>
        have history := failing.history
        have outcomes := failing.outcomes
        have jobs := failing.jobs
        rw [agenda] at history outcomes jobs
        refine ⟨?_, failing.empty, history, outcomes, failing.inbox, failing.closed⟩
        intro job isJob
        rcases List.mem_cons.mp isJob with rfl | isLater
        · exact .inl rfl
        · exact jobs job (List.mem_cons_of_mem _ isLater)
    | sent flying sends =>
        exact failing.sent flying sends closed
    | still now =>
        exact ⟨failing.jobs, failing.empty, failing.history, failing.outcomes, failing.inbox,
          failing.closed⟩

omit [Wire ω] in
/-- What is still to be completed can be counted from any moment. -/
theorem rebase (failing : base.Failing command failed before) :
    before.Failing command (completingOf before.agenda) before :=
  ⟨failing.jobs, failing.empty, rfl, rfl, fun _ => List.prefix_rfl, fun _ => rfl⟩

/-- This goes on as long as the worker takes no other command. -/
theorem run
    (failing : base.Failing command failed before) (schedule : List (Choice app ω))
    (untaken : (before.run schedule).taken = before.taken) :
    base.Failing command failed (before.run schedule) := by
  induction schedule generalizing before with
  | nil =>
      exact failing
  | cons choice later inductionHypothesis =>
      have first : before.taken <+: (before.next choice).taken :=
        before.taken_prefix_run [choice]
      have rest : (before.next choice).taken <+: ((before.next choice).run later).taken :=
        (before.next choice).taken_prefix_run later
      have same : ((before.next choice).run later).taken = before.taken := untaken
      have untakenFirst : (before.next choice).taken = before.taken :=
        (first.eq_of_length_le (same ▸ rest.length_le)).symm
      exact inductionHypothesis (failing.next untakenFirst) (same.trans untakenFirst.symm)

end Machine.Failing

/-- What is promised to the requests of a table, in their order, when they fail at once. -/
def failuresOf (failure : Failure) (table : PendingTable app) : List (Deed app) :=
  table.inOrder.map fun entry => .completed entry.promise (.error failure)

theorem outcomesIn_failuresOf (failure : Failure) (table : PendingTable app) :
    outcomesIn (failuresOf failure table) =
      (table.inOrder.map (·.id)).map (·, .error failure) := by
  simp [outcomesIn, failuresOf, List.filterMap_map, PendingRequest.promise, Deed.outcome?,
    Function.comp_def]

/-- The worker comes to a command that fails all pending requests. -/
theorem Machine.failing_of_fells [Wire ω]
    {machine : Machine app ω} {command : Command app} {failure : Failure}
    (agenda : machine.agenda = [.carryOut command, .sweep])
    (fells : command.fells = some failure) :
    machine.Failing command (failuresOf failure machine.connection.pending)
      (machine.next .work) := by
  have progress : (Job.carryOut command).step machine.now machine.connection =
      { machine.connection.drain failure with
        jobs := (machine.connection.drain failure).jobs ++ command.closing } :=
    begin_of_fells fells machine.connection
  have next : machine.next .work = machine.absorb [.sweep]
      { machine.connection.drain failure with
        jobs := (machine.connection.drain failure).jobs ++ command.closing } := by
    rw [Machine.next, agenda, ← progress]
  have sends := sends_drain failure machine.connection
  have behind : (machine.connection.drain failure).jobs ++ command.closing ++ [.sweep] =
      (machine.connection.pending.inOrder.map fun entry => .finish entry (.error failure)) ++
        command.remainder := by
    rw [jobs_drain, List.append_assoc]
    rfl
  have nothingBehind : completingOf command.remainder = [] := by
    refine List.flatMap_eq_nil_iff.mpr fun job isLeft => ?_
    rcases Command.mem_remainder.mp isLeft with ⟨reason, -, rfl⟩ | ⟨-, rfl⟩ | rfl <;> rfl
  have completing :
      completingOf ((machine.connection.drain failure).jobs ++ command.closing ++ [.sweep]) =
        failuresOf failure machine.connection.pending := by
    rw [behind, completingOf_append, nothingBehind, List.append_nil, completingOf,
      List.flatMap_map]
    exact List.map_eq_flatMap.symm
  rw [next]
  refine ⟨?_, sends.pending, ?_, ?_, ?_, ?_⟩
  · intro job isJob
    change job ∈ (machine.connection.drain failure).jobs ++ command.closing ++ [.sweep] at isJob
    rw [behind] at isJob
    rcases List.mem_append.mp isJob with isFinish | isLeft
    · obtain ⟨entry, -, rfl⟩ := List.mem_map.mp isFinish
      exact .inl rfl
    · exact .inr isLeft
  · change machine.history ++ (machine.connection.drain failure).deeds ++ completingOf _ = _
    rw [deeds_drain, List.append_nil]
    exact congrArg (machine.history ++ ·) completing
  · change (machine.connection.drain failure).connection.outcomes ++ outcomesIn (completingOf _) = _
    rw [sends.outcomes]
    exact congrArg (machine.connection.outcomes ++ outcomesIn ·) completing
  · intro _
    obtain ⟨commands, inbox, -, -⟩ := sends.grows.inbox
    exact ⟨commands, inbox.symm⟩
  · exact fun _ => closed_drain failure machine.connection

/-- Once the worker comes to an order to fail the pending requests, to close or to shut down, the
requests that are pending at that moment fail with the error of the order, each once and in
ascending order of their identifiers; in which order the table holds them makes no difference.
Whatever callbacks and other threads do meanwhile, nothing is pending any more and nothing else is
completed until the worker takes another command; what is still owed is the rest of these failures,
and the worker alone comes to their end. Unless it shuts down, the inbox only grows from each moment
to a later one, and unless it closes, the connection stays as open as it was: a request that waits
in the inbox, be it from a callback, goes on waiting there and has no outcome. -/
theorem mass_failure_is_exact [Wire ω]
    {machine : Machine app ω} (reachable : machine.Reachable)
    {command : Command app} {rest : List (Job app)} {failure : Failure}
    (agenda : machine.agenda = .carryOut command :: rest)
    (fells : command.fells = some failure) :
    let table := machine.connection.pending
    let failed := failuresOf failure table
    table.inOrder.Perm table ∧
      table.inOrder.Pairwise (fun left right => left.id.before right.id = true) ∧
      (table.inOrder.map (·.id)).Nodup ∧
      (∀ other : PendingTable app, other.Perm table →
        { machine with connection := { machine.connection with pending := other } }.next .work =
          machine.next .work) ∧
      ∀ schedule,
        let reached := (machine.next .work).run schedule
        reached.taken = machine.taken →
          reached.connection.pending = [] ∧
          (∃ owed,
            reached.history ++ owed = machine.history ++ failed ∧
              reached.connection.outcomes ++ outcomesIn owed =
                machine.connection.outcomes ++ outcomesIn failed ∧
              (reached.agenda = [] → owed = [])) ∧
          (∃ count,
            let ended := reached.run (List.replicate count .work)
            ended.agenda = [] ∧ ended.taken = machine.taken ∧
              ended.history = machine.history ++ failed) ∧
          (command ≠ .order .shutdown →
            machine.connection.inbox <+: reached.connection.inbox ∧
              ∀ later, (reached.run later).taken = machine.taken →
                reached.connection.inbox <+: (reached.run later).connection.inbox) ∧
          ((∀ reason, command ≠ .order (.close reason)) →
            reached.connection.closed = machine.connection.closed) ∧
          (reached.accepted.length ≤ 2 ^ 64 →
            ∀ id ∈ reached.queued, id ∉ reached.completed) := by
  intro table failed
  have distinct : table.Distinct := distinct_of_reachable reachable
  obtain ⟨rfl, -⟩ := (orderly_of_reachable reachable).alone agenda
  have failing : machine.Failing command failed (machine.next .work) :=
    Machine.failing_of_fells agenda fells
  have sameTaken : (machine.next .work).taken = machine.taken := by
    rw [Machine.next, agenda]
    rfl
  refine ⟨table.perm_inOrder.symm, PendingTable.ascending_inOrder distinct, ?_, ?_, ?_⟩
  · exact (table.perm_inOrder.map _).nodup_iff.mp distinct
  · intro other same
    have sameProgress : { machine.connection with pending := other }.begin command =
        machine.connection.begin command := by
      rw [begin_of_fells fells, begin_of_fells fells, drain_eq_of_perm distinct same]
    rw [Machine.next, Machine.next, agenda]
    change Machine.absorb [.sweep] _ (Connection.begin _ command) = _
    rw [sameProgress]
    rfl
  · intro schedule reached untaken
    have goesOn : machine.Failing command failed reached :=
      failing.run schedule (untaken.trans sameTaken.symm)
    have isReachable : reached.Reachable := (reachable.run [.work]).run schedule
    refine ⟨goesOn.empty, ⟨completingOf reached.agenda, goesOn.history, goesOn.outcomes, ?_⟩, ?_,
      ?_, goesOn.closed, ?_⟩
    · intro idle
      rw [idle]
      rfl
    · obtain ⟨count, isClear⟩ := reached.clears
      have stillUntaken := reached.taken_run_work count
      have ended := goesOn.run (List.replicate count .work) stillUntaken
      refine ⟨count, isClear, stillUntaken.trans untaken, ?_⟩
      rw [← ended.history, isClear]
      exact (List.append_nil _).symm
    · intro spared
      refine ⟨goesOn.inbox spared, fun later stillUntaken => ?_⟩
      exact (goesOn.rebase.run later (stillUntaken.trans untaken.symm)).inbox spared
    · intro bound id isQueued isCompleted
      have apart := ((Ledger.of_reachable isReachable bound).nodup_everywhere bound)
      rw [List.append_assoc] at apart
      exact List.disjoint_of_nodup_append apart isQueued (List.mem_append_right _ isCompleted)

/-- The callback of the first request triggers the token of the second one, sends a third one and
orders another failure. -/
def meddling : Sink bare :=
  .callback fun _ =>
    .cancelToken 7 (.request "third" (.ok none) .none (.mailbox .any) fun _ =>
      .order (.failPending .closed) .done)

/-- Two requests are sent, and the worker is idle. -/
def twoPending : Machine bare (MemoryWire Unit) :=
  (Machine.start .new () none).run
    (.act (.request "first" (.ok none) .none meddling) :: .take :: List.replicate 4 .work ++
      .act (.request "second" (.ok none) ⟨none, some 7⟩ (.mailbox .any)) ::
        .take :: List.replicate 4 .work)

/-- An order to a worker that has nothing to do is the next thing it comes to. -/
private theorem agenda_of_order [Wire ω]
    {machine : Machine app ω} (idle : machine.agenda = []) (inbox : machine.connection.inbox = [])
    (isRunning : machine.connection.running = true) (order : Order app) :
    (machine.run [.act (.order order), .take]).agenda = [.carryOut (.order order), .sweep] := by
  simp [Machine.run, Machine.next, Machine.absorb, Act.apply, enqueue, idle, inbox, isRunning]

theorem meddling_changes_no_failure :
    let machine := twoPending.run [.act (.order (.failPending .unavailable)), .take]
    let reached := (machine.next .work).run (List.replicate 12 .work)
    machine.Reachable ∧
      machine.agenda = [.carryOut (.order (.failPending .unavailable)), .sweep] ∧
      machine.awaited = [.number 1, .number 2] ∧
      reached.taken = machine.taken ∧ reached.agenda = [] ∧ reached.connection.pending = [] ∧
      reached.queued = [.number 3] ∧ (.number 3) ∉ reached.completed ∧
      reached.connection.outcomes =
        [(.number 1, .error .unavailable), (.number 2, .error .unavailable)] := by
  intro machine reached
  have agenda : machine.agenda = [.carryOut (.order (.failPending .unavailable)), .sweep] := by
    have idle : twoPending.agenda.isEmpty = true := by decide +kernel
    have inbox : twoPending.connection.inbox.isEmpty = true := by decide +kernel
    have isRunning : twoPending.connection.running = true := by decide +kernel
    exact agenda_of_order (List.isEmpty_iff.mp idle) (List.isEmpty_iff.mp inbox) isRunning _
  have reachable : machine.Reachable := by
    have isReachable : twoPending.Reachable := ⟨.new, (), none, _, rfl⟩
    exact isReachable.run _
  have order : machine.connection.pending.inOrder = machine.connection.pending := by
    refine List.mergeSort_of_pairwise ?_
    decide +kernel
  have isAwaited : machine.awaited = [.number 1, .number 2] := by decide +kernel
  have untaken : reached.taken = machine.taken := machine.taken_run_work 13
  -- Sorting does not compute, so the first step is taken by hand.
  have drained : machine.next .work = machine.absorb [.sweep]
      { jobs := machine.connection.pending.map fun entry => .finish entry (.error .unavailable)
        connection := { machine.connection with pending := [] }.countPending } := by
    rw [Machine.next, agenda]
    change machine.absorb [.sweep] (machine.connection.drain .unavailable) = _
    unfold Connection.drain
    rw [order]
    cases entries : machine.connection.pending with
    | nil =>
        rw [Machine.awaited, entries] at isAwaited
        contradiction
    | cons first rest =>
        rfl
  have isClear : reached.agenda.isEmpty = true := by
    change ((machine.next .work).run _).agenda.isEmpty = true
    rw [drained]
    decide +kernel
  have idle := List.isEmpty_iff.mp isClear
  have isQueued : reached.queued = [.number 3] := by
    change ((machine.next .work).run _).queued = _
    rw [drained]
    decide +kernel
  have bound : reached.accepted.length ≤ 2 ^ 64 := by
    change ((machine.next .work).run _).accepted.length ≤ _
    rw [drained]
    decide +kernel
  obtain ⟨-, -, -, -, underway⟩ := mass_failure_is_exact reachable agenda rfl
  obtain ⟨isEmpty, ⟨owed, -, outcomes, nothingOwed⟩, -, -, -, apart⟩ :=
    underway (List.replicate 12 .work) untaken
  refine ⟨reachable, agenda, isAwaited, untaken, idle, isEmpty, isQueued, ?_, ?_⟩
  · exact apart bound _ (by rw [isQueued]; exact List.mem_singleton_self _)
  · have noneYet : machine.connection.outcomes.isEmpty = true := by decide +kernel
    have ids : machine.connection.pending.map (·.id) = [.number 1, .number 2] := isAwaited
    rw [nothingOwed idle, List.isEmpty_iff.mp noneYet, outcomesIn_failuresOf, order, ids]
      at outcomes
    exact (List.append_nil _).symm.trans outcomes

end RpcEndpoint
