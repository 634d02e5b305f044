import Mathlib.Data.List.Induction
import RpcEndpoint.Proofs.Accounts.Jottings
import RpcEndpoint.Proofs.Requests.Delivery
import RpcEndpoint.Proofs.Requests.Shutdown

/-!
# What always holds

Some facts do not need that identifiers last: the table has no identifier twice, a command is
carried out when nothing else is before the worker, payloads are routed while the worker goes on,
and they are those of the stream.
-/

namespace RpcEndpoint

open Connection

variable {app : Application} {ω : Type}

/-! ## The table -/

namespace PendingTable

variable {table : PendingTable app}

theorem Distinct.filter (distinct : table.Distinct) (keep : PendingRequest app → Bool) :
    Distinct (table.filter keep) :=
  distinct.sublist (List.filter_sublist.map _)

/-- An entry takes the place of one with its identifier. -/
theorem Distinct.insert (distinct : table.Distinct) (entry : PendingRequest app) :
    (table.insert entry).Distinct := by
  have isLast : (table.insert entry).ids = (table.remove entry.id).ids ++ [entry.id] := by
    simp [ids, PendingTable.insert, remove]
  have isNew : entry.id ∉ (table.remove entry.id).ids :=
    fun isHeld => (mem_ids_remove.mp isHeld).2 rfl
  have rest : (table.remove entry.id).Distinct := distinct.filter _
  unfold Distinct
  rw [isLast]
  exact List.nodup_append_comm.mp (List.nodup_cons.mpr ⟨isNew, rest⟩)

end PendingTable

theorem Posting.distinct [Wire ω]
    {before : Connection app ω} {progress : Progress app ω} {job : Job app}
    (posting : Posting before progress job) (distinct : before.pending.Distinct) :
    progress.connection.books.pending.Distinct := by
  cases posting with
  | drained =>
      rename_i books
      rw [books]
      exact List.nodup_nil
  | launched =>
      rename_i books
      rw [books]
      exact distinct.insert _
  | expelled | withdrawn | matched | swept =>
      rename_i books
      rw [books]
      exact distinct.filter _
  | idle isIdle jobs books =>
      rw [books]
      exact distinct
  | _ =>
      rename_i books
      rw [books]
      exact distinct

/-- No two entries of the table have one identifier, even when identifiers have started over. -/
theorem distinct_of_reachable [Wire ω]
    {machine : Machine app ω} (reachable : machine.Reachable) :
    machine.connection.pending.Distinct := by
  obtain ⟨wire, memory, defaultTimeout, schedule, rfl⟩ := reachable
  refine Machine.booked_induction (fun reached => reached.connection.books.pending.Distinct)
    schedule List.nodup_nil ?_
  intro before choice after booked distinct
  cases booked with
  | taken | woken | reordered =>
      exact distinct
  | worked agenda =>
      exact (Job.posting before.now _ before.connection).distinct distinct
  | called isRunning agenda taken history books
  | beside unworked silent agenda taken history books =>
      rw [books]
      exact distinct

/-- What holds at the start and survives the strokes of reachable machines, whose tables have no
identifier twice, holds of every reachable machine. -/
theorem Machine.Reachable.induction [Wire ω]
    (property : Machine app ω → Prop)
    (start : ∀ wire memory defaultTimeout, property (.start wire memory defaultTimeout))
    (survives : ∀ before after, before.connection.pending.Distinct → property before →
      Stroke before after → property after)
    {machine : Machine app ω} (reachable : machine.Reachable) : property machine := by
  refine reachable.choice_induction property start ?_
  intro before choice reachable held
  exact survives _ _ (distinct_of_reachable reachable) held (before.stroke choice)

theorem inbound_of_reachable [Wire ω]
    {machine : Machine app ω} (reachable : machine.Reachable) : Inbound machine :=
  reachable.induction Inbound Inbound.start fun _ _ distinct held stroke =>
    held.stroke distinct stroke

/-! ## The agenda -/

/-- Behind a payload only payloads come, and the look at the deadlines. -/
def Job.Follows (ahead behind : Job app) : Prop :=
  (∃ payload, ahead = .route payload) → behind = .sweep ∨ ∃ payload, behind = .route payload

/-- How the worker goes through its agenda. -/
structure Orderly (machine : Machine app ω) : Prop where
  /-- A command is carried out when only the look at the deadlines comes after it. -/
  carried : ∀ command, .carryOut command ∈ machine.agenda →
    machine.agenda = [.carryOut command, .sweep] ∧ machine.connection.running = true
  /-- Payloads are routed by a worker that goes on. -/
  routing : ∀ payload, .route payload ∈ machine.agenda →
    machine.agenda.any Job.stops = false ∧ machine.connection.running = true
  order : machine.agenda.Pairwise Job.Follows

/-- Whether a job may bring another one. Commands and the look at the deadlines come of no job. -/
def Job.MayBring (before : Connection app ω) (job : Job app) : Job app → Prop
  | .carryOut _ | .sweep => False
  | .route _ => ∃ chunk, job = .carryOut (.received chunk)
  | .halt => ∃ command, job = .carryOut command
  | .timeOut entry => ∃ now, entry ∈ before.pending.due now
  | _ => True

namespace Posting

variable [Wire ω] {before : Connection app ω} {progress : Progress app ω} {job : Job app}

theorem mayBring
    (posting : Posting before progress job) {next : Job app} (isNext : next ∈ progress.jobs) :
    job.MayBring before next := by
  cases posting with
  | idle isIdle jobs books | honoured jobs books | announced jobs books =>
      have runs := jobs next isNext
      cases next <;> trivial
  | fed jobs books =>
      cases next with
      | route payload =>
          exact ⟨_, rfl⟩
      | _ =>
          first | trivial | simp [jobs] at isNext
  | @drained command failure count fells jobs counted books =>
      rw [jobs, List.mem_append] at isNext
      rcases isNext with isFinish | isClosing
      · obtain ⟨entry, -, rfl⟩ := List.mem_map.mp isFinish
        trivial
      · unfold Command.closing at isClosing
        split at isClosing
        · rw [List.mem_singleton.mp isClosing]
          trivial
        · rw [List.mem_singleton.mp isClosing]
          exact ⟨_, rfl⟩
        · contradiction
  | swept now jobs books =>
      rw [jobs] at isNext
      obtain ⟨entry, isDue, rfl⟩ := List.mem_map.mp isNext
      exact ⟨now, isDue⟩
  | _ =>
      rename_i jobs books
      cases next <;> first | trivial | simp [jobs] at isNext

/-- Commands are carried out when they are taken, and at no other time. -/
theorem not_carried
    (posting : Posting before progress job) (command : Command app) :
    .carryOut command ∉ progress.jobs :=
  fun isNext => posting.mayBring isNext

theorem order (posting : Posting before progress job) : progress.jobs.Pairwise Job.Follows := by
  have unrouted {jobs others : List (Job app)} (noRoute : ∀ payload, .route payload ∉ jobs) :
      ∀ ahead ∈ jobs, ∀ behind ∈ others, ahead.Follows behind := by
    rintro ahead isAhead behind - ⟨payload, rfl⟩
    exact absurd isAhead (noRoute payload)
  by_cases isChunk : ∃ chunk, job = .carryOut (.received chunk)
  · obtain ⟨chunk, rfl⟩ := isChunk
    cases posting with
    | idle | drained =>
        contradiction
    | fed jobs books =>
        rw [jobs, List.pairwise_append]
        refine ⟨List.pairwise_of_forall_mem_list (unrouted (by simp)), ?_, unrouted (by simp)⟩
        refine List.pairwise_of_forall_mem_list fun ahead _ behind isBehind _ => .inr ?_
        obtain ⟨payload, -, rfl⟩ := List.mem_map.mp isBehind
        exact ⟨payload, rfl⟩
  · exact List.pairwise_of_forall_mem_list
      (unrouted fun payload isRoute => isChunk (posting.mayBring isRoute))

end Posting

/-- Behind a command only the look at the deadlines comes. -/
theorem Orderly.alone
    {machine : Machine app ω} (orderly : Orderly machine)
    {command : Command app} {rest : List (Job app)}
    (agenda : machine.agenda = .carryOut command :: rest) :
    rest = [.sweep] ∧ machine.connection.running = true := by
  obtain ⟨sameAgenda, isRunning⟩ := orderly.carried command (by simp [agenda])
  rw [agenda] at sameAgenda
  exact ⟨(List.cons.inj sameAgenda).2, isRunning⟩

/-- A command is carried out as the first thing on the agenda. -/
theorem Orderly.not_carried_later
    {machine : Machine app ω} (orderly : Orderly machine)
    {job : Job app} {rest : List (Job app)} (agenda : machine.agenda = job :: rest)
    (command : Command app) : .carryOut command ∉ rest := by
  intro isLater
  obtain ⟨sameAgenda, -⟩ := orderly.carried command (by simp [agenda, isLater])
  rw [agenda] at sameAgenda
  rw [(List.cons.inj sameAgenda).2] at isLater
  simp at isLater

/-- The payloads on the agenda were there before, or they have come out of a chunk, which was carried
out alone. -/
private theorem Orderly.routing_worked [Wire ω]
    {machine : Machine app ω} (orderly : Orderly machine)
    (distinct : machine.connection.pending.Distinct)
    {job : Job app} {rest : List (Job app)} (agenda : machine.agenda = job :: rest)
    {payload : Bytes}
    (isRoute : .route payload ∈ (job.step machine.now machine.connection).jobs ++ rest) :
    ((job.step machine.now machine.connection).jobs ++ rest).any Job.stops = false ∧
      (job.step machine.now machine.connection).connection.running = true := by
  have move := job.move machine.now machine.connection distinct
  rw [List.any_append]
  rcases List.mem_append.mp isRoute with isNew | isLater
  · obtain ⟨chunk, rfl⟩ := (job.posting machine.now machine.connection).mayBring isNew
    obtain ⟨rfl, isRunning⟩ := orderly.alone agenda
    have notHalt : (.carryOut (.received chunk) : Job app) ≠ .halt := by simp
    rw [move.stops notHalt]
    exact ⟨rfl, (move.grows notHalt).running.trans isRunning⟩
  · have wasRouting : .route payload ∈ machine.agenda := by simp [agenda, isLater]
    obtain ⟨noStop, isRunning⟩ := orderly.routing payload wasRouting
    rw [agenda, List.any_cons, Bool.or_eq_false_iff] at noStop
    have notHalt : job ≠ .halt := by
      rintro rfl
      exact Bool.noConfusion noStop.1
    rw [move.stops notHalt, noStop.1, noStop.2]
    exact ⟨rfl, (move.grows notHalt).running.trans isRunning⟩

theorem Orderly.stroke [Wire ω]
    {before after : Machine app ω} (orderly : Orderly before)
    (distinct : before.connection.pending.Distinct) (stroke : Stroke before after) :
    Orderly after := by
  cases stroke with
  | @taken command rest agenda isRunning inbox =>
      refine ⟨?_, ?_, ?_⟩
      · intro other isOther
        have isCommand : other = command := by simpa using isOther
        rw [isCommand]
        exact ⟨rfl, isRunning⟩
      · intro payload isRoute
        simp at isRoute
      · simp [Job.Follows]
  | woken agenda isRunning =>
      refine ⟨?_, ?_, List.pairwise_singleton _ _⟩
      · intro command isCarried
        simp at isCarried
      · intro payload isRoute
        simp at isRoute
  | @worked job rest agenda =>
      have posting := job.posting before.now before.connection
      refine ⟨?_, fun payload isRoute => orderly.routing_worked distinct agenda isRoute, ?_⟩
      · intro command isCarried
        rcases List.mem_append.mp isCarried with isNew | isLater
        · exact absurd isNew (posting.not_carried command)
        · exact absurd isLater (orderly.not_carried_later agenda command)
      · have order := orderly.order
        rw [agenda, List.pairwise_cons] at order
        refine List.pairwise_append.mpr ⟨posting.order, order.2, ?_⟩
        rintro ahead isAhead behind isBehind ⟨payload, rfl⟩
        obtain ⟨chunk, rfl⟩ := posting.mayBring isAhead
        rw [(orderly.alone agenda).1] at isBehind
        exact .inl (List.mem_singleton.mp isBehind)
  | @reordered held hooks rest agenda =>
      obtain ⟨carried, routing, order⟩ := orderly
      rw [agenda] at carried routing order
      refine ⟨?_, ?_, ?_⟩
      · intro command isCarried
        have isLater : .carryOut command ∈ rest := by simpa using isCarried
        have sameAgenda := (carried command (List.mem_cons_of_mem _ isLater)).1
        have sameHead := (List.cons.inj sameAgenda).1
        contradiction
      · intro payload isRoute
        have isLater : .route payload ∈ rest := by simpa using isRoute
        exact routing payload (List.mem_cons_of_mem _ isLater)
      · refine List.pairwise_cons.mpr ⟨?_, (List.pairwise_cons.mp order).2⟩
        rintro behind - ⟨payload, isRoute⟩
        contradiction
  | sent flying sends =>
      have sameRunning := sends.grows.running
      refine ⟨?_, ?_, orderly.order⟩
      · intro command isCarried
        exact (orderly.carried command isCarried).imp_right sameRunning.trans
      · intro payload isRoute
        exact (orderly.routing payload isRoute).imp_right sameRunning.trans
  | still now =>
      exact ⟨orderly.carried, orderly.routing, orderly.order⟩

theorem orderly_of_reachable [Wire ω]
    {machine : Machine app ω} (reachable : machine.Reachable) : Orderly machine := by
  refine reachable.induction Orderly ?_ fun _ _ distinct held stroke => held.stroke distinct stroke
  intro wire memory defaultTimeout
  refine ⟨?_, ?_, .nil⟩
  · intro command isCarried
    exact absurd isCarried List.not_mem_nil
  · intro payload isRoute
    exact absurd isRoute List.not_mem_nil

/-- What holds at the start and survives the choices at reachable machines, as far as the books
tell, holds of every reachable machine. -/
theorem Machine.Reachable.booked_induction [Wire ω]
    (property : Machine app ω → Prop)
    (start : ∀ wire memory defaultTimeout, property (.start wire memory defaultTimeout))
    (survives : ∀ before choice after, Orderly before → Booked before choice after →
      property before → property after)
    {machine : Machine app ω} (reachable : machine.Reachable) : property machine := by
  refine reachable.choice_induction property start ?_
  intro before choice reachable held
  exact survives _ _ _ (orderly_of_reachable reachable) (before.booked choice) held

/-- What holds before a schedule from a reachable machine and survives each further choice holds of
every schedule. -/
theorem Machine.Reachable.schedule_induction [Wire ω]
    {base : Machine app ω} (reachable : base.Reachable)
    (property : List (Choice app ω) → Machine app ω → Prop) (start : property [] base)
    (survives : ∀ schedule choice, Orderly (base.run schedule) →
      Booked (base.run schedule) choice ((base.run schedule).next choice) →
      property schedule (base.run schedule) →
      property (schedule ++ [choice]) ((base.run schedule).next choice))
    (schedule : List (Choice app ω)) : property schedule (base.run schedule) := by
  induction schedule using List.reverseRecOn with
  | nil =>
      exact start
  | append_singleton schedule choice inductionHypothesis =>
      rw [Machine.run_append]
      exact survives schedule choice (orderly_of_reachable (reachable.run schedule))
        (Machine.booked _ choice) inductionHypothesis

end RpcEndpoint
