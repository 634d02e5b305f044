import RpcEndpoint.Proofs.Requests.Leaving
import RpcEndpoint.Proofs.Tokens.Hooks

/-!
# Why requests fail

A request does not fail without a cause that can be named: it was cancelled, its time was up, the
wire has not accepted it, or an order has failed what was pending (`Grounds`).
-/

namespace RpcEndpoint

open Connection

variable {app : Application} {ω : Type}

/-! ## What the first step of a job fails -/

/-- Why the first step of a job fails a request. -/
inductive Cause (connection : Connection app ω) (id : MessageId) : Failure → Job app → Prop where
  | closed {message : Request} {options : Options} {sink : Sink app} {failure : Failure}
      (sameId : message.id = id) (isClosed : connection.closed = some failure) :
      Cause connection id failure (.carryOut (.request message options sink))
  | barred {message : Request} {options : Options} {sink : Sink app}
      (sameId : message.id = id) :
      Cause connection id .cancelled (.carryOut (.request message options sink))
  | cancelled : Cause connection id .cancelled (.carryOut (.order (.cancel id)))
  | failed (failure : Failure) :
      Cause connection id failure (.carryOut (.order (.failPending failure)))
  | drained (failure : Failure) :
      Cause connection id failure (.carryOut (.order (.close failure)))
  | stopped : Cause connection id .closed (.carryOut (.order .shutdown))
  | refused {message : Request} (sameId : message.id = id) (failure : WireFailure) :
      Cause connection id (.wire failure) (.send message)
  | late {entry : PendingRequest app}
      (isPending : entry ∈ connection.pending) (sameId : entry.id = id) :
      Cause connection id entry.lateness .sweep

/-- What may come of the first step of a job: a failure with a cause, and the end of a close. -/
structure Job.Yields (connection : Connection app ω) (job next : Job app) : Prop where
  denies : ∀ id failure, next.Denies id failure →
    job.Denies id failure ∨ Cause connection id failure job
  shut : ∀ failure, next = .shut failure → job = .carryOut (.order (.close failure))

/-- Whether a job neither ends a request nor closes the connection. -/
def Job.harmless : Job app → Bool
  | .deliver _ _ | .finish _ _ | .timeOut _ | .shut _ => false
  | _ => true

namespace Job

variable {connection : Connection app ω} {job next : Job app}

private theorem yields_of_harmless (harmless : next.harmless = true) :
    job.Yields connection next := by
  refine ⟨?_, ?_⟩
  · intro id failure denies
    cases denies <;> contradiction
  · rintro failure rfl
    contradiction

private theorem yields_of_forall_harmless
    {jobs : List (Job app)} (harmless : jobs.all Job.harmless = true) :
    ∀ next ∈ jobs, job.Yields connection next :=
  fun next isNext => yields_of_harmless (List.all_eq_true.mp harmless next isNext)

private theorem yields_finish
    {entry : PendingRequest app} {outcome : Except Failure Bytes}
    (cause : ∀ failure, outcome = .error failure → Cause connection entry.id failure job) :
    job.Yields connection (.finish entry outcome) := by
  refine ⟨?_, by intros; contradiction⟩
  intro id failure denies
  cases denies with
  | finish sameId =>
      rw [← sameId]
      exact .inr (cause failure rfl)

private theorem yields_drain
    (command : Command app) (failure : Failure) (connection : Connection app ω)
    (cause : ∀ id, Cause connection id failure (.carryOut command)) :
    ∀ next ∈ (connection.drain failure).jobs, (Job.carryOut command).Yields connection next := by
  intro next isNext
  rw [(drain_spec failure connection).1] at isNext
  obtain ⟨entry, -, rfl⟩ := List.mem_map.mp isNext
  apply yields_finish
  rintro other ⟨⟩
  exact cause entry.id

private theorem yields_heed [Wire ω]
    (now : Instant) (order : Order app) (connection : Connection app ω) :
    ∀ next ∈ ((Job.carryOut (.order order)).step now connection).jobs,
      (Job.carryOut (.order order)).Yields connection next := by
  cases order with
  | register | resetFramer =>
      exact yields_of_forall_harmless rfl
  | cancel id =>
      unfold Job.step begin heed expel
      dsimp only
      split
      · rename_i entry found
        intro next isNext
        rcases List.mem_pair.mp isNext with rfl | rfl
        · exact yields_of_harmless rfl
        · apply yields_finish
          rintro failure ⟨⟩
          rw [PendingTable.id_of_find found]
          exact .cancelled
      · exact yields_of_forall_harmless rfl
  | failPending failure =>
      exact yields_drain _ failure connection fun _ => .failed failure
  | close failure =>
      intro next isNext
      rcases List.mem_append.mp isNext with isDrained | isLast
      · exact yields_drain _ failure connection (fun _ => .drained failure) next isDrained
      · rw [List.mem_singleton.mp isLast]
        refine ⟨?_, ?_⟩
        · intro id other denies
          cases denies
        · rintro other ⟨⟩
          rfl
  | shutdown =>
      intro next isNext
      rcases List.mem_append.mp isNext with isDrained | isLast
      · exact yields_drain _ .closed connection (fun _ => .stopped) next isDrained
      · rw [List.mem_singleton.mp isLast]
        exact yields_of_harmless rfl

private theorem yields_weigh
    (message : Request) (options : Options) (sink : Sink app) (connection : Connection app ω) :
    ∀ next ∈ (connection.weigh message options sink).jobs,
      (Job.carryOut (.request message options sink)).Yields connection next := by
  unfold weigh
  split
  · rename_i failure isRefused
    intro next isNext
    rw [List.mem_singleton.mp isNext]
    refine ⟨?_, by intros; contradiction⟩
    intro id other denies
    cases denies with
    | deliver sameId =>
        right
        unfold refusal? at isRefused
        split at isRefused
        · rename_i isClosed
          rw [Option.some.injEq] at isRefused
          rw [← isRefused]
          exact .closed sameId isClosed
        · split at isRefused
          · split at isRefused
            · rw [Option.some.injEq] at isRefused
              rw [← isRefused]
              exact .barred sameId
            · contradiction
          · contradiction
  · exact yields_of_forall_harmless rfl

private theorem harmless_map {α : Type} (make : α → Job app)
    (harmless : ∀ item, (make item).harmless = true) (items : List α) :
    (items.map make).all Job.harmless = true := by
  rw [List.all_map]
  exact List.all_eq_true.mpr fun item _ => harmless item

private theorem yields_sort
    (payload : Bytes) (connection : Connection app ω) :
    ∀ next ∈ (connection.sort payload).jobs, (Job.route payload).Yields connection next := by
  unfold sort
  cases Incoming.classify payload with
  | response response =>
      unfold pair
      dsimp only
      split
      · intro next isNext
        rw [List.mem_singleton.mp isNext]
        exact yields_finish (by intros; contradiction)
      · exact yields_of_forall_harmless rfl
  | notification message =>
      unfold notice
      dsimp only
      split <;> exact yields_of_forall_harmless rfl
  | request message =>
      unfold consider
      dsimp only
      split <;> exact yields_of_forall_harmless rfl
  | unrecognized reason =>
      apply yields_of_forall_harmless
      unfold wonder
      rw [List.all_cons, harmless_map _ (fun _ => rfl)]
      rfl

private theorem yields_offer [Wire ω]
    (message : Request) (connection : Connection app ω) :
    ∀ next ∈ (connection.offer message).jobs, (Job.send message).Yields connection next := by
  unfold offer
  split
  · exact yields_of_forall_harmless rfl
  · rename_i failure refused isRefused
    intro next isNext
    obtain ⟨entry, isFound, rfl⟩ := List.mem_map.mp isNext
    have sameId := PendingTable.id_of_find (Option.mem_toList.mp isFound)
    apply yields_finish
    rintro other ⟨⟩
    exact .refused sameId.symm failure

/-- Of a late request it is known that it was pending. -/
private theorem yields_sweep
    (now : Instant) (connection : Connection app ω) :
    ∀ next ∈ (connection.sweep now).jobs, Job.sweep.Yields connection next := by
  have parted := PendingTable.perm_due now connection.pending
  unfold Connection.sweep
  split
  · exact yields_of_forall_harmless rfl
  · rename_i first rest isDue
    intro next isNext
    obtain ⟨entry, isEntry, rfl⟩ := List.mem_map.mp isNext
    have isPending : entry ∈ connection.pending := by
      rw [isDue] at parted
      exact parted.mem_iff.mpr (List.mem_append_left _ isEntry)
    refine ⟨?_, by intros; contradiction⟩
    intro id failure denies
    cases denies with
    | timeOut sameId isLate =>
        rw [← isLate]
        exact .inr (.late isPending sameId)

/-- Whatever comes of the first step of a job, a failure has a cause. -/
theorem yields_step [Wire ω]
    (now : Instant) (job : Job app) (connection : Connection app ω) :
    ∀ next ∈ (job.step now connection).jobs, job.Yields connection next := by
  cases job with
  | carryOut command =>
      cases command with
      | request message options sink =>
          exact yields_weigh message options sink connection
      | notification | reply =>
          exact yields_of_forall_harmless rfl
      | received chunk =>
          apply yields_of_forall_harmless
          unfold step begin Connection.split
          dsimp only
          rw [List.all_append, harmless_map _ (fun _ => rfl), harmless_map _ (fun _ => rfl)]
          rfl
      | order order =>
          exact yields_heed now order connection
  | launch message options sink =>
      exact yields_of_forall_harmless rfl
  | send message =>
      exact yields_offer message connection
  | deliver promise outcome =>
      unfold step honour
      dsimp only
      split <;> exact yields_of_forall_harmless rfl
  | finish entry outcome =>
      intro next isNext
      rw [List.mem_singleton.mp isNext]
      refine ⟨?_, by intros; contradiction⟩
      intro id failure denies
      cases denies with
      | deliver sameId =>
          exact .inl (.finish sameId)
  | timeOut entry =>
      intro next isNext
      rcases List.mem_pair.mp isNext with rfl | rfl
      · exact yields_of_harmless rfl
      · refine ⟨?_, by intros; contradiction⟩
        intro id failure denies
        cases denies with
        | finish sameId =>
            exact .inl (.timeOut sameId rfl)
  | emit event =>
      exact yields_of_forall_harmless (harmless_map _ (fun _ => rfl) _)
  | route payload =>
      exact yields_sort payload connection
  | react reaction =>
      cases reaction <;> exact yields_of_forall_harmless rfl
  | signal hooks =>
      cases hooks <;> exact yields_of_forall_harmless rfl
  | sweep =>
      unfold step
      dsimp only
      split
      · exact yields_sweep now connection
      · exact yields_of_forall_harmless rfl
  | puzzle | release | shut | halt =>
      exact yields_of_forall_harmless rfl

end Job

/-- A failure that comes up with a stroke has a cause in the first job. -/
theorem Machine.Fails.of_stroke [Wire ω]
    {before after : Machine app ω} (distinct : before.connection.pending.Distinct)
    (stroke : Stroke before after) {id : MessageId} {failure : Failure}
    (fails : after.Fails id failure) :
    before.Fails id failure ∨
      ∃ job rest, before.agenda = job :: rest ∧
        after = before.absorb rest (job.step before.now before.connection) ∧
        ∃ next ∈ (job.step before.now before.connection).jobs,
          next.Denies id failure ∧ Cause before.connection id failure job := by
  cases stroke with
  | taken agenda isRunning inbox =>
      rcases fails with isGiven | ⟨job, isJob, denies⟩
      · exact .inl (.inl isGiven)
      · rcases List.mem_pair.mp isJob with rfl | rfl
        · cases denies
        · cases denies
  | woken agenda isRunning =>
      rcases fails with isGiven | ⟨job, isJob, denies⟩
      · exact .inl (.inl isGiven)
      · rw [List.mem_singleton.mp isJob] at denies
        cases denies
  | @worked head rest agenda =>
      have isHead : head ∈ before.agenda := by simp [agenda]
      have move := head.move before.now before.connection distinct
      rcases fails with isGiven | ⟨job, isJob, denies⟩
      · change _ ∈ outcomesIn (before.history ++ _) at isGiven
        rw [outcomesIn, List.filterMap_append, List.mem_append] at isGiven
        rcases isGiven with wasGiven | isNew
        · exact .inl (.inl wasGiven)
        · exact .inl (.inr ⟨head, isHead, move.denied isNew⟩)
      · rcases List.mem_append.mp isJob with isNew | isLater
        · have yields := head.yields_step before.now before.connection job isNew
          rcases yields.denies id failure denies with stillDenies | cause
          · exact .inl (.inr ⟨head, isHead, stillDenies⟩)
          · exact .inr ⟨head, rest, agenda, rfl, job, isNew, denies, cause⟩
        · exact .inl (.inr ⟨job, by simp [agenda, isLater], denies⟩)
  | @reordered held hooks rest agenda =>
      rcases fails with isGiven | ⟨job, isJob, denies⟩
      · exact .inl (.inl isGiven)
      · rcases List.mem_cons.mp isJob with rfl | isLater
        · cases denies
        · exact .inl (.inr ⟨job, by simp [agenda, isLater], denies⟩)
  | sent flying sends =>
      rcases fails with isGiven | denied
      · change _ ∈ outcomesIn (before.history ++ []) at isGiven
        rw [List.append_nil] at isGiven
        exact .inl (.inl isGiven)
      · exact .inl (.inr denied)
  | still now =>
      exact .inl fails

/-! ## Grounds -/

/-- Why a request has failed, or is about to. -/
inductive Grounds (machine : Machine app ω) (id : MessageId) : Failure → Prop where
  | cancelled : Grounds machine id .cancelled
  /-- The limit of the request, or else that of the connection, was up. -/
  | late {message : Request} {options : Options} {sink : Sink app} {timeout : Duration}
      (isTaken : .request message options sink ∈ machine.taken) (sameId : message.id = id)
      (limit : options.timeout.or machine.connection.defaultTimeout = some timeout) :
      Grounds machine id (.timedOut timeout)
  /-- The wire has not accepted the request. -/
  | refused (failure : WireFailure) (unsent : id ∉ sentIn machine.history) :
      Grounds machine id (.wire failure)
  | failed {failure : Failure} (ordered : .order (.failPending failure) ∈ machine.taken) :
      Grounds machine id failure
  | closed {failure : Failure} (ordered : .order (.close failure) ∈ machine.taken) :
      Grounds machine id failure
  | stopped (ordered : .order .shutdown ∈ machine.taken) : Grounds machine id .closed

theorem Grounds.mono
    {before after : Machine app ω} {id : MessageId} {failure : Failure}
    (grounds : Grounds before id failure)
    (taken : before.taken <+: after.taken)
    (limit : after.connection.defaultTimeout = before.connection.defaultTimeout)
    (unsent : id ∉ sentIn before.history → id ∉ sentIn after.history) :
    Grounds after id failure := by
  cases grounds with
  | cancelled =>
      exact .cancelled
  | late isTaken sameId isLimit =>
      rw [← limit] at isLimit
      exact .late (taken.subset isTaken) sameId isLimit
  | refused failure wasUnsent =>
      exact .refused failure (unsent wasUnsent)
  | failed ordered =>
      exact .failed (taken.subset ordered)
  | closed ordered =>
      exact .closed (taken.subset ordered)
  | stopped ordered =>
      exact .stopped (taken.subset ordered)

/-- No request fails without grounds. -/
structure Founded (machine : Machine app ω) : Prop where
  closed : ∀ failure, machine.connection.closed = some failure →
    .order (.close failure) ∈ machine.taken
  shut : ∀ failure, .shut failure ∈ machine.agenda → .order (.close failure) ∈ machine.taken
  fails : ∀ id failure, machine.Fails id failure → Grounds machine id failure

namespace Founded

theorem start (wire : ω) (memory : app.Memory) (limit : Option Duration) (name : Nat) :
    let fresh : Machine app ω := .start wire memory limit
    Founded { fresh with connection := { fresh.connection with name } } := by
  refine ⟨?_, ?_, ?_⟩
  · intro failure isClosed
    contradiction
  · intro failure isShut
    contradiction
  · rintro id failure (isGiven | ⟨job, isJob, -⟩)
    · contradiction
    · contradiction

variable {before : Machine app ω}

/-- A cause is a ground. -/
private theorem grounds_of_cause
    (founded : Founded before) (sound : Sound before) (rooted : Rooted before)
    {job : Job app} {rest : List (Job app)} (agenda : before.agenda = job :: rest)
    {id : MessageId} {failure : Failure} (cause : Cause before.connection id failure job) :
    Grounds before id failure := by
  have isHead : job ∈ before.agenda := by simp [agenda]
  cases cause with
  | closed sameId isClosed =>
      exact .closed (founded.closed _ isClosed)
  | barred | cancelled =>
      exact .cancelled
  | failed =>
      exact .failed (sound.traced.carried _ isHead)
  | drained =>
      exact .closed (sound.traced.carried _ isHead)
  | stopped =>
      exact .stopped (sound.traced.carried _ isHead)
  | @refused message sameId failure =>
      rw [← sameId]
      exact .refused failure (sound.tracked.sending.written message isHead).2
  | @late entry isPending sameId =>
      have isHeld : entry ∈ before.held := List.mem_append_right _ isPending
      obtain ⟨message, options, root⟩ := rooted entry isHeld
      obtain ⟨now, isDeadline⟩ := root.deadline
      unfold PendingRequest.lateness
      cases hasDeadline : entry.deadline with
      | none =>
          exact .cancelled
      | some deadline =>
          rw [hasDeadline] at isDeadline
          obtain ⟨timeout, limit, isAfter⟩ := Option.bind_eq_some_iff.mp isDeadline.symm
          obtain ⟨time, -, rfl⟩ := Option.map_eq_some_iff.mp isAfter
          exact .late root.taken (root.id.symm.trans sameId) limit

/-- A request that is failed by the first step of a job is not sent by it. -/
private theorem unsent_of_cause
    {connection : Connection app ω} {progress : Progress app ω} {job next : Job app}
    (move : Move connection progress job) (isNext : next ∈ progress.jobs) {deeds : List (Deed app)}
    {id : MessageId} (unsent : id ∉ sentIn deeds) : id ∉ sentIn (deeds ++ progress.deeds) := by
  rw [sentIn_append, List.mem_append]
  rcases move.sentIn_deeds with nothing | ⟨message, rfl, single⟩
  · simpa [nothing] using unsent
  -- A send that the wire accepts fails nothing.
  · cases move with
    | light isLight lightly deeds =>
        contradiction
    | sent jobs sends deeds =>
        rw [jobs] at isNext
        contradiction
    | withdrawn entries kept unconcerned noPayload parted jobs promises stops nothingKept unwritten
        sends noDeeds =>
        rw [noDeeds] at single
        contradiction

variable [Wire ω]

private theorem fails_stroke
    {after : Machine app ω} (founded : Founded before) (sound : Sound before)
    (bound : before.accepted.length ≤ 2 ^ 64) (rooted : Rooted before)
    (limit : after.connection.defaultTimeout = before.connection.defaultTimeout)
    (stroke : Stroke before after) {id : MessageId} {failure : Failure}
    (fails : after.Fails id failure) : Grounds after id failure := by
  have distinct := sound.tracked.ledger.distinct bound
  rcases fails.of_stroke distinct stroke with
    failed | ⟨head, rest, agenda, isAfter, job, isNew, -, cause⟩
  · have grounds := founded.fails id failure failed
    exact grounds.mono stroke.taken_prefix limit (failed.leaves.unsent sound bound stroke)
  · have grounds := founded.grounds_of_cause sound rooted agenda cause
    have move := head.move before.now before.connection distinct
    subst isAfter
    exact grounds.mono (List.prefix_refl _) limit (unsent_of_cause move isNew)

private theorem shut_stroke
    {after : Machine app ω} (founded : Founded before) (sound : Sound before)
    (stroke : Stroke before after) {failure : Failure}
    (isShut : .shut failure ∈ after.agenda) : .order (.close failure) ∈ after.taken := by
  apply stroke.taken_prefix.subset
  cases stroke with
  | taken | woken =>
      simp at isShut
  | @worked head rest agenda =>
      rcases List.mem_append.mp isShut with isNew | isLater
      · have yields := head.yields_step before.now before.connection _ isNew
        have isClose := yields.shut failure rfl
        exact sound.traced.carried _ (by simp [agenda, isClose])
      · exact founded.shut failure (by simp [agenda, isLater])
  | reordered agenda =>
      simp at isShut
      exact founded.shut failure (by simp [agenda, isShut])
  | sent | still =>
      exact founded.shut failure isShut

theorem next
    (founded : Founded before) (sound : Sound before) (bound : before.accepted.length ≤ 2 ^ 64)
    (rooted : Rooted before) (choice : Choice app ω) : Founded (before.next choice) := by
  have stroke := before.stroke choice
  refine ⟨?_, ?_, ?_⟩
  · intro failure isClosed
    apply stroke.taken_prefix.subset
    rcases before.nature_next choice with same | ⟨other, rest, agenda, shut⟩
    · have sameClosed := congrArg (·.2.2) same
      exact founded.closed failure (sameClosed.symm.trans isClosed)
    · rw [shut] at isClosed
      obtain rfl := Option.some.inj isClosed
      exact founded.shut other (by simp [agenda])
  · intro failure isShut
    exact founded.shut_stroke sound stroke isShut
  · intro id failure fails
    exact founded.fails_stroke sound bound rooted (before.limit_next choice) stroke fails

theorem adopt (founded : Founded before) (tokens : TokenTable) (hooks : List Hook) :
    Founded (before.adopt tokens hooks) := by
  rw [Machine.adopt_eq]
  refine ⟨founded.closed, founded.shut, ?_⟩
  intro id failure fails
  exact (founded.fails id failure fails).mono (List.prefix_refl _) rfl fun unsent => unsent

theorem of_reachable
    {fleet : Fleet app ω} (reachable : fleet.Reachable) (lasting : fleet.Lasting) (name : Nat) :
    Founded (fleet name) := by
  refine reachable.induction (fun reached => ∀ name, Founded (reached name)) ?_ ?_ lasting name
  · intro wire memory limit name
    exact start (wire name) (memory name) (limit name) name
  · intro earlier reachableBefore lastingBefore founded mover choice isOwn other
    by_cases isMover : other = mover
    · subst isMover
      rw [Fleet.next_self]
      have sound := (reachableBefore.attained other).sound (lastingBefore other)
      have rooted := (Mirrored.of_reachable reachableBefore lastingBefore).rooted other
      exact ((founded other).next sound (lastingBefore other) rooted choice).adopt _ _
    · rw [earlier.next_of_ne choice isMover]
      exact (founded other).adopt _ _

end Founded

end RpcEndpoint
