import RpcEndpoint.Proofs.Requests.Attained

/-!
# Requests that leave

A request that is neither on its way to the wire nor in the table has its outcome or is about to get
one (`Leaves`), and so it stays: it is never pending again, and unless the wire had accepted it
before, it never will. A failure that is on its way to a request (`Fails`) is what the request comes
to.
-/

namespace RpcEndpoint

open Connection

variable {app : Application} {ω : Type}

namespace Machine

/-- The request has its outcome, or a job that is not on the way to the wire owes it one. -/
def Leaves (machine : Machine app ω) (id : MessageId) : Prop :=
  id ∈ (keptIn machine.history).map (·.id) ∨
    ∃ job ∈ machine.agenda, job.begins = false ∧ id ∈ job.promises.map (·.id)

end Machine

/-- A job that brings a failure to the sink of a request. -/
inductive Job.Denies (id : MessageId) (failure : Failure) : Job app → Prop where
  | deliver {promise : Promise app} (sameId : promise.id = id) :
      Denies id failure (.deliver promise (.error failure))
  | finish {entry : PendingRequest app} (sameId : entry.id = id) :
      Denies id failure (.finish entry (.error failure))
  | timeOut {entry : PendingRequest app} (sameId : entry.id = id)
      (isLate : entry.lateness = failure) :
      Denies id failure (.timeOut entry)

/-- The failure was given to the sink of the request, or is on its way there. -/
def Machine.Fails (machine : Machine app ω) (id : MessageId) (failure : Failure) : Prop :=
  (id, .error failure) ∈ outcomesIn machine.history ∨
    ∃ job ∈ machine.agenda, job.Denies id failure

namespace Job.Denies

variable {job : Job app} {id : MessageId} {failure : Failure}

theorem passive (denies : job.Denies id failure) : job.begins = false := by
  cases denies <;> rfl

theorem promised (denies : job.Denies id failure) : id ∈ job.promises.map (·.id) := by
  cases denies with
  | deliver sameId =>
      simp [Job.promises, sameId]
  | finish sameId =>
      simp [Job.promises, PendingRequest.promise, sameId]
  | timeOut sameId isLate =>
      simp [Job.promises, PendingRequest.promise, sameId]

end Job.Denies

theorem Machine.Fails.leaves
    {machine : Machine app ω} {id : MessageId} {failure : Failure}
    (fails : machine.Fails id failure) : machine.Leaves id := by
  rcases fails with isGiven | ⟨job, isJob, denies⟩
  · left
    rw [map_id_keptIn]
    exact List.mem_map_of_mem (f := Prod.fst) isGiven
  · exact .inr ⟨job, isJob, denies.passive, denies.promised⟩

namespace Move

variable {before : Connection app ω} {progress : Progress app ω} {job : Job app}

/-- A job that is on the way of no request hands its promises on to such jobs, or keeps them. -/
private theorem passes
    (move : Move before progress job) (passive : job.begins = false)
    (distinct : ((job.promises ++ before.pending.promises).map (·.id)).Nodup)
    {id : MessageId} (isOwed : id ∈ job.promises.map (·.id)) :
    (∃ next ∈ progress.jobs, next.begins = false ∧ id ∈ next.promises.map (·.id)) ∨
      id ∈ (keptIn progress.deeds).map (·.id) := by
  have balance := (move.balance distinct).map (·.id)
  have isSomewhere : id ∈ (promisesOf progress.jobs).map (·.id) ∨
      id ∈ progress.connection.pending.ids ∨ id ∈ (keptIn progress.deeds).map (·.id) := by
    have held : id ∈ (job.promises ++ before.pending.promises).map (·.id) := by
      rw [List.map_append]
      exact List.mem_append_left _ isOwed
    have places := balance.mem_iff.mp held
    rwa [List.map_append, List.map_append, PendingTable.map_id_promises, List.mem_append,
      List.mem_append, or_assoc] at places
  rcases isSomewhere with isHanded | isPending | isKept
  · obtain ⟨promise, isPromise, rfl⟩ := List.mem_map.mp isHanded
    obtain ⟨next, isNext, isOwn⟩ := List.mem_flatMap.mp isPromise
    refine .inl ⟨next, isNext, ?_, List.mem_map_of_mem isOwn⟩
    cases begins : next.begins with
    | false =>
        rfl
    | true =>
        obtain ⟨-, precedes⟩ := move.begins isNext begins
        cases precedes <;> contradiction
  · rcases move.mem_pending isPending with wasPending | ⟨message, options, sink, rfl, -⟩
    · rw [List.map_append, PendingTable.map_id_promises] at distinct
      exact absurd wasPending (List.disjoint_of_nodup_append distinct isOwed)
    · contradiction
  · exact .inr isKept

/-- What brings a failure hands it on or gives it out. -/
private theorem deniesOn
    (move : Move before progress job) {id : MessageId} {failure : Failure}
    (denies : job.Denies id failure) :
    (∃ next ∈ progress.jobs, next.Denies id failure) ∨
      (id, .error failure) ∈ outcomesIn progress.deeds := by
  cases denies with
  | deliver sameId =>
      exact .inr (sameId ▸ move.gives_delivered)
  | finish sameId =>
      rw [move.jobs_finished]
      exact .inl ⟨_, List.mem_cons_self, .deliver sameId⟩
  | @timeOut entry sameId isLate =>
      cases move with
      | light isLight lightly deeds =>
          contradiction
      | withdrawn entries kept unconcerned =>
          exact absurd unconcerned (List.cons_ne_nil _ _)
      | late isProgress =>
          subst isProgress
          left
          refine ⟨.finish entry (.error entry.lateness), by simp, ?_⟩
          rw [isLate]
          exact .finish sameId

/-- A failure that is given out was brought. -/
theorem denied
    (move : Move before progress job) {id : MessageId} {failure : Failure}
    (isGiven : (id, .error failure) ∈ outcomesIn progress.deeds) : job.Denies id failure := by
  obtain ⟨promise, rfl, sameId⟩ := move.delivers isGiven
  exact .deliver sameId

end Move

/-! ## What stays so -/

namespace Machine

variable {machine : Machine app ω} {id : MessageId}

theorem Leaves.not_awaited
    (leaves : machine.Leaves id) (ledger : Ledger machine)
    (bound : machine.accepted.length ≤ 2 ^ 64) : id ∉ machine.awaited := by
  intro isAwaited
  have places := ledger.nodup_places bound
  rw [List.map_append, List.map_append, PendingTable.map_id_promises] at places
  rcases leaves with isKept | ⟨job, isJob, -, isOwed⟩
  · exact List.disjoint_of_nodup_append places (List.mem_append_right _ isAwaited) isKept
  · have isPromised : id ∈ (promisesOf machine.agenda).map (·.id) := by
      obtain ⟨promise, isPromise, rfl⟩ := List.mem_map.mp isOwed
      exact List.mem_map_of_mem (List.mem_flatMap.mpr ⟨job, isJob, isPromise⟩)
    exact List.disjoint_of_nodup_append places.of_append_left isPromised isAwaited

/-- A request that leaves is not about to be written. -/
theorem Leaves.not_send
    (leaves : machine.Leaves id) (sound : Sound machine)
    (bound : machine.accepted.length ≤ 2 ^ 64) {message : Request}
    (isSend : .send message ∈ machine.agenda) : message.id ≠ id := by
  rintro rfl
  have isAwaited := (sound.tracked.sending.written message isSend).1
  exact leaves.not_awaited sound.tracked.ledger bound isAwaited

variable [Wire ω] {before after : Machine app ω}

/-- What jobs owe is owed until it is given: the job that owes it gives it or passes it on. -/
private theorem owed_stroke
    (given : List (Deed app) → Prop) (owes : Job app → Prop)
    (grows : ∀ left right, given (left ++ right) ↔ given left ∨ given right)
    (noSignal : ∀ hooks, ¬ owes (.signal hooks))
    (passes : ∀ head rest, before.agenda = head :: rest → owes head →
      (∃ next ∈ (head.step before.now before.connection).jobs, owes next) ∨
        given (head.step before.now before.connection).deeds)
    (stroke : Stroke before after)
    (held : given before.history ∨ ∃ job ∈ before.agenda, owes job) :
    given after.history ∨ ∃ job ∈ after.agenda, owes job := by
  cases stroke with
  | taken agenda | woken agenda =>
      rcases held with isGiven | ⟨job, isJob, -⟩
      · exact .inl isGiven
      · rw [agenda] at isJob
        contradiction
  | @worked head rest agenda =>
      change given (before.history ++ (head.step before.now before.connection).deeds) ∨
        ∃ job ∈ (head.step before.now before.connection).jobs ++ rest, owes job
      rw [grows]
      rcases held with isGiven | ⟨job, isJob, isOwed⟩
      · exact .inl (.inl isGiven)
      · rw [agenda] at isJob
        rcases List.mem_cons.mp isJob with rfl | isLater
        · rcases passes job rest agenda isOwed with ⟨next, isNext, stillOwed⟩ | isGiven
          · exact .inr ⟨next, List.mem_append_left _ isNext, stillOwed⟩
          · exact .inl (.inr isGiven)
        · exact .inr ⟨job, List.mem_append_right _ isLater, isOwed⟩
  | @reordered listed hooks rest agenda =>
      rcases held with isGiven | ⟨job, isJob, isOwed⟩
      · exact .inl isGiven
      · rw [agenda] at isJob
        rcases List.mem_cons.mp isJob with rfl | isLater
        · exact absurd isOwed (noSignal listed)
        · exact .inr ⟨job, List.mem_cons_of_mem _ isLater, isOwed⟩
  | sent flying sends =>
      refine held.imp_left fun isGiven => ?_
      change given (before.history ++ [])
      rwa [List.append_nil]
  | still now =>
      exact held

theorem Leaves.stroke
    (leaves : before.Leaves id) (ledger : Ledger before)
    (bound : before.accepted.length ≤ 2 ^ 64) (stroke : Stroke before after) :
    after.Leaves id := by
  refine owed_stroke (fun deeds => id ∈ (keptIn deeds).map Promise.id)
    (fun job => job.begins = false ∧ id ∈ job.promises.map Promise.id) ?_ ?_ ?_ stroke leaves
  · intro left right
    rw [keptIn, List.filterMap_append, List.map_append, List.mem_append]
    rfl
  · rintro hooks ⟨-, isOwed⟩
    contradiction
  · rintro head rest agenda ⟨passive, isOwed⟩
    have move := head.move before.now before.connection (ledger.distinct bound)
    exact move.passes passive (ledger.nodup_head bound agenda) isOwed

theorem Leaves.unsent
    (leaves : before.Leaves id) (sound : Sound before)
    (bound : before.accepted.length ≤ 2 ^ 64) (stroke : Stroke before after)
    (unsent : id ∉ sentIn before.history) : id ∉ sentIn after.history := by
  cases stroke with
  | @worked head rest agenda =>
      change id ∉ sentIn (before.history ++ (head.step before.now before.connection).deeds)
      have distinct := sound.tracked.ledger.distinct bound
      have move := head.move before.now before.connection distinct
      rw [sentIn_append, List.mem_append]
      rcases move.sentIn_deeds with nothing | ⟨message, rfl, single⟩
      · simpa [nothing] using unsent
      · have isSend : .send message ∈ before.agenda := by simp [agenda]
        have different := leaves.not_send sound bound isSend
        rw [single]
        simpa [unsent] using different.symm
  | sent flying sends =>
      change id ∉ sentIn (before.history ++ [])
      rwa [List.append_nil]
  | taken | woken | reordered | still =>
      exact unsent

private theorem Fails.stroke
    {failure : Failure} (fails : before.Fails id failure)
    (distinct : before.connection.pending.Distinct) (stroke : Stroke before after) :
    after.Fails id failure := by
  refine owed_stroke (fun deeds => (id, Except.error failure) ∈ outcomesIn deeds)
    (Job.Denies id failure) ?_ ?_ ?_ stroke fails
  · intro left right
    rw [outcomesIn, List.filterMap_append, List.mem_append]
    rfl
  · intro hooks denies
    cases denies
  · intro head rest agenda denies
    exact (head.move before.now before.connection distinct).deniesOn denies

/-- What holds of a sound machine and survives the strokes of sound machines goes on to hold. -/
theorem Leads.induction
    (property : Machine app ω → Prop) (led : before.Leads after) (sound : Sound before)
    (bound : after.accepted.length ≤ 2 ^ 64) (atStart : property before)
    (survives : ∀ earlier later : Machine app ω, Sound earlier →
      earlier.accepted.length ≤ 2 ^ 64 → property earlier → Stroke earlier later →
      property later) : property after := by
  induction led with
  | refl =>
      exact atStart
  | tail led stroke inductionHypothesis =>
      have boundBefore := stroke.bound bound
      exact survives _ _ (sound.leads led boundBefore) boundBefore
        (inductionHypothesis boundBefore) stroke

theorem Leaves.leads
    (leaves : before.Leaves id) (sound : Sound before) (led : before.Leads after)
    (bound : after.accepted.length ≤ 2 ^ 64) : after.Leaves id :=
  led.induction (·.Leaves id) sound bound leaves fun _ _ soundBefore boundBefore held stroke =>
    held.stroke soundBefore.tracked.ledger boundBefore stroke

/-- A request that leaves before the wire has accepted it is never sent. -/
theorem Leaves.never_sent
    (leaves : before.Leaves id) (unsent : id ∉ sentIn before.history) (sound : Sound before)
    (led : before.Leads after) (bound : after.accepted.length ≤ 2 ^ 64) :
    id ∉ sentIn after.history := by
  refine (led.induction (fun reached => reached.Leaves id ∧ id ∉ sentIn reached.history)
    sound bound ⟨leaves, unsent⟩ ?_).2
  intro earlier later soundBefore boundBefore held stroke
  refine ⟨held.1.stroke soundBefore.tracked.ledger boundBefore stroke, ?_⟩
  exact held.1.unsent soundBefore boundBefore stroke held.2

theorem Fails.leads
    {failure : Failure} (fails : before.Fails id failure) (sound : Sound before)
    (led : before.Leads after) (bound : after.accepted.length ≤ 2 ^ 64) :
    after.Fails id failure :=
  led.induction (·.Fails id failure) sound bound fails
    fun _ _ soundBefore boundBefore held stroke =>
      held.stroke (soundBefore.tracked.ledger.distinct boundBefore) stroke

end Machine

end RpcEndpoint
