import RpcEndpoint.Proofs.Tokens.Causes

/-!
# The first order that ends all

Some orders fail whatever is pending. The inbox is first in, first out; so a request that the wire
has accepted before any such order was given fails with the first of them, unless it is answered,
cancelled or late before (`Decided`).
-/

namespace RpcEndpoint

open Connection

variable {app : Application} {ω : Type}

/-- What a command fails all pending requests with. -/
def Command.ending? : Command app → Option Failure
  | .order (.failPending failure) | .order (.close failure) => some failure
  | .order .shutdown => some .closed
  | _ => none

/-- What the pending requests are failed with by commands, one after another. -/
def endingsIn (commands : List (Command app)) : List Failure :=
  commands.filterMap Command.ending?

theorem endingsIn_append (left right : List (Command app)) :
    endingsIn (left ++ right) = endingsIn left ++ endingsIn right :=
  List.filterMap_append

theorem endingsIn_singleton (command : Command app) :
    endingsIn [command] = command.ending?.toList := by
  rw [endingsIn, List.filterMap_cons]
  cases command.ending? <;> rfl

/-- What the first order that ends all fails the pending requests with. -/
def Machine.ending? (machine : Machine app ω) : Option Failure :=
  (endingsIn machine.entered).head?

/-- What was first stays first. -/
theorem head?_endingsIn_stays
    {earlier later : List (Command app)} (grows : earlier <+: later) {failure : Failure}
    (isFirst : (endingsIn earlier).head? = some failure) :
    (endingsIn later).head? = some failure := by
  obtain ⟨more, rfl⟩ := grows
  rw [endingsIn_append, List.head?_append, isFirst]
  rfl

/-- Whether a failure concerns one request only. -/
def Failure.isOwn : Failure → Bool
  | .cancelled | .timedOut _ => true
  | _ => false

theorem PendingRequest.isOwn_lateness (entry : PendingRequest app) :
    entry.lateness.isOwn = true := by
  unfold PendingRequest.lateness
  cases entry.deadline <;> rfl

/-- An order that ends all empties the table. -/
theorem Command.pending_of_ending [Wire ω]
    {command : Command app} (ends : command.ending?.isSome = true) (now : Instant)
    (connection : Connection app ω) :
    ((Job.carryOut command).step now connection).connection.pending = [] := by
  cases command with
  | order wanted =>
      cases wanted with
      | failPending failure | close failure =>
          exact (drain_spec failure connection).2.1.pending
      | shutdown =>
          exact (drain_spec .closed connection).2.1.pending
      | register | cancel | resetFramer =>
          contradiction
  | request | notification | reply | received =>
      contradiction

namespace Sound

variable {machine : Machine app ω} {id : MessageId}

/-- What the wire has accepted is pending or leaves. -/
theorem awaited_or_leaves
    (sound : Sound machine) (isSent : id ∈ sentIn machine.history) :
    id ∈ machine.awaited ∨ machine.Leaves id := by
  have isTaken := sound.tracked.sending.taken id isSent
  rcases sound.tracked.ledger.place_of_taken isTaken with
    ⟨job, isJob, promise, isOwn, rfl⟩ | isPending | isKept
  · right
    cases begins : job.begins with
    | false =>
        exact .inr ⟨job, isJob, begins, List.mem_map_of_mem isOwn⟩
    | true =>
        exact absurd isSent (sound.tracked.sending.unsent job isJob promise isOwn begins)
  · exact .inl isPending
  · exact .inr (.inl isKept)

/-- What fails for a cause after the wire has accepted it was pending. -/
theorem awaited_of_cause [Wire ω]
    (sound : Sound machine) (bound : machine.accepted.length ≤ 2 ^ 64)
    (isSent : id ∈ sentIn machine.history) {job next : Job app} {rest : List (Job app)}
    (agenda : machine.agenda = job :: rest)
    (isNext : next ∈ (job.step machine.now machine.connection).jobs)
    {failure : Failure} (denies : next.Denies id failure)
    (cause : Cause machine.connection id failure job) : id ∈ machine.awaited := by
  have ledger := sound.tracked.ledger
  have isHead : job ∈ machine.agenda := by simp [agenda]
  have move := job.move machine.now machine.connection (ledger.distinct bound)
  have balance := (move.balance (ledger.nodup_head bound agenda)).map (·.id)
  have isOwed : id ∈ (promisesOf (job.step machine.now machine.connection).jobs).map (·.id) := by
    obtain ⟨promise, isPromise, rfl⟩ := List.mem_map.mp denies.promised
    exact List.mem_map_of_mem (List.mem_flatMap.mpr ⟨next, isNext, isPromise⟩)
  have wasOwed : id ∈ job.promises.map (·.id) ∨ id ∈ machine.connection.pending.ids := by
    rw [← PendingTable.map_id_promises, ← List.mem_append, ← List.map_append, balance.mem_iff,
      List.map_append, List.map_append]
    exact List.mem_append_left _ (List.mem_append_left _ isOwed)
  refine wasOwed.resolve_left fun isOwn => ?_
  -- Of the jobs with a cause, only one on the way to the wire owes anything.
  obtain ⟨promise, isPromise, rfl⟩ := List.mem_map.mp isOwn
  have begins : job.begins = true := by
    cases cause with
    | closed | barred | cancelled | failed | drained | stopped | refused =>
        rfl
    | late =>
        contradiction
  exact sound.tracked.sending.unsent job isHead promise isPromise begins isSent

end Sound

/-- What is known of a request that the wire had accepted before an order to end all was given. -/
structure Decided (machine : Machine app ω) (id : MessageId) : Prop where
  sent : id ∈ sentIn machine.history
  fails : ∀ failure, machine.Fails id failure →
    failure.isOwn = true ∨ (endingsIn machine.taken).head? = some failure
  /-- When the first such order is carried out, the request leaves. -/
  ended : endingsIn machine.taken ≠ [] → machine.Leaves id ∨
    ∃ command failure, machine.agenda = [.carryOut command, .sweep] ∧
      command.ending? = some failure ∧ endingsIn machine.taken = [failure]

namespace Decided

variable {id : MessageId} {before after : Machine app ω}

/-- The cause of a failure of one that the wire has accepted. -/
private theorem failure_of_cause
    (known : Decided before id) (sound : Sound before) (bound : before.accepted.length ≤ 2 ^ 64)
    (isAwaited : id ∈ before.awaited) {job : Job app} {rest : List (Job app)}
    (agenda : before.agenda = job :: rest) {failure : Failure}
    (cause : Cause before.connection id failure job) :
    failure.isOwn = true ∨ (endingsIn before.taken).head? = some failure := by
  have isHead : job ∈ before.agenda := by simp [agenda]
  -- As the request is pending, an order that ends all is the first one.
  have decided (command : Command app) (isCommand : job = .carryOut command)
      (ends : command.ending? = some failure) :
      failure.isOwn = true ∨ (endingsIn before.taken).head? = some failure := by
    right
    have isTaken := sound.traced.carried command (isCommand ▸ isHead)
    have isEnding : failure ∈ endingsIn before.taken :=
      List.mem_filterMap.mpr ⟨command, isTaken, ends⟩
    rcases known.ended (List.ne_nil_of_mem isEnding) with leaves | ⟨first, only, isFirst, isEnd, all⟩
    · exact absurd isAwaited (leaves.not_awaited sound.tracked.ledger bound)
    · rw [all] at isEnding ⊢
      rw [List.mem_singleton.mp isEnding]
      rfl
  cases cause with
  | @closed message options sink failure sameId isClosed =>
      have isUnsent : message.id ∉ sentIn before.history :=
        sound.tracked.sending.unsent _ isHead ⟨message.id, sink⟩ List.mem_cons_self rfl
      exact absurd known.sent (sameId ▸ isUnsent)
  | barred | cancelled =>
      exact .inl rfl
  | failed | drained | stopped =>
      exact decided _ rfl rfl
  | @refused message sameId failure =>
      have isUnsent := (sound.tracked.sending.written message isHead).2
      exact absurd known.sent (sameId ▸ isUnsent)
  | late isPending sameId =>
      exact .inl (PendingRequest.isOwn_lateness _)

variable [Wire ω]

private theorem ended_stroke
    (known : Decided before id) (sound : Sound before) (bound : before.accepted.length ≤ 2 ^ 64)
    (soundAfter : Sound after) (stroke : Stroke before after) (sent : id ∈ sentIn after.history)
    (ends : endingsIn after.taken ≠ []) :
    after.Leaves id ∨
      ∃ command failure, after.agenda = [.carryOut command, .sweep] ∧
        command.ending? = some failure ∧ endingsIn after.taken = [failure] := by
  have ledger := sound.tracked.ledger
  have stays (leaves : before.Leaves id) : after.Leaves id := leaves.stroke ledger bound stroke
  cases stroke with
  | @taken command rest agenda isRunning inbox =>
      have wasOver (ended : endingsIn before.taken ≠ []) : before.Leaves id := by
        refine (known.ended ended).resolve_right ?_
        rintro ⟨other, failure, isAgenda, -⟩
        rw [agenda] at isAgenda
        contradiction
      by_cases isFirst : endingsIn before.taken = []
      · have all : endingsIn (before.taken ++ [command]) = command.ending?.toList := by
          rw [endingsIn_append, isFirst, endingsIn_singleton, List.nil_append]
        cases ending : command.ending? with
        | none =>
            rw [ending] at all
            exact absurd all ends
        | some failure =>
            rw [ending] at all
            exact .inr ⟨command, failure, rfl, ending, all⟩
      · exact .inl (stays (wasOver isFirst))
  | woken agenda isRunning =>
      refine .inl (stays ((known.ended ends).resolve_right ?_))
      rintro ⟨other, failure, isAgenda, -⟩
      rw [agenda] at isAgenda
      contradiction
  | @worked job rest agenda =>
      rcases known.ended ends with leaves | ⟨command, failure, isAgenda, ending, -⟩
      · exact .inl (stays leaves)
      · rw [agenda] at isAgenda
        obtain ⟨rfl, rfl⟩ := List.cons.inj isAgenda
        have isEmpty := command.pending_of_ending (Option.isSome_of_eq_some ending) before.now
          before.connection
        refine .inl ((soundAfter.awaited_or_leaves sent).resolve_left fun isAwaited => ?_)
        rw [Machine.awaited, Machine.absorb, isEmpty] at isAwaited
        contradiction
  | reordered agenda =>
      refine .inl (stays ((known.ended ends).resolve_right ?_))
      rintro ⟨other, failure, isAgenda, -⟩
      rw [agenda] at isAgenda
      have sameHead := (List.cons.inj isAgenda).1
      contradiction
  | sent flying sends =>
      exact (known.ended ends).imp_left stays
  | still now =>
      exact (known.ended ends).imp_left stays

theorem stroke
    (known : Decided before id) (sound : Sound before) (bound : before.accepted.length ≤ 2 ^ 64)
    (soundAfter : Sound after) (stroke : Stroke before after) : Decided after id := by
  have distinct := sound.tracked.ledger.distinct bound
  have sent : id ∈ sentIn after.history := by
    obtain ⟨more, isHistory⟩ := stroke.history_prefix
    rw [← isHistory, sentIn_append]
    exact List.mem_append_left _ known.sent
  refine ⟨sent, ?_, known.ended_stroke sound bound soundAfter stroke sent⟩
  intro failure fails
  have known : failure.isOwn = true ∨ (endingsIn before.taken).head? = some failure := by
    rcases fails.of_stroke distinct stroke with
      failed | ⟨job, rest, agenda, -, next, isNext, denies, cause⟩
    · exact known.fails failure failed
    · have isAwaited := sound.awaited_of_cause bound known.sent agenda isNext denies cause
      exact known.failure_of_cause sound bound isAwaited agenda cause
  exact known.imp_right (head?_endingsIn_stays stroke.taken_prefix)

/-- What is pending before any order to end all is judged by the first of them. -/
theorem of_awaited {base reached : Machine app ω}
    (sound : Sound base) (isSent : id ∈ sentIn base.history) (isAwaited : id ∈ base.awaited)
    (noEnding : endingsIn base.taken = []) (led : base.Leads reached)
    (bound : reached.accepted.length ≤ 2 ^ 64) : Decided reached id := by
  have boundBase := Nat.le_trans led.accepted_grows.length_le bound
  refine led.induction (Decided · id) sound bound ⟨isSent, ?_, fun ends => absurd noEnding ends⟩ ?_
  · intro failure fails
    exact absurd isAwaited (fails.leaves.not_awaited sound.tracked.ledger boundBase)
  · intro earlier later soundBefore boundBefore known stroke
    exact known.stroke soundBefore boundBefore (soundBefore.stroke boundBefore stroke) stroke

end Decided

/-! ## Orders from outside -/

section Orders

variable [Wire ω] {machine before after : Machine app ω}

theorem Machine.Leads.ending?_stays (led : before.Leads after) {failure : Failure}
    (isFirst : before.ending? = some failure) : after.ending? = some failure := by
  induction led with
  | refl => exact isFirst
  | tail led stroke inductionHypothesis =>
      exact head?_endingsIn_stays stroke.entered_prefix inductionHypothesis

/-- An order that ends all counts if none has come before it. A connection that takes in nothing any
more has been shut down. -/
theorem Sound.ending?_order (sound : Sound machine) {order : Order app} {failure : Failure}
    (ends : (Command.order order).ending? = some failure) :
    (machine.next (.act (.order order))).ending? = machine.ending?.or (some failure) := by
  obtain ⟨waiting, entered, inbox⟩ := sound.tracked.ledger.inbox
  change (endingsIn (machine.entered ++ _)).head? = _
  rw [endingsIn_append, List.head?_append]
  cases isRunning : machine.connection.running with
  | true =>
      simp [Act.apply, Connection.enqueue, isRunning, endingsIn_singleton, ends, Machine.ending?]
  | false =>
      have ending : Ending machine := by
        refine sound.phase.resolve_left fun goingOn => ?_
        rw [goingOn.running] at isRunning
        contradiction
      obtain ⟨front, taken, -⟩ := ending.taken
      have isOver : machine.ending? ≠ none := by
        simp [Machine.ending?, entered, taken, endingsIn, Command.ending?]
      obtain ⟨first, isFirst⟩ := Option.ne_none_iff_exists'.mp isOver
      rw [← Machine.ending?, isFirst]
      rfl

end Orders

/-! ## What a request comes to -/

section Outcomes

variable {machine : Machine app ω} {id : MessageId}

/-- A request of which this is known fails on its own or with the first order that ends all. -/
theorem Decided.outcome
    (known : Decided machine id) (ledger : Ledger machine) {failure : Failure}
    (isOutcome : (id, .error failure) ∈ machine.connection.outcomes) :
    failure.isOwn = true ∨ machine.ending? = some failure := by
  obtain ⟨waiting, entered, -⟩ := ledger.inbox
  have isPrefix : machine.taken <+: machine.entered := ⟨waiting, entered.symm⟩
  rw [ledger.outcomes] at isOutcome
  exact (known.fails failure (.inl isOutcome)).imp_right (head?_endingsIn_stays isPrefix)

/-- When such an order was given and nothing is left to be done, the request has its outcome. -/
theorem Decided.completed
    (known : Decided machine id) (sound : Sound machine)
    (idle : machine.agenda = []) (nothingWaits : machine.connection.inbox = [])
    (ends : machine.ending? ≠ none) : id ∈ machine.completed := by
  have ledger := sound.tracked.ledger
  rw [Machine.ending?, ne_eq, List.head?_eq_none_iff] at ends
  obtain ⟨waiting, entered, inbox⟩ := ledger.inbox
  have ended : endingsIn machine.taken ≠ [] := by
    rcases sound.phase with goingOn | ending
    · rw [if_pos goingOn.running, nothingWaits] at inbox
      rwa [entered, ← inbox, List.append_nil] at ends
    · obtain ⟨front, taken, -⟩ := ending.taken
      rw [taken, endingsIn_append]
      exact List.append_ne_nil_of_right_ne_nil _ (List.cons_ne_nil _ _)
  rw [ledger.completed_eq]
  rcases known.ended ended with (isKept | ⟨job, isJob, -⟩) | ⟨command, failure, agenda, -⟩
  · exact isKept
  · rw [idle] at isJob
    contradiction
  · rw [idle] at agenda
    contradiction

end Outcomes

end RpcEndpoint
