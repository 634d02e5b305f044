import RpcEndpoint.Proofs.Requests.Inbound
import RpcEndpoint.Proofs.Requests.Routing

/-!
# The delivery of responses

The invariants of the modules before hold together after every schedule (`Tracked`). So the payload
that a request comes to is the first answer in the stream that has come in, and the order of the
answers does not matter.
-/

namespace RpcEndpoint

open Connection

variable {app : Application} {ω : Type}

/-! ## Every schedule -/

/-- What is known of requests, of what was sent, of what was routed, and of answers. -/
structure Tracked (machine : Machine app ω) : Prop where
  ledger : Ledger machine
  sending : Sending machine
  answering : Answering machine
  inbound : Inbound machine

theorem Tracked.start
    (wire : ω) (memory : app.Memory) (defaultTimeout : Option Duration) :
    Tracked (Machine.start wire memory defaultTimeout) :=
  ⟨.start wire memory defaultTimeout, .start wire memory defaultTimeout,
    .start wire memory defaultTimeout, .start wire memory defaultTimeout⟩

theorem Tracked.stroke [Wire ω]
    {before after : Machine app ω} (tracked : Tracked before)
    (bound : before.accepted.length ≤ 2 ^ 64) (stroke : Stroke before after) : Tracked after := by
  obtain ⟨ledger, sending, answering, inbound⟩ := tracked
  have distinct := ledger.distinct bound
  exact ⟨ledger.stroke bound stroke, sending.stroke ledger bound stroke,
    answering.stroke sending distinct stroke, inbound.stroke distinct stroke⟩

theorem Tracked.of_reachable [Wire ω]
    {machine : Machine app ω} (reachable : machine.Reachable)
    (bound : machine.accepted.length ≤ 2 ^ 64) : Tracked machine := by
  obtain ⟨wire, memory, defaultTimeout, schedule, rfl⟩ := reachable
  exact Machine.lasting_induction Tracked schedule (.start wire memory defaultTimeout)
    (fun _ _ boundBefore held stroke => held.stroke boundBefore stroke) bound

/-! ## Outcomes between two commands -/

theorem mem_routedIn {payload : Bytes} {deeds : List (Deed app)} :
    payload ∈ routedIn deeds ↔ ∃ pending, .routed payload pending ∈ deeds := by
  simp only [routedIn, List.mem_filterMap]
  constructor
  · rintro ⟨deed, isDeed, isPayload⟩
    cases deed with
    | routed routed pending =>
        rw [Deed.payload?, Option.some.injEq] at isPayload
        exact ⟨pending, isPayload ▸ isDeed⟩
    | sent id =>
        contradiction
    | completed promise outcome =>
        contradiction
  · rintro ⟨pending, isDeed⟩
    exact ⟨.routed payload pending, isDeed, rfl⟩

namespace Tracked

variable {machine : Machine app ω}

/-- Between two commands, a payload is the outcome of a request just when it is the first answer to
it. -/
theorem ok_iff_firstAnswer
    (tracked : Tracked machine) (idle : machine.agenda = []) (id : MessageId) (payload : Bytes) :
    (id, .ok payload) ∈ machine.connection.outcomes ↔
      FirstAnswer machine.history id payload := by
  rw [tracked.ledger.outcomes]
  constructor
  · intro isGiven
    exact tracked.answering.first id payload (.inl isGiven)
  · rintro ⟨before, between, after, pending, isHistory, answers, isPending, -⟩
    have isRouted : .routed payload pending ∈ machine.history := by
      rw [isHistory]
      exact List.mem_append_right _ List.mem_cons_self
    rcases tracked.answering.gives payload pending isRouted id isPending answers with
      isGiven | ⟨job, isJob, -⟩
    · exact isGiven
    · rw [idle] at isJob
      contradiction

/-- Between two commands, what was taken is pending or completed. -/
theorem awaited_or_completed
    (tracked : Tracked machine) (idle : machine.agenda = []) {id : MessageId}
    (isTaken : id ∈ (promisesIn machine.taken).map (·.id)) :
    id ∈ machine.awaited ∨ id ∈ machine.completed := by
  rw [tracked.ledger.completed_eq]
  refine (tracked.ledger.place_of_taken isTaken).resolve_left ?_
  rintro ⟨job, isJob, -⟩
  rw [idle] at isJob
  contradiction

/-- A request that is pending between two commands has no outcome. -/
theorem not_completed_of_awaited
    (tracked : Tracked machine) (bound : machine.accepted.length ≤ 2 ^ 64)
    {id : MessageId} (isAwaited : id ∈ machine.awaited) : id ∉ machine.completed := by
  intro isCompleted
  have distinct := tracked.ledger.nodup_everywhere bound
  exact List.disjoint_of_nodup_append distinct (List.mem_append_right _ isAwaited) isCompleted

end Tracked

private theorem filterMap_eq_singleton
    {β : Type} {pairs : List (MessageId × β)} {id : MessageId} {value : β}
    (distinct : (pairs.map (·.1)).Nodup) (isPair : (id, value) ∈ pairs) :
    pairs.filterMap (fun held => if held.1 = id then some held.2 else none) = [value] := by
  induction pairs with
  | nil =>
      contradiction
  | cons head rest inductionHypothesis =>
      obtain ⟨isNew, restDistinct⟩ := List.nodup_cons.mp distinct
      by_cases same : head.1 = id
      · have notLater : ∀ other, (id, other) ∉ rest := by
          intro other isLater
          exact isNew (List.mem_map.mpr ⟨_, isLater, same.symm⟩)
        have isHead : head = (id, value) := by
          rcases List.mem_cons.mp isPair with isHead | isLater
          · exact isHead.symm
          · exact absurd isLater (notLater value)
        have noneLater : rest.filterMap
            (fun held => if held.1 = id then some held.2 else none) = [] := by
          refine List.filterMap_eq_nil_iff.mpr fun held isHeld => if_neg ?_
          rintro rfl
          exact notLater held.2 isHeld
        subst isHead
        simp only [List.filterMap_cons, if_true, noneLater]
      · have isLater : (id, value) ∈ rest := by
          rcases List.mem_cons.mp isPair with rfl | isLater
          · exact absurd rfl same
          · exact isLater
        simp only [List.filterMap_cons, if_neg same]
        exact inductionHypothesis restDistinct isLater

/-! ## Runs from a machine between two commands -/

/-- The payloads that were routed since a machine was left. -/
def Machine.routedSince (base reached : Machine app ω) : List Bytes :=
  (routedIn reached.history).drop (routedIn base.history).length

/-- Whatever else happens meanwhile, a pending request comes to the only answer to it that is
routed, unless it fails. -/
theorem outcomesOf_run [Wire ω]
    {base : Machine app ω} (reachable : base.Reachable) (idle : base.agenda = [])
    (schedule : List (Choice app ω))
    (bound : (base.run schedule).accepted.length ≤ 2 ^ 64)
    (idleAgain : (base.run schedule).agenda = [])
    {id : MessageId} {answer : Bytes}
    (isAwaited : id ∈ base.awaited)
    (isAmong : answer ∈ base.routedSince (base.run schedule))
    (answers : Answers answer id)
    (only : ∀ other ∈ base.routedSince (base.run schedule), Answers other id → other = answer)
    (noFailure : ∀ failure, (id, .error failure) ∉ (base.run schedule).connection.outcomes) :
    (base.run schedule).connection.outcomesOf id = [.ok answer] := by
  have boundBase := Nat.le_trans (base.accepted_prefix_run schedule).length_le bound
  have tracked := Tracked.of_reachable reachable boundBase
  have trackedAgain := Tracked.of_reachable (reachable.run schedule) bound
  obtain ⟨later, isHistory⟩ := base.history_prefix_run schedule
  have since : base.routedSince (base.run schedule) = routedIn later := by
    rw [Machine.routedSince, ← isHistory, routedIn, routedIn, List.filterMap_append,
      List.drop_left]
    rfl
  rw [since] at isAmong only
  have distinct := (trackedAgain.ledger.nodup_everywhere bound).of_append_right
  have isTaken : id ∈ (promisesIn (base.run schedule).taken).map (·.id) := by
    obtain ⟨more, isMore⟩ := base.taken_prefix_run schedule
    rw [← isMore, promisesIn_append, List.map_append]
    exact List.mem_append_left _ (tracked.ledger.mem_taken_of_awaited isAwaited)
  rcases trackedAgain.awaited_or_completed idleAgain isTaken with stillAwaited | isCompleted
  · -- The answer was routed after the request was sent, so the request cannot be pending.
    have isSent : id ∈ sentIn base.history := by
      rcases tracked.sending.sent id isAwaited with isSent | ⟨message, isSend, -⟩
      · exact isSent
      · rw [idle] at isSend
        contradiction
    obtain ⟨before, between, split⟩ := List.append_of_mem (mem_sentIn.mp isSent)
    obtain ⟨pending, isRouted⟩ := mem_routedIn.mp isAmong
    rw [split, List.append_assoc, List.cons_append] at isHistory
    exact absurd answers (trackedAgain.answering.unanswered id stillAwaited before
      (between ++ later) isHistory.symm answer pending (List.mem_append_right _ isRouted))
  · obtain ⟨⟨other, outcome⟩, isOutcome, rfl⟩ := List.mem_map.mp isCompleted
    cases outcome with
    | error failure =>
        exact absurd isOutcome (noFailure failure)
    | ok payload =>
        have first := (trackedAgain.ok_iff_firstAnswer idleAgain other payload).mp isOutcome
        obtain ⟨before, between, after, pending, split, isAnswer, isPending, -⟩ := first
        have isRouted : .routed payload pending ∈ base.history ++ later := by
          rw [isHistory, split]
          exact List.mem_append_right _ List.mem_cons_self
        have isLater : payload ∈ routedIn later := by
          rcases List.mem_append.mp isRouted with wasRouted | isLater
          · rcases tracked.answering.gives payload pending wasRouted other isPending isAnswer with
              isGiven | ⟨job, isJob, -⟩
            · rw [← tracked.ledger.outcomes] at isGiven
              exact absurd (List.mem_map.mpr ⟨_, isGiven, rfl⟩)
                (tracked.not_completed_of_awaited boundBase isAwaited)
            · rw [idle] at isJob
              contradiction
          · exact mem_routedIn.mpr ⟨pending, isLater⟩
        rw [only payload isLater isAnswer] at isOutcome
        exact filterMap_eq_singleton distinct isOutcome

/-! ## Responses and requests -/

/-- Between two commands of any schedule, the payloads that were routed are those of the inbound
stream, and a payload is the outcome of a request just when it is the first of them, after the
request was sent, that answers it, and the request was pending then. Any other payload leaves the
entry and the outcome of a request untouched. So if among some payloads one answers a pending
request, in every order of them that payload is what the request comes to; and when commands,
callbacks, other threads and the clock come between, it still is, unless the request fails. -/
theorem responses_reach_their_requests [Wire ω]
    {machine : Machine app ω} (reachable : machine.Reachable)
    (bound : machine.accepted.length ≤ 2 ^ 64) (idle : machine.agenda = []) :
    (routedIn machine.history = (extract .empty machine.taken).1 ∧
      (sentIn machine.history).Nodup ∧
      ∀ id payload, (id, .ok payload) ∈ machine.connection.outcomes ↔
        FirstAnswer machine.history id payload) ∧
    (∀ (connection : Connection app ω) id payload, ¬ Answers payload id →
      (connection.route payload).pending.find id = connection.pending.find id ∧
        (connection.route payload).outcomesOf id = connection.outcomesOf id) ∧
    (∀ left right : List Bytes, left.Perm right →
      ∀ id ∈ machine.awaited, ∀ answer ∈ left, Answers answer id →
        (∀ other ∈ left, Answers other id → other = answer) →
        (left.foldl route machine.connection).outcomesOf id = [.ok answer] ∧
          (right.foldl route machine.connection).outcomesOf id = [.ok answer]) ∧
    ∀ left right : List (Choice app ω),
      (machine.run left).accepted.length ≤ 2 ^ 64 → (machine.run left).agenda = [] →
      (machine.run right).accepted.length ≤ 2 ^ 64 → (machine.run right).agenda = [] →
      (machine.routedSince (machine.run left)).Perm (machine.routedSince (machine.run right)) →
      ∀ id ∈ machine.awaited,
        (∀ failure, (id, .error failure) ∉ (machine.run left).connection.outcomes) →
        (∀ failure, (id, .error failure) ∉ (machine.run right).connection.outcomes) →
        ∀ answer ∈ machine.routedSince (machine.run left), Answers answer id →
          (∀ other ∈ machine.routedSince (machine.run left),
            Answers other id → other = answer) →
          (machine.run left).connection.outcomesOf id = [.ok answer] ∧
            (machine.run right).connection.outcomesOf id = [.ok answer] := by
  have tracked := Tracked.of_reachable reachable bound
  refine ⟨⟨tracked.inbound.routedIn_eq idle, tracked.sending.once,
    tracked.ok_iff_firstAnswer idle⟩, ?_, ?_, ?_⟩
  · intro connection id payload noAnswer
    have untouched := untouched_route noAnswer connection
    exact ⟨untouched.entry, untouched.outcomes⟩
  · intro left right sameAnswers id isAwaited answer isAmong answers only
    have noOutcome : machine.connection.outcomesOf id = [] := by
      refine List.filterMap_eq_nil_iff.mpr fun held isHeld => if_neg ?_
      rintro rfl
      exact tracked.not_completed_of_awaited bound isAwaited (List.mem_map_of_mem isHeld)
    cases found : machine.connection.pending.find id with
    | none =>
        exact absurd isAwaited (PendingTable.find_eq_none_iff.mp found)
    | some entry =>
        refine ⟨?_, ?_⟩
        · rw [outcomesOf_foldl_route found isAmong answers only, noOutcome, List.nil_append]
        · have stillOnly : ∀ other ∈ right, Answers other id → other = answer :=
            fun other isOther => only other (sameAnswers.mem_iff.mpr isOther)
          rw [outcomesOf_foldl_route found (sameAnswers.mem_iff.mp isAmong) answers stillOnly,
            noOutcome, List.nil_append]
  · intro left right leftBound leftIdle rightBound rightIdle sameAnswers id isAwaited leftFails
      rightFails answer isAmong answers only
    refine ⟨?_, ?_⟩
    · exact outcomesOf_run reachable idle left leftBound leftIdle isAwaited isAmong answers only
        leftFails
    · refine outcomesOf_run reachable idle right rightBound rightIdle isAwaited
        (sameAnswers.mem_iff.mp isAmong) answers ?_ rightFails
      intro other isOther isAnswer
      exact only other (sameAnswers.mem_iff.mpr isOther) isAnswer

/-- A response to the request with this number. -/
def responseTo (number : String) : Bytes :=
  encodeText ("\x7b\"jsonrpc\":\"2.0\",\"id\":" ++ number ++ ",\"result\":7\x7d")

/-- Two requests are sent. -/
def askTwice : List (Choice bare (MemoryWire Unit)) :=
  (List.replicate 2 (.act (.request "ask" (.ok none) .none (.callback fun _ => .done)) ::
    .take :: List.replicate 4 .work)).flatten

/-- The machine after that schedule. -/
def afterAskTwice : Machine bare (MemoryWire Unit) :=
  (Machine.start .new () none).run askTwice

/-- Two responses come in as one chunk, and the worker carries out what they bring. -/
def hear (first second : Bytes) : List (Choice bare (MemoryWire Unit)) :=
  .act (.arrive (.chunk (Framing.encodeFrame first ++ Framing.encodeFrame second))) ::
    .take :: List.replicate 10 .work

theorem two_responses_in_either_order :
    let inOrder := afterAskTwice.run (hear (responseTo "1") (responseTo "2"))
    let swapped := afterAskTwice.run (hear (responseTo "2") (responseTo "1"))
    afterAskTwice.Reachable ∧ afterAskTwice.awaited = [.number 1, .number 2] ∧
      inOrder.connection.outcomesOf (.number 1) = [.ok (responseTo "1")] ∧
      swapped.connection.outcomesOf (.number 1) = [.ok (responseTo "1")] ∧
      FirstAnswer swapped.history (.number 1) (responseTo "1") := by
  intro inOrder swapped
  have reachable : afterAskTwice.Reachable := ⟨.new, (), none, askTwice, rfl⟩
  have atBase : afterAskTwice.accepted.length ≤ 2 ^ 64 ∧ afterAskTwice.agenda.isEmpty = true ∧
      afterAskTwice.awaited = [.number 1, .number 2] := by
    decide +kernel
  have afterwards : inOrder.accepted.length ≤ 2 ^ 64 ∧ inOrder.agenda.isEmpty = true ∧
      inOrder.connection.outcomes.all (fun held => held.2.toOption.isSome) = true ∧
      afterAskTwice.routedSince inOrder = [responseTo "1", responseTo "2"] := by
    decide +kernel
  have afterwardsSwapped : swapped.accepted.length ≤ 2 ^ 64 ∧ swapped.agenda.isEmpty = true ∧
      swapped.connection.outcomes.all (fun held => held.2.toOption.isSome) = true ∧
      afterAskTwice.routedSince swapped = [responseTo "2", responseTo "1"] := by
    decide +kernel
  have answers : Answers (responseTo "1") (.number 1) ∧ ¬ Answers (responseTo "2") (.number 1) := by
    decide +kernel
  obtain ⟨bound, isIdle, awaited⟩ := atBase
  obtain ⟨boundInOrder, isIdleInOrder, allSucceed, routed⟩ := afterwards
  obtain ⟨boundSwapped, isIdleSwapped, allSucceedSwapped, routedSwapped⟩ := afterwardsSwapped
  have idle := List.isEmpty_iff.mp isIdle
  have idleInOrder := List.isEmpty_iff.mp isIdleInOrder
  have idleSwapped := List.isEmpty_iff.mp isIdleSwapped
  have succeeds {outcomes : List (MessageId × Except Failure Bytes)}
      (allSucceed : outcomes.all (fun held => held.2.toOption.isSome) = true) (failure : Failure) :
      (.number 1, .error failure) ∉ outcomes := by
    intro isFailed
    exact Bool.false_ne_true (List.all_eq_true.mp allSucceed _ isFailed)
  have sameAnswers :
      (afterAskTwice.routedSince inOrder).Perm (afterAskTwice.routedSince swapped) := by
    rw [routed, routedSwapped]
    exact .swap _ _ []
  have only : ∀ other ∈ afterAskTwice.routedSince inOrder,
      Answers other (.number 1) → other = responseTo "1" := by
    intro other isOther isAnswer
    rw [routed] at isOther
    rcases List.mem_pair.mp isOther with isFirst | rfl
    · exact isFirst
    · exact absurd isAnswer answers.2
  have delivered := (responses_reach_their_requests reachable bound idle).2.2.2
    (hear (responseTo "1") (responseTo "2")) (hear (responseTo "2") (responseTo "1"))
    boundInOrder idleInOrder boundSwapped idleSwapped sameAnswers (.number 1)
    (by rw [awaited]; exact List.mem_cons_self) (succeeds allSucceed) (succeeds allSucceedSwapped)
    (responseTo "1") (by rw [routed]; exact List.mem_cons_self) answers.1 only
  refine ⟨reachable, awaited, delivered.1, delivered.2, ?_⟩
  have isGiven : (.number 1, .ok (responseTo "1")) ∈ swapped.connection.outcomes := by
    have isAmong := delivered.2.symm ▸ List.mem_singleton_self (Except.ok (responseTo "1"))
    obtain ⟨⟨id, outcome⟩, isOutcome, same⟩ := List.mem_filterMap.mp isAmong
    by_cases isFirst : id = .number 1
    · rw [if_pos isFirst, Option.some.injEq] at same
      rwa [← isFirst, ← same]
    · rw [if_neg isFirst] at same
      contradiction
  have reachableSwapped := reachable.run (hear (responseTo "2") (responseTo "1"))
  exact ((responses_reach_their_requests reachableSwapped boundSwapped idleSwapped).1.2.2 _ _).mp
    isGiven

end RpcEndpoint
