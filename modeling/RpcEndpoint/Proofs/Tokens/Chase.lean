import RpcEndpoint.Proofs.Tokens.Causes

/-!
# Cancels on their way

When a token is triggered, its hooks become orders to cancel, one after another and on any thread.
As long as a request whose token was triggered is pending, such an order is on its way to it
(`Chasing`): set off and not yet in the inbox, in the inbox, or before the worker.
-/

namespace RpcEndpoint

open Connection

variable {app : Application} {ω : Type}

namespace Fleet

/-- A token has set off this hook, and it has not taken effect. -/
def InFlight (fleet : Fleet app ω) (hook : Hook) : Prop :=
  ∃ name, (fleet name).Carries hook

/-- An order to cancel the request is on its way to the worker, or the worker is coming to it. -/
def Chases (fleet : Fleet app ω) (name : Nat) (id : MessageId) : Prop :=
  .order (.cancel id) ∈ (fleet name).connection.inbox ∨
    .carryOut (.order (.cancel id)) ∈ (fleet name).agenda ∨ fleet.InFlight ⟨name, id⟩

end Fleet

/-- A pending request whose token was triggered is about to be cancelled. -/
def Chasing (fleet : Fleet app ω) : Prop :=
  ∀ name, ∀ id ∈ (fleet name).awaited, ∀ token, (fleet.tokens.state token).cancelled = true →
    id ∈ carrying token (fleet name).taken → fleet.Chases name id

/-! ## What a stroke does to an order to cancel -/

namespace Machine

variable [Wire ω] {before after : Machine app ω} {id : MessageId}

/-- The order is carried out, or it is still there. -/
private theorem awaits_cancel
    (sound : Sound before) (bound : before.accepted.length ≤ 2 ^ 64)
    (stroke : Stroke before after) (isAwaited : id ∈ after.awaited)
    (isOrdered : .order (.cancel id) ∈ before.connection.inbox ∨
      .carryOut (.order (.cancel id)) ∈ before.agenda) :
    .order (.cancel id) ∈ after.connection.inbox ∨
      .carryOut (.order (.cancel id)) ∈ after.agenda := by
  have soundAfter := sound.stroke bound stroke
  cases stroke with
  | @taken command rest agenda isRunning inbox =>
      rcases isOrdered with isQueued | isJob
      · rw [inbox] at isQueued
        rcases List.mem_cons.mp isQueued with rfl | isLater
        · exact .inr List.mem_cons_self
        · exact .inl isLater
      · rw [agenda] at isJob
        contradiction
  | woken agenda isRunning =>
      rcases isOrdered with isQueued | isJob
      · exact .inl isQueued
      · rw [agenda] at isJob
        contradiction
  | @worked job rest agenda =>
      have distinct := sound.tracked.ledger.distinct bound
      have move := job.move before.now before.connection distinct
      rcases isOrdered with isQueued | isJob
      · by_cases goesOn : job = .halt
        · subst goesOn
          have stopped : before.connection.halt.running = false :=
            (sends_halt before.connection).grows.running
          have isEmpty := (soundAfter.stopped stopped).1
          rw [Machine.awaited, isEmpty] at isAwaited
          contradiction
        · obtain ⟨commands, grown, -⟩ := (move.grows goesOn).inbox
          left
          change _ ∈ (job.step before.now before.connection).connection.inbox
          rw [grown]
          exact List.mem_append_left _ isQueued
      · rw [agenda] at isJob
        rcases List.mem_cons.mp isJob with rfl | isLater
        · have isGone : id ∉ (before.connection.expel id).connection.pending.ids := by
            unfold expel
            split
            · intro isPending
              exact (PendingTable.mem_ids_remove.mp isPending).2 rfl
            · rename_i notFound
              exact PendingTable.find_eq_none_iff.mp notFound
          exact absurd isAwaited isGone
        · exact .inr (List.mem_append_right _ isLater)
  | reordered agenda =>
      rcases isOrdered with isQueued | isJob
      · exact .inl isQueued
      · rw [agenda] at isJob
        simp at isJob
        exact .inr (List.mem_cons_of_mem _ isJob)
  | @sent accepted connection flying sends =>
      rcases isOrdered with isQueued | isJob
      · obtain ⟨commands, grown, -⟩ := sends.grows.inbox
        left
        change _ ∈ connection.inbox
        rw [grown]
        exact List.mem_append_left _ isQueued
      · exact .inr isJob
  | still now =>
      exact isOrdered

/-- A hook that is set off takes effect, or it is still on its way. -/
private theorem carries_next
    {machine : Machine app ω} {hook : Hook} (carries : machine.Carries hook)
    (choice : Choice app ω) :
    (machine.next choice).Carries hook ∨
      (machine.next choice).connection = machine.connection.setOff hook := by
  cases choice with
  | take =>
      rw [next]
      split
      · rename_i command rest agenda isRunning inbox
        rcases carries with isFlying | ⟨hooks, isJob, -⟩
        · exact .inl (.inl isFlying)
        · rw [agenda] at isJob
          contradiction
      · exact .inl carries
  | wake =>
      rw [next]
      split
      · rename_i agenda isRunning
        rcases carries with isFlying | ⟨hooks, isJob, -⟩
        · exact .inl (.inl isFlying)
        · rw [agenda] at isJob
          contradiction
      · exact .inl carries
  | work =>
      rw [next]
      split
      · rename_i job rest agenda
        rcases carries with isFlying | ⟨hooks, isJob, isHook⟩
        · exact .inl (.inl isFlying)
        · rw [agenda] at isJob
          rcases List.mem_cons.mp isJob with rfl | isLater
          · cases isHook with
            | head later =>
                exact .inr rfl
            | tail first isLater =>
                exact .inl (.inr ⟨_, List.mem_cons_self, isLater⟩)
          · exact .inl (.inr ⟨hooks, List.mem_append_right _ isLater, isHook⟩)
      · exact .inl carries
  | reorder order =>
      rw [next]
      split
      · rename_i held rest agenda
        by_cases isOrder : order.isPerm held = true
        · rw [if_pos isOrder]
          left
          rcases carries with isFlying | ⟨hooks, isJob, isHook⟩
          · exact .inl isFlying
          · rw [agenda] at isJob
            rcases List.mem_cons.mp isJob with isHead | isLater
            · obtain rfl := Job.signal.inj isHead
              have sameHooks := List.isPerm_iff.mp isOrder
              exact .inr ⟨order, List.mem_cons_self, sameHooks.mem_iff.mpr isHook⟩
            · exact .inr ⟨hooks, List.mem_cons_of_mem _ isLater, isHook⟩
        · rw [if_neg isOrder]
          exact .inl carries
      · exact .inl carries
  | pass instant =>
      exact .inl carries
  | act act =>
      left
      rcases carries with isFlying | ⟨hooks, isJob, isHook⟩
      · exact .inl isFlying
      · exact .inr ⟨hooks, List.mem_append_right _ isJob, isHook⟩
  | trigger token =>
      left
      rcases carries with isFlying | inAgenda
      · exact .inl (List.mem_append_left _ isFlying)
      · exact .inr inAgenda
  | fire fired =>
      rw [next]
      split
      · rcases carries with isFlying | inAgenda
        · by_cases isFired : hook = fired
          · rw [isFired]
            exact .inr rfl
          · exact .inl (.inl ((List.mem_erase_of_ne isFired).mpr isFlying))
        · exact .inl (.inr inAgenda)
      · exact .inl carries

/-- A request that becomes pending is launched. -/
private theorem launched_of_awaited
    (sound : Sound before) (bound : before.accepted.length ≤ 2 ^ 64)
    (stroke : Stroke before after) (isAwaited : id ∈ after.awaited)
    (isNew : id ∉ before.awaited) :
    ∃ message options sink rest, before.agenda = .launch message options sink :: rest ∧
      message.id = id ∧
      after = before.absorb rest
        ((Job.launch message options sink).step before.now before.connection) := by
  cases stroke with
  | @worked job rest agenda =>
      have distinct := sound.tracked.ledger.distinct bound
      have move := job.move before.now before.connection distinct
      rcases move.mem_pending isAwaited with wasPending | ⟨message, options, sink, rfl, rfl⟩
      · exact absurd wasPending isNew
      · exact ⟨message, options, sink, rest, agenda, rfl, rfl⟩
  | @sent accepted connection flying sends =>
      change id ∈ connection.pending.ids at isAwaited
      rw [sends.pending] at isAwaited
      exact absurd isAwaited isNew
  | taken | woken | reordered | still =>
      exact absurd isAwaited isNew

/-- A request that was pending before was sent with the token before. -/
private theorem carrying_of_stroke
    (sound : Sound before) (bound : before.accepted.length ≤ 2 ^ 64)
    (stroke : Stroke before after) (wasAwaited : id ∈ before.awaited) {token : Token}
    (isCarrying : id ∈ carrying token after.taken) : id ∈ carrying token before.taken := by
  cases stroke with
  | @taken command rest agenda isRunning inbox =>
      have ledger := sound.tracked.ledger
      obtain ⟨message, options, sink, isTaken, carried, rfl⟩ := mem_carrying.mp isCarrying
      rcases List.mem_append.mp isTaken with wasTaken | isNew
      · exact mem_carrying.mpr ⟨message, options, sink, wasTaken, carried, rfl⟩
      · obtain rfl := List.mem_singleton.mp isNew
        have isQueued : message.id ∈ before.queued := by
          rw [Machine.queued, inbox, promisesIn]
          exact List.mem_cons_self
        exact absurd (ledger.mem_taken_of_awaited wasAwaited)
          (ledger.not_mem_taken_of_queued bound isQueued)
  | woken | worked | reordered | sent | still =>
      exact isCarrying

end Machine

/-! ## Every schedule of a fleet -/

namespace Chasing

/-- A request whose token was triggered before it hangs on it cancels itself. -/
private theorem cancels_launched [Wire ω]
    {machine : Machine app ω} {message : Request} {options : Options} {sink : Sink app}
    {token : Token} (carried : options.token = some token)
    (isRunning : machine.connection.running = true)
    (triggered : (((Job.launch message options sink).step machine.now
      machine.connection).connection.tokens.state token).cancelled = true) :
    .order (.cancel message.id) ∈ ((Job.launch message options sink).step machine.now
      machine.connection).connection.inbox := by
  change ((machine.connection.watch message.id options.token).2.tokens.state token).cancelled =
    true at triggered
  change _ ∈ (machine.connection.watch message.id options.token).2.inbox
  rw [carried, watch] at triggered ⊢
  cases attached : machine.connection.tokens.attach? token
      (machine.connection.hook message.id) with
  | some hung =>
      obtain ⟨attachment, tokens⟩ := hung
      obtain ⟨untriggered, -, states⟩ := TokenTable.attach?_eq_some attached
      simp [attached, states, untriggered] at triggered
  | none =>
      simp [enqueue_eq, isRunning]

variable [Wire ω] {fleet : Fleet app ω}

/-- A hook that takes effect is an order to cancel in the inbox that it is for. -/
private theorem cancels_setOff
    (named : ∀ name, (fleet name).connection.name = name) (mover : Nat) (choice : Choice app ω)
    {hook : Hook}
    (isSet : ((fleet mover).next choice).connection = (fleet mover).connection.setOff hook)
    (isRunning : (fleet.next (mover, choice) hook.connection).connection.running = true) :
    .order (.cancel hook.id) ∈
      (fleet.next (mover, choice) hook.connection).connection.inbox := by
  by_cases isMover : hook.connection = mover
  · rw [isMover, Fleet.next_self, Machine.adopt_eq] at isRunning ⊢
    have isOwn : hook.connection = (fleet mover).connection.name := by
      rw [named, isMover]
    have running : (fleet mover).connection.running = true := by
      rw [isSet, setOff, if_pos isOwn, enqueue_eq] at isRunning
      exact isRunning
    rw [isSet, setOff, if_pos isOwn, enqueue_eq]
    simp [running]
  · rw [fleet.next_of_ne choice isMover, Machine.adopt_eq] at isRunning ⊢
    have isForeign : hook.connection ≠ (fleet mover).connection.name := by
      rwa [named]
    rw [isSet, setOff, if_neg isForeign]
    have running : (fleet hook.connection).connection.running = true := isRunning
    simp [running, cancelsOf]

/-- A hook that a token sets off is on its way from then on. -/
private theorem carries_triggered
    (mirrored : Mirrored fleet) {mover name : Nat} {choice : Choice app ω}
    (handling : Handling (fleet mover) ((fleet mover).next choice)) {token : Token}
    (untriggered : (fleet.tokens.state token).cancelled = false)
    (triggered : (((fleet mover).next choice).connection.tokens.state token).cancelled = true)
    {id : MessageId} (isAwaited : id ∈ (fleet name).awaited)
    (isCarrying : id ∈ carrying token (fleet name).taken)
    (ledger : Ledger (fleet name)) (bound : (fleet name).accepted.length ≤ 2 ^ 64) :
    ((fleet mover).next choice).Carries ⟨name, id⟩ := by
  obtain ⟨entry, isPending, rfl⟩ := List.mem_map.mp isAwaited
  have isHeld : entry ∈ (fleet name).held := List.mem_append_right _ isPending
  obtain ⟨key, hung⟩ := (mirrored.hangs_iff ledger bound untriggered isHeld).mpr isCarrying
  have isHook : (key, (⟨name, entry.id⟩ : Hook)) ∈ (fleet.tokens.state token).hooks :=
    (mirrored.mirrors.mem_hooks_iff untriggered).mpr ⟨entry, isHeld, hung, rfl⟩
  rw [← mirrored.shared mover] at untriggered isHook
  exact handling.carries untriggered triggered isHook

/-- The fleet after a choice of a member, before the others are told of it. -/
private def moved (fleet : Fleet app ω) (mover : Nat) (choice : Choice app ω) : Fleet app ω :=
  Function.update fleet mover ((fleet mover).next choice)

private theorem next_eq_adopt
    (fleet : Fleet app ω) (mover : Nat) (choice : Choice app ω) (name : Nat) :
    fleet.next (mover, choice) name =
      (moved fleet mover choice name).adopt ((fleet mover).next choice).connection.tokens
        (((fleet mover).next choice).connection.signals.filter
          fun hook => hook.connection = name) :=
  rfl

private theorem moved_cases
    (fleet : Fleet app ω) (mover : Nat) (choice : Choice app ω) (name : Nat) :
    name = mover ∧ moved fleet mover choice name = (fleet name).next choice ∨
      name ≠ mover ∧ moved fleet mover choice name = fleet name := by
  by_cases isMover : name = mover
  · subst isMover
    exact .inl ⟨rfl, Function.update_self ..⟩
  · exact .inr ⟨isMover, Function.update_of_ne isMover ..⟩

/-- A request that becomes pending when its token was triggered before has an order to cancel in the
inbox. -/
private theorem chases_launched
    {machine : Machine app ω} (sound : Sound machine)
    (bound : machine.accepted.length ≤ 2 ^ 64) {choice : Choice app ω} {id : MessageId}
    {token : Token} (isAwaited : id ∈ (machine.next choice).awaited) (isNew : id ∉ machine.awaited)
    (triggered : ((machine.next choice).connection.tokens.state token).cancelled = true)
    (isCarrying : id ∈ carrying token (machine.next choice).taken) :
    .order (.cancel id) ∈ (machine.next choice).connection.inbox := by
  obtain ⟨message, options, sink, rest, agenda, rfl, launched⟩ :=
    Machine.launched_of_awaited sound bound (machine.stroke choice) isAwaited isNew
  have isLaunch : .launch message options sink ∈ machine.agenda := by simp [agenda]
  -- A stopped worker launches nothing, so the order is not lost on its way to the inbox.
  have isRunning : machine.connection.running = true := by
    by_contra hasStopped
    have settled := (sound.stopped (Bool.eq_false_iff.mpr hasStopped)).2
    have passive := settled _ isLaunch
    contradiction
  rw [launched] at isCarrying triggered ⊢
  obtain ⟨other, otherOptions, otherSink, isTaken, carried, sameId⟩ := mem_carrying.mp isCarrying
  have wasTaken := sound.traced.launched message options sink isLaunch
  have sameCommand :=
    sound.tracked.ledger.eq_of_taken bound isTaken wasTaken rfl rfl sameId
  obtain ⟨-, rfl, -⟩ := Command.request.inj sameCommand
  exact cancels_launched carried isRunning triggered

/-- What chases a pending request goes on to chase it, or it was a hook that is set off. -/
private theorem chases_kept
    (sound : ∀ name, Sound (fleet name)) (lasting : fleet.Lasting) {mover : Nat}
    {choice : Choice app ω} {name : Nat} {id : MessageId}
    (isAwaited : id ∈ (moved fleet mover choice name).awaited) (chases : fleet.Chases name id) :
    (moved fleet mover choice).Chases name id ∨
      ((fleet mover).next choice).connection = (fleet mover).connection.setOff ⟨name, id⟩ := by
  have ordered (isOrdered : .order (.cancel id) ∈ (fleet name).connection.inbox ∨
      .carryOut (.order (.cancel id)) ∈ (fleet name).agenda) :
      (moved fleet mover choice).Chases name id := by
    rw [Fleet.Chases, ← or_assoc]
    left
    rcases moved_cases fleet mover choice name with ⟨-, isMoved⟩ | ⟨-, isMoved⟩
    · rw [isMoved] at isAwaited ⊢
      have stroke := (fleet name).stroke choice
      exact Machine.awaits_cancel (sound name) (lasting name) stroke isAwaited isOrdered
    · rwa [isMoved]
  rcases chases with isQueued | isJob | ⟨other, carries⟩
  · exact .inl (ordered (.inl isQueued))
  · exact .inl (ordered (.inr isJob))
  · rcases moved_cases fleet mover choice other with ⟨rfl, isMoved⟩ | ⟨-, isMoved⟩
    · rcases Machine.carries_next carries choice with stillCarries | isSet
      · left
        right
        right
        exact ⟨other, isMoved ▸ stillCarries⟩
      · exact .inr isSet
    · left
      right
      right
      exact ⟨other, isMoved ▸ carries⟩

/-- An order to cancel is on its way, or the hook has just been set off. -/
private theorem chases_moved
    (chasing : Chasing fleet) (mirrored : Mirrored fleet)
    (sound : ∀ name, Sound (fleet name)) (lasting : fleet.Lasting)
    {mover : Nat} {choice : Choice app ω} (isOwn : choice.isOwn = true)
    {name : Nat} {id : MessageId} {token : Token}
    (isAwaited : id ∈ (moved fleet mover choice name).awaited)
    (triggered : (((fleet mover).next choice).connection.tokens.state token).cancelled = true)
    (isCarrying : id ∈ carrying token (moved fleet mover choice name).taken) :
    (moved fleet mover choice).Chases name id ∨
      ((fleet mover).next choice).connection = (fleet mover).connection.setOff ⟨name, id⟩ := by
  -- Either the request or the trigger may be what the choice has brought.
  by_cases wasAwaited : id ∈ (fleet name).awaited
  · have wasCarrying : id ∈ carrying token (fleet name).taken := by
      rcases moved_cases fleet mover choice name with ⟨-, isMoved⟩ | ⟨-, isMoved⟩
      · rw [isMoved] at isCarrying
        have stroke := (fleet name).stroke choice
        exact Machine.carrying_of_stroke (sound name) (lasting name) stroke wasAwaited isCarrying
      · rwa [isMoved] at isCarrying
    cases wasTriggered : (fleet.tokens.state token).cancelled with
    | false =>
        have handling := (fleet mover).handling choice isOwn (sound mover).tracked.ledger
          (lasting mover)
        have carries := carries_triggered mirrored handling wasTriggered triggered wasAwaited
          wasCarrying (sound name).tracked.ledger (lasting name)
        left
        right
        right
        refine ⟨mover, ?_⟩
        rw [moved, Function.update_self]
        exact carries
    | true =>
        have chases := chasing name id wasAwaited token wasTriggered wasCarrying
        exact chases_kept sound lasting isAwaited chases
  · left
    left
    rcases moved_cases fleet mover choice name with ⟨rfl, isMoved⟩ | ⟨-, isMoved⟩
    · rw [isMoved] at isAwaited isCarrying ⊢
      exact chases_launched (sound name) (lasting name) isAwaited wasAwaited triggered isCarrying
    · rw [isMoved] at isAwaited
      exact absurd isAwaited wasAwaited

theorem next
    (chasing : Chasing fleet) (mirrored : Mirrored fleet)
    (sound : ∀ name, Sound (fleet name)) (lasting : fleet.Lasting)
    (mover : Nat) {choice : Choice app ω} (isOwn : choice.isOwn = true) :
    Chasing (fleet.next (mover, choice)) := by
  intro name id isAwaited token triggered isCarrying
  have isTold := next_eq_adopt fleet mover choice
  have wasAwaited : id ∈ (moved fleet mover choice name).awaited := by
    rw [isTold, Machine.adopt_eq] at isAwaited
    exact isAwaited
  have wasTriggered :
      (((fleet mover).next choice).connection.tokens.state token).cancelled = true := by
    rw [Fleet.tokens, isTold, Machine.adopt_eq] at triggered
    exact triggered
  have wasCarrying : id ∈ carrying token (moved fleet mover choice name).taken := by
    rw [isTold, Machine.adopt_eq] at isCarrying
    exact isCarrying
  have chases := chases_moved chasing mirrored sound lasting isOwn wasAwaited wasTriggered
    wasCarrying
  rcases chases with (isQueued | isJob | ⟨other, carries⟩) | isSet
  · left
    rw [isTold, Machine.adopt_eq]
    exact List.mem_append_left _ isQueued
  · right
    left
    rw [isTold, Machine.adopt_eq]
    exact isJob
  · right
    right
    refine ⟨other, ?_⟩
    rw [isTold, Machine.adopt_eq]
    exact carries
  -- The hook has become an order, unless the worker has stopped, and then nothing would be pending.
  · left
    have isRunning : (fleet.next (mover, choice) name).connection.running = true := by
      by_contra hasStopped
      have stopped := Bool.eq_false_iff.mpr hasStopped
      rw [isTold, Machine.adopt_eq] at stopped
      have soundMoved : Sound (moved fleet mover choice name) := by
        rcases moved_cases fleet mover choice name with ⟨-, isMoved⟩ | ⟨-, isMoved⟩
        · rw [isMoved]
          exact (sound name).stroke (lasting name) ((fleet name).stroke choice)
        · rw [isMoved]
          exact sound name
      have isEmpty := (soundMoved.stopped stopped).1
      rw [Machine.awaited, isEmpty] at wasAwaited
      contradiction
    exact cancels_setOff mirrored.named mover choice isSet isRunning

theorem of_reachable (reachable : fleet.Reachable) (lasting : fleet.Lasting) : Chasing fleet := by
  refine reachable.induction Chasing ?_ ?_ lasting
  · intro wire memory limit name id isAwaited
    contradiction
  · intro before reachableBefore lastingBefore chasing mover choice isOwn
    have mirrored := Mirrored.of_reachable reachableBefore lastingBefore
    have sound (name : Nat) := (reachableBefore.attained name).sound (lastingBefore name)
    exact chasing.next mirrored sound lastingBefore mover isOwn

end Chasing

end RpcEndpoint
