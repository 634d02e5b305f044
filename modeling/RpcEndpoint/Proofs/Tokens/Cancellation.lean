import RpcEndpoint.Proofs.Tokens.Chase

/-!
# Cancellation

No cancellation is lost: when the hooks of a triggered token have taken effect and the worker has
nothing in its inbox, no request with the token is pending. An order to cancel ends the request that
it names, or does nothing at all, and a request that comes too late is not even written.
-/

namespace RpcEndpoint

open Connection

variable {app : Application} {ω : Type}

/-! ## Between the hook and the table -/

namespace Machine

/-- The worker enters a request whose hook it has hung on a token. -/
def enter (message : Request) (timeout : Option Duration) (sink : Sink app)
    (attachment : Option Attachment) (machine : Machine app ω) : Machine app ω :=
  { machine with
    connection := machine.connection.enter machine.now message timeout sink attachment }

end Machine

/-- Whether another thread triggers a token, or lets one of its hooks take effect. -/
def Choice.cancels : Choice app ω → Bool
  | .trigger _ | .fire _ => true
  | _ => false

namespace Machine

variable [Wire ω] (message : Request) (timeout : Option Duration) (sink : Sink app)
  (attachment : Option Attachment)

private theorem next_enter
    (machine : Machine app ω) {choice : Choice app ω} (cancels : choice.cancels = true) :
    (machine.enter message timeout sink attachment).next choice =
      (machine.next choice).enter message timeout sink attachment := by
  cases choice with
  | trigger token =>
      rfl
  | fire hook =>
      unfold next
      dsimp only
      by_cases isFlying : hook ∈ machine.flying
      · have stillFlying : hook ∈ (machine.enter message timeout sink attachment).flying :=
          isFlying
        have sameEffect : (machine.enter message timeout sink attachment).connection.setOff hook =
            (machine.connection.setOff hook).enter machine.now message timeout sink
              attachment := by
          unfold setOff
          by_cases isOwn : hook.connection = machine.connection.name
          · have stillOwn : hook.connection =
                (machine.enter message timeout sink attachment).connection.name := isOwn
            rw [if_pos isOwn, if_pos stillOwn, enqueue_eq, enqueue_eq]
            rfl
          · have stillForeign : hook.connection ≠
                (machine.enter message timeout sink attachment).connection.name := isOwn
            rw [if_neg isOwn, if_neg stillForeign]
            rfl
        rw [if_pos isFlying, if_pos stillFlying, sameEffect]
        rfl
      · have notFlying : hook ∉ (machine.enter message timeout sink attachment).flying :=
          isFlying
        rw [if_neg isFlying, if_neg notFlying]
  | _ =>
      contradiction

private theorem run_enter
    (machine : Machine app ω) {cancels : List (Choice app ω)}
    (onlyCancels : ∀ choice ∈ cancels, choice.cancels = true) :
    (machine.enter message timeout sink attachment).run cancels =
      (machine.run cancels).enter message timeout sink attachment := by
  induction cancels generalizing machine with
  | nil =>
      rfl
  | cons choice rest inductionHypothesis =>
      have first := machine.next_enter message timeout sink attachment
        (onlyCancels choice List.mem_cons_self)
      have later := inductionHypothesis (machine.next choice) fun other isOther =>
        onlyCancels other (List.mem_cons_of_mem choice isOther)
      rw [run, List.foldl_cons, first]
      exact later

private theorem adopt_enter
    (machine : Machine app ω) (tokens : TokenTable) (hooks : List Hook) :
    (machine.enter message timeout sink attachment).adopt tokens hooks =
      (machine.adopt tokens hooks).enter message timeout sink attachment := by
  rw [adopt_eq, adopt_eq]
  rfl

end Machine

/-! ## Orders to cancel, and requests that come too late -/

namespace Machine

variable {machine : Machine app ω} {rest : List (Job app)}

/-- Between two commands, a request that fails has failed. -/
theorem Fails.given
    {id : MessageId} {failure : Failure} (fails : machine.Fails id failure)
    (ledger : Ledger machine) (idle : machine.agenda = []) :
    (id, .error failure) ∈ machine.connection.outcomes := by
  rw [ledger.outcomes]
  rcases fails with isGiven | ⟨job, isJob, -⟩
  · exact isGiven
  · rw [idle] at isJob
    contradiction

/-- A request ends in another way than by being cancelled. -/
def EndsOtherwise (machine : Machine app ω) (id : MessageId) : Prop :=
  (∃ payload, (id, .ok payload) ∈ machine.connection.outcomes ∧
    FirstAnswer machine.history id payload) ∨
  ∃ failure, (id, .error failure) ∈ machine.connection.outcomes ∧
    failure ≠ .cancelled ∧ Grounds machine id failure

/-- Between two commands, what is not pending any more is cancelled or has ended otherwise. -/
private theorem ended
    (sound : Sound machine) (founded : Founded machine)
    (bound : machine.accepted.length ≤ 2 ^ 64) (idle : machine.agenda = [])
    {id : MessageId} (isTaken : id ∈ (promisesIn machine.taken).map (·.id))
    (isGone : id ∉ machine.awaited) :
    machine.completed.count id = 1 ∧
      ((id, .error .cancelled) ∈ machine.connection.outcomes ∨ machine.EndsOtherwise id) := by
  have tracked := sound.tracked
  have isCompleted : id ∈ machine.completed := by
    rcases tracked.awaited_or_completed idle isTaken with isAwaited | isCompleted
    · exact absurd isAwaited isGone
    · exact isCompleted
  have distinct := (tracked.ledger.nodup_everywhere bound).of_append_right
  refine ⟨List.count_eq_one_of_mem distinct isCompleted, ?_⟩
  obtain ⟨⟨other, outcome⟩, isOutcome, rfl⟩ := List.mem_map.mp isCompleted
  cases outcome with
  | ok payload =>
      right
      left
      exact ⟨payload, isOutcome, (tracked.ok_iff_firstAnswer idle other payload).mp isOutcome⟩
  | error failure =>
      by_cases isCancelled : failure = .cancelled
      · left
        rwa [isCancelled] at isOutcome
      · right
        right
        refine ⟨failure, isOutcome, isCancelled, founded.fails other failure (.inl ?_)⟩
        rwa [tracked.ledger.outcomes] at isOutcome

/-- The machine has nothing more to do for its first job. -/
private theorem absorb_nothing (machine : Machine app ω) (rest : List (Job app)) :
    machine.absorb rest { jobs := [], connection := machine.connection } =
      { machine with agenda := rest } := by
  simp [absorb]

variable [Wire ω]

private theorem next_cancel
    {id : MessageId} (agenda : machine.agenda = .carryOut (.order (.cancel id)) :: rest) :
    machine.next .work = machine.absorb rest (machine.connection.expel id) := by
  rw [next, agenda]
  rfl

/-- An order that names no pending request changes nothing. -/
private theorem next_cancel_of_not_awaited
    {id : MessageId} (agenda : machine.agenda = .carryOut (.order (.cancel id)) :: rest)
    (isMissing : id ∉ machine.awaited) : machine.next .work = { machine with agenda := rest } := by
  have notFound := PendingTable.find_eq_none_iff.mpr isMissing
  rw [next_cancel agenda, expel, notFound]
  exact machine.absorb_nothing rest

private theorem not_awaited_of_cancel
    {id : MessageId} (agenda : machine.agenda = .carryOut (.order (.cancel id)) :: rest) :
    id ∉ (machine.next .work).awaited := by
  rw [next_cancel agenda, expel]
  cases found : machine.connection.pending.find id with
  | some entry =>
      intro isAwaited
      exact (PendingTable.mem_ids_remove.mp isAwaited).2 rfl
  | none =>
      exact PendingTable.find_eq_none_iff.mp found

/-- An order that names a pending request fails it. -/
private theorem fails_cancel
    {id : MessageId} (agenda : machine.agenda = .carryOut (.order (.cancel id)) :: rest)
    (isAwaited : id ∈ machine.awaited) : (machine.next .work).Fails id .cancelled := by
  rw [next_cancel agenda, expel]
  cases found : machine.connection.pending.find id with
  | some entry =>
      right
      refine ⟨.finish entry (.error .cancelled), by simp [absorb], ?_⟩
      exact .finish (PendingTable.id_of_find found)
  | none =>
      exact absurd isAwaited (PendingTable.find_eq_none_iff.mp found)

/-- Behind an order that names it, a request that was taken leaves. -/
private theorem leaves_cancel
    (sound : Sound machine)
    {id : MessageId} (agenda : machine.agenda = .carryOut (.order (.cancel id)) :: rest)
    (isTaken : id ∈ (promisesIn machine.taken).map (·.id)) : (machine.next .work).Leaves id := by
  by_cases isAwaited : id ∈ machine.awaited
  · exact (fails_cancel agenda isAwaited).leaves
  -- What is not pending any more has come to its outcome, or a later job owes it.
  · rw [next_cancel_of_not_awaited agenda isAwaited]
    rcases sound.tracked.ledger.place_of_taken isTaken with
      ⟨job, isJob, promise, isOwn, rfl⟩ | isPending | isKept
    · right
      rw [agenda] at isJob
      rcases List.mem_cons.mp isJob with rfl | isLater
      · contradiction
      · refine ⟨job, isLater, ?_, List.mem_map_of_mem isOwn⟩
        apply sound.tracked.sending.head
        rwa [agenda]
    · exact absurd isPending isAwaited
    · exact .inl isKept

/-- A request whose token was triggered is failed before it is entered. -/
private theorem next_late
    {message : Request} {options : Options} {sink : Sink app} {token : Token}
    (agenda : machine.agenda = .carryOut (.request message options sink) :: rest)
    (carried : options.token = some token)
    (triggered : (machine.connection.tokens.state token).cancelled = true) :
    let failure := machine.connection.closed.getD .cancelled
    machine.next .work =
      { machine with agenda := .deliver ⟨message.id, sink⟩ (.error failure) :: rest } := by
  intro failure
  have isRefused : machine.connection.refusal? options = some failure := by
    unfold refusal?
    cases isClosed : machine.connection.closed with
    | some reason =>
        simp [failure, isClosed]
    | none =>
        simp [failure, isClosed, carried, TokenTable.isCancelled, triggered]
  rw [next, agenda]
  simp [absorb, Job.step, begin, weigh, isRefused]

end Machine

/-! ## No cancellation is lost -/

namespace Fleet

variable [Wire ω] {fleet : Fleet app ω} {name : Nat} {id : MessageId}
  {schedule : List (Nat × Choice app ω)}

private theorem leads_later (fleet : Fleet app ω) (name : Nat)
    (schedule : List (Nat × Choice app ω)) :
    ((fleet name).next .work).Leads (fleet.run ((name, .work) :: schedule) name) := by
  have told := Machine.leads_adopt ((fleet name).next .work).connection.tokens
    (((fleet name).next .work).connection.signals.filter fun hook => hook.connection = name)
    ((fleet name).next .work)
  rw [← fleet.next_self] at told
  exact told.trans ((fleet.next (name, .work)).leads_run schedule name)

/-- What fails at a step of the worker has failed whenever the worker is between two commands. -/
private theorem given_later
    (soundMoved : Sound ((fleet name).next .work)) {failure : Failure}
    (fails : ((fleet name).next .work).Fails id failure)
    (lastingLater : (fleet.run ((name, .work) :: schedule)).Lasting)
    (idle : (fleet.run ((name, .work) :: schedule) name).agenda = []) :
    (id, .error failure) ∈
      (fleet.run ((name, .work) :: schedule) name).connection.outcomes := by
  have led := fleet.leads_later name schedule
  have soundLater := soundMoved.leads led (lastingLater name)
  have failsLater := fails.leads soundMoved led (lastingLater name)
  exact failsLater.given soundLater.tracked.ledger idle

/-- What leaves at a step of the worker is neither pending nor about to be written any more. -/
private theorem left_later
    (soundMoved : Sound ((fleet name).next .work)) (leaves : ((fleet name).next .work).Leaves id)
    (lastingLater : (fleet.run ((name, .work) :: schedule)).Lasting) :
    id ∉ (fleet.run ((name, .work) :: schedule) name).awaited ∧
      ∀ other, .send other ∈ (fleet.run ((name, .work) :: schedule) name).agenda →
        other.id ≠ id := by
  have led := fleet.leads_later name schedule
  have soundLater := soundMoved.leads led (lastingLater name)
  have leavesLater := leaves.leads soundMoved led (lastingLater name)
  refine ⟨leavesLater.not_awaited soundLater.tracked.ledger (lastingLater name), ?_⟩
  intro other isSend
  exact leavesLater.not_send soundLater (lastingLater name) isSend

end Fleet

/-- Whatever the members of a fleet and other threads do, and however the triggers of a token and
their hooks come between the steps of its workers:

When a token was triggered, a running worker has nothing in its inbox and no hook of a request with
the token is on its way, the request is not pending, and once the worker is done with its command, it
has come to one outcome. It was cancelled, or it ended in another way for which there are grounds.

A request whose token was triggered when the worker comes to it fails. At no time it is sent, pending
or about to be written.

An order to cancel leaves its request not pending. A request that was pending comes to nothing else
than being cancelled, and no request that was taken is ever pending again. An order that names no
pending request changes nothing and tells no event.

What other threads do to tokens after the worker has hung a hook and before it enters the request has
the same effect as behind that. -/
theorem cancellations_are_not_lost [Wire ω]
    {fleet : Fleet app ω} (reachable : fleet.Reachable) (lasting : fleet.Lasting) (name : Nat) :
    (∀ token, (fleet.tokens.state token).cancelled = true →
      (fleet name).connection.running = true → (fleet name).connection.inbox = [] →
      ∀ id ∈ carrying token (fleet name).entered, ¬ fleet.InFlight ⟨name, id⟩ →
        (.carryOut (.order (.cancel id)) ∉ (fleet name).agenda → id ∉ (fleet name).awaited) ∧
        ((fleet name).agenda = [] →
          (fleet name).completed.count id = 1 ∧
            ((id, .error .cancelled) ∈ (fleet name).connection.outcomes ∨
              (fleet name).EndsOtherwise id))) ∧
    (∀ message options sink token rest,
      (fleet name).agenda = .carryOut (.request message options sink) :: rest →
      options.token = some token → (fleet.tokens.state token).cancelled = true →
      let failure := (fleet name).connection.closed.getD .cancelled
      (fleet name).next .work =
          { fleet name with agenda := .deliver ⟨message.id, sink⟩ (.error failure) :: rest } ∧
        ∀ schedule, let later := fleet.run ((name, .work) :: schedule)
          later.Lasting →
          message.id ∉ sentIn (later name).history ∧ message.id ∉ (later name).awaited ∧
            (∀ other, .send other ∈ (later name).agenda → other.id ≠ message.id) ∧
            ((later name).agenda = [] →
              (message.id, .error failure) ∈ (later name).connection.outcomes)) ∧
    (∀ id rest, (fleet name).agenda = .carryOut (.order (.cancel id)) :: rest →
      id ∉ ((fleet name).next .work).awaited ∧
      (id ∉ (fleet name).awaited → (fleet name).next .work = { fleet name with agenda := rest }) ∧
      ∀ schedule, let later := fleet.run ((name, .work) :: schedule)
        later.Lasting →
        (id ∈ (fleet name).awaited → (later name).agenda = [] →
          (id, .error .cancelled) ∈ (later name).connection.outcomes) ∧
        (id ∈ (promisesIn (fleet name).taken).map (·.id) → id ∉ (later name).awaited)) ∧
    ∀ message options sink rest, (fleet name).agenda = .launch message options sink :: rest →
      let watched := (fleet name).connection.watch message.id options.token
      let hung := (fleet name).absorb rest { jobs := [.send message], connection := watched.2 }
      (∀ cancels : List (Choice app ω), (∀ choice ∈ cancels, choice.cancels = true) →
        (hung.run cancels).enter message options.timeout sink watched.1 =
          ((fleet name).next .work).run cancels) ∧
      ∀ tokens hooks, (hung.adopt tokens hooks).enter message options.timeout sink watched.1 =
        ((fleet name).next .work).adopt tokens hooks := by
  have mirrored := Mirrored.of_reachable reachable lasting
  have chasing := Chasing.of_reachable reachable lasting
  have founded := Founded.of_reachable reachable lasting name
  have sound := (reachable.attained name).sound (lasting name)
  have ledger := sound.tracked.ledger
  have soundMoved := sound.stroke (lasting name) ((fleet name).stroke .work)
  refine ⟨?_, ?_, ?_, ?_⟩
  · intro token triggered isRunning isEmpty id isCarrying landed
    obtain ⟨waiting, entered, inbox⟩ := ledger.inbox
    rw [if_pos isRunning, isEmpty] at inbox
    rw [entered, ← inbox, List.append_nil] at isCarrying
    have isGone (notBefore : .carryOut (.order (.cancel id)) ∉ (fleet name).agenda) :
        id ∉ (fleet name).awaited := by
      intro isAwaited
      rcases chasing name id isAwaited token triggered isCarrying with
        isQueued | isJob | isFlying
      · rw [isEmpty] at isQueued
        contradiction
      · exact notBefore isJob
      · exact landed isFlying
    refine ⟨isGone, ?_⟩
    intro idle
    have isTaken : id ∈ (promisesIn (fleet name).taken).map (·.id) := by
      obtain ⟨message, options, sink, wasTaken, -, rfl⟩ := mem_carrying.mp isCarrying
      have isPromise : ⟨message.id, sink⟩ ∈ promisesIn (fleet name).taken :=
        List.mem_filterMap.mpr ⟨_, wasTaken, rfl⟩
      exact List.mem_map_of_mem (f := Promise.id) isPromise
    refine Machine.ended sound founded (lasting name) idle isTaken (isGone ?_)
    simp [idle]
  · intro message options sink token rest agenda carried triggered failure
    have stepped : (fleet name).next .work =
        { fleet name with agenda := .deliver ⟨message.id, sink⟩ (.error failure) :: rest } :=
      Machine.next_late agenda carried (by rwa [mirrored.shared])
    refine ⟨stepped, ?_⟩
    intro schedule later lastingLater
    have fails : ((fleet name).next .work).Fails message.id failure := by
      rw [stepped]
      exact .inr ⟨_, List.mem_cons_self, .deliver rfl⟩
    have unsent : message.id ∉ sentIn ((fleet name).next .work).history := by
      rw [stepped]
      refine sound.tracked.sending.unsent (.carryOut (.request message options sink)) ?_
        ⟨message.id, sink⟩ ?_ rfl
      · rw [agenda]
        exact List.mem_cons_self
      · exact List.mem_singleton.mpr rfl
    obtain ⟨notAwaited, notWritten⟩ := Fleet.left_later soundMoved fails.leaves lastingLater
    refine ⟨?_, notAwaited, notWritten, Fleet.given_later soundMoved fails lastingLater⟩
    exact fails.leaves.never_sent unsent soundMoved (fleet.leads_later name schedule)
      (lastingLater name)
  · intro id rest agenda
    refine ⟨Machine.not_awaited_of_cancel agenda,
      Machine.next_cancel_of_not_awaited agenda, ?_⟩
    intro schedule later lastingLater
    refine ⟨?_, ?_⟩
    · intro isAwaited
      exact Fleet.given_later soundMoved (Machine.fails_cancel agenda isAwaited) lastingLater
    · intro isTaken
      have leaves := Machine.leaves_cancel sound agenda isTaken
      exact (Fleet.left_later soundMoved leaves lastingLater).1
  · intro message options sink rest agenda watched hung
    have launched : (fleet name).next .work =
        hung.enter message options.timeout sink watched.1 := by
      rw [Machine.next, agenda]
      rfl
    rw [launched]
    refine ⟨?_, ?_⟩
    · intro cancels onlyCancels
      exact (hung.run_enter message options.timeout sink watched.1 onlyCancels).symm
    · intro tokens hooks
      exact (hung.adopt_enter message options.timeout sink watched.1 tokens hooks).symm

/-- A request is entered, and before it is written another connection triggers its token. Then comes
one more request with the token. -/
def triggerAmid : List (Nat × Choice bare (MemoryWire Unit)) :=
  [(0, askWith "first" 7), (0, .take), (0, .work), (0, .work), (1, .trigger 7),
    (1, .fire ⟨0, .number 1⟩), (0, .work), (0, .work)] ++
  (.take :: List.replicate 6 .work).map (fun choice => (0, choice)) ++ sendWith 0 "late" 7

theorem both_requests_are_cancelled :
    let reached := freshFleet.run triggerAmid
    reached.Reachable ∧ reached.Lasting ∧ (reached.tokens.state 7).cancelled = true ∧
      sentIn (reached 0).history = [.number 1] ∧
      (reached 0).completed = [.number 1, .number 2] ∧
      ∀ id ∈ carrying 7 (reached 0).entered,
        id ∉ (reached 0).awaited ∧ (reached 0).completed.count id = 1 := by
  intro reached
  have reachable : reached.Reachable := reachable_freshFleet (by decide +kernel)
  have lasting : reached.Lasting := lasting_freshFleet (by decide +kernel)
  have triggered : (reached.tokens.state 7).cancelled = true := by decide +kernel
  have isRunning : (reached 0).connection.running = true := by decide +kernel
  have noCommand : (reached 0).connection.inbox.isEmpty = true := by decide +kernel
  have noJob : (reached 0).agenda.isEmpty = true ∧ (reached 1).agenda.isEmpty = true := by
    decide +kernel
  have noHook : (reached 0).flying = [] ∧ (reached 1).flying = [] := by decide +kernel
  have members : ∀ turn ∈ triggerAmid, turn.1 < 2 := by decide +kernel
  have landed (hook : Hook) : ¬ reached.InFlight hook := by
    have atRest (name : Nat) : (reached name).agenda = [] ∧ (reached name).flying = [] := by
      by_cases isFirst : name = 0
      · rw [isFirst]
        exact ⟨List.isEmpty_iff.mp noJob.1, noHook.1⟩
      · by_cases isSecond : name = 1
        · rw [isSecond]
          exact ⟨List.isEmpty_iff.mp noJob.2, noHook.2⟩
        · apply Fleet.run_of_others freshFleet triggerAmid
          intro turn isTurn isName
          have small := members turn isTurn
          omega
    rintro ⟨name, isFlying | ⟨hooks, isJob, -⟩⟩
    · rw [(atRest name).2] at isFlying
      contradiction
    · rw [(atRest name).1] at isJob
      contradiction
  have idle := List.isEmpty_iff.mp noJob.1
  have notLost := cancellations_are_not_lost reachable lasting 0
  refine ⟨reachable, lasting, triggered, by decide +kernel, by decide +kernel, ?_⟩
  intro id isCarrying
  have ended := notLost.1 7 triggered isRunning (List.isEmpty_iff.mp noCommand) id isCarrying
    (landed _)
  refine ⟨ended.1 ?_, (ended.2 idle).1⟩
  simp [idle]

end RpcEndpoint
