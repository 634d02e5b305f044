import RpcEndpoint.Proofs.Accounts.Always
import RpcEndpoint.Proofs.Requests.Attained
import RpcEndpoint.Proofs.Requests.Mailboxes

/-!
# What handles report

The owner of a request has a handle on its mailbox: it looks into it, or waits until the outcome is
there. How things stand with a handle is known at every moment from what it has reported
(`Hearing`): its first report is what the request came to, and a handle that reports again says
that the connection is closed, whether or not it is.
-/

namespace RpcEndpoint

open Connection
open Json (Schema Value)

variable {app : Application} {ω : Type}

/-! ## One mailbox under a choice -/

namespace Machine

/-- What a look into a mailbox that is still up finds. -/
def look (id : MessageId) (machine : Machine app ω) : Option (Except Failure Value) :=
  match machine.connection.mailbox? id with
  | some _ => (machine.connection.takeOutcome id).1
  | none => none

/-- What the handle on a request reports at a choice. -/
def told (id : MessageId) (machine : Machine app ω) :
    Choice app ω → List (Except Failure Value)
  | .act (.takeOutcome other) => if other = id then (machine.look id).toList else []
  | _ => []

/-- What the handle on a request reports along a schedule. -/
def tellings [Wire ω] (id : MessageId) :
    Machine app ω → List (Choice app ω) → List (Except Failure Value)
  | _, [] => []
  | machine, choice :: rest => machine.told id choice ++ tellings id (machine.next choice) rest

theorem look_eq_found
    {machine : Machine app ω} {id : MessageId} {mailbox : Mailbox}
    (up : machine.connection.mailbox? id = some mailbox) : machine.look id = mailbox.found := by
  rw [look, up]
  exact takeOutcome_eq_found up

theorem tellings_append [Wire ω]
    (id : MessageId) (machine : Machine app ω) (left right : List (Choice app ω)) :
    machine.tellings id (left ++ right) =
      machine.tellings id left ++ (machine.run left).tellings id right := by
  induction left generalizing machine with
  | nil =>
      rfl
  | cons choice rest inductionHypothesis =>
      rw [List.cons_append, tellings, tellings, inductionHypothesis, List.append_assoc]
      rfl

end Machine

/-- The worker goes on as before, and the request is neither accepted nor completed. -/
structure Calm (id : MessageId) (before after : Machine app ω) : Prop where
  running : after.connection.running = before.connection.running
  accepted : id ∈ after.accepted → id ∈ before.accepted
  completed : id ∈ after.completed → id ∈ before.completed

theorem Calm.of_eq
    {id : MessageId} {before after : Machine app ω}
    (running : after.connection.running = before.connection.running)
    (accepted : after.accepted = before.accepted)
    (completed : after.completed = before.completed) : Calm id before after :=
  ⟨running, fun isAccepted => accepted ▸ isAccepted, fun isCompleted => completed ▸ isCompleted⟩

/-- What a choice may make of the mailbox of a request, and what the handle on it reports. -/
inductive Slot (id : MessageId) (before after : Machine app ω) :
    List (Except Failure Value) → Prop where
  | still
      (calm : Calm id before after)
      (mailbox : after.connection.mailbox? id = before.connection.mailbox? id) :
      Slot id before after []
  /-- The request is accepted. -/
  | opened (message : Request) (options : Options) (sink : Sink app)
      (isId : message.id = id)
      (isRunning : after.connection.running = true)
      (accepted : after.accepted = before.accepted ++ [id])
      (entered : after.entered = before.entered ++ [.request message options sink])
      (completed : after.completed = before.completed)
      (mailbox : ∀ schema, sink = .mailbox schema →
        after.connection.mailbox? id = some .waiting) :
      Slot id before after []
  /-- The request comes to its outcome. -/
  | delivered (sink : Sink app) (outcome : Except Failure Bytes) (rest : List (Job app))
      (agenda : before.agenda = .deliver ⟨id, sink⟩ outcome :: rest)
      (running : after.connection.running = before.connection.running)
      (accepted : after.accepted = before.accepted)
      (isOutcome : (id, outcome) ∈ after.connection.outcomes)
      (mailbox : after.connection.mailbox? id =
        (before.connection.mailbox? id).map (sink.put outcome)) :
      Slot id before after []
  | looked (mailbox : Mailbox)
      (calm : Calm id before after)
      (up : before.connection.mailbox? id = some mailbox)
      (emptied : after.connection.mailbox? id = some mailbox.empty) :
      Slot id before after mailbox.found.toList
  /-- The handle is given up. -/
  | dropped
      (calm : Calm id before after)
      (down : after.connection.mailbox? id = none) :
      Slot id before after []
  /-- The worker leaves its loop. -/
  | halted (rest : List (Job app))
      (agenda : before.agenda = .halt :: rest)
      (later : after.agenda = rest)
      (taken : after.taken = before.taken)
      (accepted : after.accepted = before.accepted)
      (stopped : after.connection.running = false)
      (completed : after.completed = before.completed)
      (mailbox : after.connection.mailbox? id =
        if before.connection.inbox.any (·.mailsTo id) then
          (before.connection.mailbox? id).map fun _ => .exhausted
        else before.connection.mailbox? id) :
      Slot id before after []

theorem Connection.outcomes_honour
    (promise : Promise app) (outcome : Except Failure Bytes) (connection : Connection app ω) :
    (connection.honour promise outcome).connection.outcomes =
      connection.outcomes ++ [(promise.id, outcome)] := by
  obtain ⟨id, sink⟩ := promise
  cases sink with
  | mailbox schema =>
      exact (sends_fillMailbox _ _ _).outcomes.trans (outcomes_record_completed _ _ _)
  | callback react =>
      exact outcomes_record_completed _ _ _

namespace Slot

variable {id : MessageId} {before : Machine app ω}

theorem refl (machine : Machine app ω) : Slot id machine machine [] :=
  .still (.of_eq rfl rfl rfl) rfl

theorem of_posted
    {progress : Progress app ω} {rest : List (Job app)} (flying : List Hook)
    (posted : Posted before.connection progress)
    (running : progress.connection.running = before.connection.running)
    (outcomes : progress.connection.outcomes = before.connection.outcomes) :
    Slot id before ({ before with flying }.absorb rest progress) [] := by
  have sameCompleted : ({ before with flying }.absorb rest progress).completed =
      before.completed :=
    congrArg (List.map Prod.fst) outcomes
  cases posted with
  | unchanged accepted mailboxes =>
      have sameAccepted : before.accepted ++ progress.accepted = before.accepted := by
        rw [accepted, List.append_nil]
      exact .still (.of_eq running sameAccepted sameCompleted)
        (congrArg (List.lookup id) mailboxes)
  | opened message options sink isRunning accepted inbox mailboxes =>
      by_cases isId : message.id = id
      · refine .opened message options sink isId (running.trans isRunning) ?_ ?_ sameCompleted ?_
        · change before.accepted ++ progress.accepted = _
          rw [accepted, isId]
        · change before.entered ++ progress.connection.inbox.drop _ = _
          rw [inbox, List.drop_left]
        · rintro schema rfl
          change progress.connection.mailboxes.lookup id = some .waiting
          rw [mailboxes, openMailbox, isId]
          exact List.lookup_cons_self
      · refine .still ⟨running, ?_, ?_⟩ ?_
        · intro isAccepted
          change id ∈ before.accepted ++ progress.accepted at isAccepted
          rw [accepted] at isAccepted
          rcases List.mem_append.mp isAccepted with wasAccepted | isNew
          · exact wasAccepted
          · exact absurd (List.mem_singleton.mp isNew).symm isId
        · rw [sameCompleted]
          exact fun isCompleted => isCompleted
        · change progress.connection.mailboxes.lookup id = before.connection.mailbox? id
          rw [mailboxes]
          cases sink with
          | mailbox schema =>
              rw [openMailbox, List.lookup_cons, beq_false_of_ne (Ne.symm isId)]
              rfl
          | callback react =>
              rfl

/-- An outcome comes to the mailbox of its own request. -/
theorem of_delivered [Wire ω]
    {promise : Promise app} {outcome : Except Failure Bytes} {rest : List (Job app)}
    (agenda : before.agenda = .deliver promise outcome :: rest)
    (running : (before.connection.honour promise outcome).connection.running =
      before.connection.running) :
    Slot id before
      (before.absorb rest ((Job.deliver promise outcome).step before.now before.connection)) [] := by
  have outcomes := outcomes_honour promise outcome before.connection
  have mailbox := mailbox?_honour promise outcome before.connection id
  have accepted : before.accepted ++ (before.connection.honour promise outcome).accepted =
      before.accepted := by
    rw [accepted_honour, List.append_nil]
  by_cases isId : id = promise.id
  · subst isId
    refine .delivered promise.sink outcome rest agenda running accepted ?_
      (mailbox.trans (if_pos rfl))
    change _ ∈ (before.connection.honour promise outcome).connection.outcomes
    rw [outcomes]
    exact List.mem_append_right _ List.mem_cons_self
  · refine .still ⟨running, ?_, ?_⟩ (mailbox.trans (if_neg isId))
    · intro isAccepted
      rw [← accepted]
      exact isAccepted
    · intro isCompleted
      change id ∈ (before.connection.honour promise outcome).connection.outcomes.map (·.1)
        at isCompleted
      rw [outcomes, List.map_append, List.mem_append] at isCompleted
      exact isCompleted.resolve_right fun isOther => isId (List.mem_singleton.mp isOther)

theorem of_worked [Wire ω]
    (distinct : before.connection.pending.Distinct) {job : Job app} {rest : List (Job app)}
    (agenda : before.agenda = job :: rest) :
    Slot id before (before.absorb rest (job.step before.now before.connection)) [] := by
  have move := job.move before.now before.connection distinct
  -- The end of the worker and the delivery touch mailboxes, all other jobs may put one up.
  by_cases isHalt : job = .halt
  · subst isHalt
    have lost := sends_halt before.connection
    refine .halted rest agenda rfl rfl (List.append_nil _) lost.grows.running
      (congrArg (List.map Prod.fst) lost.outcomes) ?_
    exact mailbox?_foldl_lose before.connection.inbox _ id
  have running := (move.grows isHalt).running
  have outcomes := move.outcomes
  by_cases isDelivery : ∃ promise outcome, job = .deliver promise outcome
  · obtain ⟨promise, outcome, rfl⟩ := isDelivery
    exact .of_delivered agenda running
  · have noDelivery : ∀ promise outcome, job ≠ .deliver promise outcome :=
      fun promise outcome isDeliver => isDelivery ⟨promise, outcome, isDeliver⟩
    have noOutcome : outcomesIn (job.step before.now before.connection).deeds = [] := by
      refine List.eq_nil_iff_forall_not_mem.mpr fun given isGiven => ?_
      obtain ⟨promise, isDeliver, -⟩ := move.delivers isGiven
      exact noDelivery promise given.2 isDeliver
    rw [noOutcome, List.append_nil] at outcomes
    exact .of_posted before.flying (job.posted before.now before.connection noDelivery isHalt)
      running outcomes

/-- A look of an owner empties the mailbox on which it is, and reports what it finds. -/
theorem of_takeOutcome [Wire ω] (other : MessageId) :
    Slot id before (before.next (.act (.takeOutcome other)))
      (before.told id (.act (.takeOutcome other))) := by
  have sends := sends_takeOutcome other before.connection
  have mailbox := mailbox?_takeOutcome other before.connection id
  have calm : Calm id before (before.next (.act (.takeOutcome other))) :=
    .of_eq sends.grows.running (List.append_nil _) (congrArg (List.map Prod.fst) sends.outcomes)
  by_cases isId : other = id
  · subst isId
    rw [if_pos rfl] at mailbox
    rw [Machine.told, if_pos rfl]
    cases up : before.connection.mailbox? other with
    | none =>
        rw [Machine.look, up]
        rw [up] at mailbox
        exact .still calm (mailbox.trans up.symm)
    | some content =>
        rw [Machine.look_eq_found up]
        rw [up] at mailbox
        exact .looked content calm up mailbox
  · rw [Machine.told, if_neg isId]
    exact .still calm (mailbox.trans (if_neg (Ne.symm isId)))

theorem of_dropMailbox [Wire ω] (other : MessageId) :
    Slot id before (before.next (.act (.dropMailbox other))) [] := by
  have mailbox := mailbox?_dropMailbox other before.connection id
  have calm : Calm id before (before.next (.act (.dropMailbox other))) :=
    .of_eq rfl (List.append_nil _) rfl
  by_cases isId : id = other
  · exact .dropped calm (mailbox.trans (if_pos isId))
  · exact .still calm (mailbox.trans (if_neg isId))

/-- The owners of handles look and give up; whatever else is called may put a mailbox up. -/
theorem of_act [Wire ω] (act : Act app ω) :
    Slot id before (before.next (.act act)) (before.told id (.act act)) := by
  by_cases isLook : ∃ other, act = .takeOutcome other
  · obtain ⟨other, rfl⟩ := isLook
    exact .of_takeOutcome other
  by_cases isDrop : ∃ other, act = .dropMailbox other
  · obtain ⟨other, rfl⟩ := isDrop
    exact .of_dropMailbox other
  have noLook : ∀ other, act ≠ .takeOutcome other := fun other isTake => isLook ⟨other, isTake⟩
  have noDrop : ∀ other, act ≠ .dropMailbox other := fun other isDropped =>
    isDrop ⟨other, isDropped⟩
  have nothing : before.told id (.act act) = [] := by
    cases act with
    | takeOutcome other =>
        exact absurd rfl (noLook other)
    | _ =>
        rfl
  rw [nothing]
  have sends := sends_apply act before.connection
  exact .of_posted before.flying (act.posted before.connection noLook noDrop)
    sends.grows.running sends.outcomes

end Slot

theorem Machine.slot [Wire ω]
    (machine : Machine app ω) (choice : Choice app ω) (id : MessageId)
    (distinct : machine.connection.pending.Distinct) :
    Slot id machine (machine.next choice) (machine.told id choice) := by
  cases choice with
  | take | wake =>
      rw [next]
      split
      · exact .still (.of_eq rfl rfl rfl) rfl
      · exact .refl machine
  | work =>
      rw [next]
      split
      · rename_i job rest agenda
        exact .of_worked distinct agenda
      · exact .refl machine
  | reorder hooks =>
      rw [next]
      split
      · split
        · exact .still (.of_eq rfl rfl rfl) rfl
        · exact .refl machine
      · exact .refl machine
  | pass instant =>
      exact .still (.of_eq rfl rfl rfl) rfl
  | act act =>
      exact .of_act act
  | trigger token =>
      exact .of_posted _ (.unchanged rfl rfl) rfl rfl
  | fire hook =>
      rw [next]
      split
      · have sends := sends_setOff machine.connection hook
        exact .of_posted _ (.unchanged rfl (mailboxes_setOff machine.connection hook))
          sends.grows.running sends.outcomes
      · exact .refl machine

/-! ## The end of the worker -/

namespace Posting

variable [Wire ω] {before : Connection app ω} {progress : Progress app ω} {job : Job app}

/-- Behind the end of the worker nothing comes but the look at the deadlines. -/
abbrev Closes (ahead behind : Job app) : Prop :=
  ahead = .halt → behind = .sweep

/-- The end of the worker is the last of the jobs with which it comes. -/
theorem closes_jobs (posting : Posting before progress job) : progress.jobs.Pairwise Closes := by
  have unhalted {jobs : List (Job app)} (noHalt : .halt ∉ jobs) : jobs.Pairwise Closes :=
    List.pairwise_of_forall_mem_list fun ahead isAhead _ _ isHalt =>
      absurd (isHalt ▸ isAhead) noHalt
  cases posting with
  | idle isIdle jobs books | honoured jobs books | announced jobs books =>
      exact unhalted fun isHalt => Bool.false_ne_true (jobs _ isHalt)
  | @drained command failure count fells jobs counted books =>
      rw [jobs, List.pairwise_append]
      refine ⟨unhalted (by simp), ?_, ?_⟩
      · unfold Command.closing
        split <;> simp
      · rintro ahead isFinish behind - rfl
        simp at isFinish
  | _ =>
      rename_i jobs books
      exact unhalted (by simp [jobs])

end Posting

theorem closes_of_reachable [Wire ω]
    {machine : Machine app ω} (reachable : machine.Reachable) :
    machine.agenda.Pairwise Posting.Closes := by
  refine reachable.booked_induction
    (fun reached => reached.agenda.Pairwise Posting.Closes) (fun _ _ _ => .nil) ?_
  intro before choice after orderly booked held
  cases booked with
  | taken =>
      simp
  | woken =>
      exact List.pairwise_singleton _ _
  | @worked job rest agenda =>
      have posting := job.posting before.now before.connection
      rw [agenda, List.pairwise_cons] at held
      refine List.pairwise_append.mpr ⟨posting.closes_jobs, held.2, ?_⟩
      rintro ahead isAhead behind isBehind rfl
      obtain ⟨command, rfl⟩ := posting.mayBring isAhead
      rw [(orderly.alone agenda).1] at isBehind
      exact List.mem_singleton.mp isBehind
  | @reordered listed hooks rest agenda =>
      rw [agenda, List.pairwise_cons] at held
      refine List.pairwise_cons.mpr ⟨?_, held.2⟩
      intro behind isBehind isHalt
      contradiction
  | called isRunning sameAgenda | beside unworked silent sameAgenda =>
      exact sameAgenda ▸ held

/-! ## How things stand with a handle -/

/-- A mailbox from which no outcome will come any more. -/
def Machine.Spent (id : MessageId) (machine : Machine app ω) : Prop :=
  machine.connection.mailbox? id = none ∨ machine.connection.mailbox? id = some .exhausted

/-- How things stand with the handle on a request that was accepted, by what it has reported. -/
inductive Hearing (machine : Machine app ω) (id : MessageId) (schema : Schema) :
    List (Except Failure Value) → Prop where
  | waiting
      (up : machine.connection.mailbox? id = some .waiting)
      (isRunning : machine.connection.running = true)
      (isOpen : id ∉ machine.completed) :
      Hearing machine id schema []
  | holding (outcome : Except Failure Bytes)
      (up : machine.connection.mailbox? id = some (.holding (decodeOutcome schema outcome)))
      (isOutcome : (id, outcome) ∈ machine.connection.outcomes) :
      Hearing machine id schema []
  /-- It was given up before it has reported anything. -/
  | unheard
      (down : machine.connection.mailbox? id = none) :
      Hearing machine id schema []
  /-- It has reported the outcome. -/
  | heard (outcome : Except Failure Bytes) (later : List (Except Failure Value))
      (spent : machine.Spent id)
      (isOutcome : (id, outcome) ∈ machine.connection.outcomes)
      (closed : ∀ report ∈ later, report = .error .closed) :
      Hearing machine id schema (decodeOutcome schema outcome :: later)
  /-- The worker has stopped and will not come to the request. -/
  | lost (reports : List (Except Failure Value))
      (spent : machine.Spent id)
      (stopped : machine.connection.running = false)
      (untaken : id ∉ (promisesIn machine.taken).map (·.id))
      (closed : ∀ report ∈ reports, report = .error .closed) :
      Hearing machine id schema reports

/-- Once the worker has stopped, it takes nothing more. -/
theorem Stroke.stopped [Wire ω]
    {before after : Machine app ω} (stroke : Stroke before after)
    (distinct : before.connection.pending.Distinct)
    (stopped : before.connection.running = false) :
    after.connection.running = false ∧ after.taken = before.taken := by
  cases stroke with
  | taken agenda isRunning | woken agenda isRunning =>
      exact Bool.noConfusion (stopped.symm.trans isRunning)
  | @worked job rest agenda =>
      refine ⟨?_, rfl⟩
      by_cases isHalt : job = .halt
      · subst isHalt
        exact (sends_halt before.connection).grows.running
      · have move := job.move before.now before.connection distinct
        exact (move.grows isHalt).running.trans stopped
  | reordered agenda | still now =>
      exact ⟨stopped, rfl⟩
  | sent flying sends =>
      exact ⟨sends.grows.running.trans stopped, rfl⟩

/-- A promise whose identifier was given out earlier was entered earlier. -/
theorem Ledger.entered_of_accepted
    {before after : Machine app ω} (ledgerBefore : Ledger before) (ledger : Ledger after)
    (bound : after.accepted.length ≤ 2 ^ 64) (grown : before.entered <+: after.entered)
    {promise : Promise app} (isPromise : promise ∈ promisesIn after.entered)
    (isAccepted : promise.id ∈ before.accepted) : promise ∈ promisesIn before.entered := by
  obtain ⟨newly, isMore⟩ := grown
  have distinct := ledger.nodup_accepted bound
  rw [← isMore, promisesIn_append] at isPromise
  rw [← ledger.ids, ← isMore, promisesIn_append, List.map_append] at distinct
  rw [← ledgerBefore.ids] at isAccepted
  refine (List.mem_append.mp isPromise).resolve_right fun isNew => ?_
  exact List.disjoint_of_nodup_append distinct isAccepted (List.mem_map_of_mem isNew)

theorem Ledger.taken_of_completed
    {machine : Machine app ω} (ledger : Ledger machine) {id : MessageId}
    (isCompleted : id ∈ machine.completed) : id ∈ (promisesIn machine.taken).map (·.id) := by
  rw [ledger.completed_eq] at isCompleted
  refine (ledger.balance.map (·.id)).mem_iff.mp ?_
  rw [List.map_append]
  exact List.mem_append_right _ isCompleted

theorem Ledger.accepted_of_completed
    {machine : Machine app ω} (ledger : Ledger machine) {id : MessageId}
    (isCompleted : id ∈ machine.completed) : id ∈ machine.accepted := by
  obtain ⟨waiting, entered, -⟩ := ledger.inbox
  rw [← ledger.ids, entered, promisesIn_append, List.map_append]
  exact List.mem_append_left _ (ledger.taken_of_completed isCompleted)

namespace Hearing

variable {before after : Machine app ω} {id : MessageId} {schema : Schema}
  {new : List (Except Failure Value)}

/-- A mailbox that is down stays down unless the request is accepted. -/
private theorem down_next
    (slot : Slot id before after new) (unopened : after.accepted ≠ before.accepted ++ [id])
    (down : before.connection.mailbox? id = none) :
    after.connection.mailbox? id = none ∧ new = [] := by
  cases slot with
  | still calm mailbox =>
      exact ⟨mailbox.trans down, rfl⟩
  | opened message options sink isId isRunning accepted =>
      exact absurd accepted unopened
  | delivered sink outcome rest agenda running accepted isOutcome mailbox =>
      rw [down] at mailbox
      exact ⟨mailbox, rfl⟩
  | looked mailbox calm up emptied =>
      rw [down] at up
      contradiction
  | dropped calm gone =>
      exact ⟨gone, rfl⟩
  | halted rest agenda later taken accepted stopped completed mailbox =>
      rw [down, Option.map_none, ite_self] at mailbox
      exact ⟨mailbox, rfl⟩

/-- Only the outcome of a request, and its loss, come between a mailbox and its being spent. -/
private theorem spent_next
    (slot : Slot id before after new) (unopened : after.accepted ≠ before.accepted ++ [id])
    (spent : before.Spent id) :
    after.Spent id ∧ ∀ report ∈ new, report = .error .closed := by
  cases slot with
  | still calm mailbox =>
      refine ⟨?_, by simp⟩
      rw [Machine.Spent, mailbox]
      exact spent
  | opened message options sink isId isRunning accepted =>
      exact absurd accepted unopened
  | delivered sink outcome rest agenda running accepted isOutcome mailbox =>
      refine ⟨?_, by simp⟩
      rw [Machine.Spent, mailbox]
      rcases spent with down | exhausted
      · exact .inl (by rw [down]; rfl)
      · right
        rw [exhausted]
        cases sink <;> rfl
  | looked mailbox calm up emptied =>
      have isExhausted : mailbox = .exhausted := by
        rcases spent with down | exhausted
        · rw [down] at up
          contradiction
        · exact Option.some.inj (up.symm.trans exhausted)
      subst isExhausted
      exact ⟨.inr emptied, by simp [Mailbox.found]⟩
  | dropped calm down =>
      exact ⟨.inl down, by simp⟩
  | halted rest agenda later taken accepted stopped completed mailbox =>
      refine ⟨?_, by simp⟩
      rw [Machine.Spent, mailbox]
      rcases spent with down | exhausted
      · exact .inl (by rw [down]; split <;> rfl)
      · exact .inr (by rw [exhausted]; split <;> rfl)

private theorem sink_eq
    (sound : Sound before) (bound : before.accepted.length ≤ 2 ^ 64)
    {sink : Sink app} {outcome : Except Failure Bytes} {rest : List (Job app)}
    (agenda : before.agenda = .deliver ⟨id, sink⟩ outcome :: rest)
    (isPromise : ⟨id, .mailbox schema⟩ ∈ promisesIn before.entered) : sink = .mailbox schema := by
  have ledger := sound.tracked.ledger
  obtain ⟨waiting, entered, -⟩ := ledger.inbox
  have isOwed : (⟨id, sink⟩ : Promise app) ∈ promisesIn before.taken := by
    refine ledger.balance.mem_iff.mp ?_
    rw [agenda]
    exact List.mem_append_left _ (List.mem_append_left _ List.mem_cons_self)
  have isEntered : (⟨id, sink⟩ : Promise app) ∈ promisesIn before.entered := by
    rw [entered, promisesIn_append]
    exact List.mem_append_left _ isOwed
  have distinct := ledger.nodup_accepted bound
  rw [← ledger.ids] at distinct
  exact congrArg Promise.sink (List.inj_on_of_nodup_map distinct isEntered isPromise rfl)

private theorem mem_queued_of_mailsTo
    (mails : before.connection.inbox.any (·.mailsTo id) = true) : id ∈ before.queued := by
  obtain ⟨command, isCommand, isId⟩ := List.any_eq_true.mp mails
  cases command with
  | request message options sink =>
      cases sink with
      | mailbox schema =>
          have same : message.id = id := of_decide_eq_true isId
          have made : (⟨message.id, .mailbox schema⟩ : Promise app) ∈
              promisesIn before.connection.inbox :=
            List.mem_filterMap.mpr ⟨_, isCommand, rfl⟩
          exact same ▸ List.mem_map_of_mem made
      | callback react =>
          exact Bool.noConfusion isId
  | _ =>
      exact Bool.noConfusion isId

/-- A request without an outcome, when the worker leaves its loop, is in the inbox. -/
private theorem lost_of_open
    (sound : Sound before) (soundAfter : Sound after) (behind : before.agenda.Pairwise Posting.Closes)
    {rest : List (Job app)} (agenda : before.agenda = .halt :: rest) (agendaAfter : after.agenda = rest)
    (sameTaken : after.taken = before.taken)
    (isRunning : before.connection.running = true) (stopped : after.connection.running = false)
    (isOpen : id ∉ after.completed)
    (isPromise : ⟨id, .mailbox schema⟩ ∈ promisesIn before.entered) :
    id ∉ (promisesIn after.taken).map (·.id) ∧
      before.connection.inbox.any (·.mailsTo id) = true := by
  have untaken : id ∉ (promisesIn after.taken).map (·.id) := by
    have ledger := soundAfter.tracked.ledger
    -- Only the look at the deadlines comes behind, and that owes nobody an outcome.
    have nothingOwed : promisesOf after.agenda = [] := by
      rw [agenda, List.pairwise_cons] at behind
      rw [agendaAfter]
      refine List.flatMap_eq_nil_iff.mpr fun job isLater => ?_
      rw [behind.1 job isLater rfl]
      rfl
    intro isTaken
    have isKept := (ledger.balance.map (·.id)).mem_iff.mpr isTaken
    rw [nothingOwed, (soundAfter.stopped stopped).1] at isKept
    rw [ledger.completed_eq] at isOpen
    exact isOpen isKept
  refine ⟨untaken, ?_⟩
  obtain ⟨waiting, entered, inbox⟩ := sound.tracked.ledger.inbox
  rw [if_pos isRunning] at inbox
  rw [entered, promisesIn_append, ← sameTaken] at isPromise
  have isWaiting := (List.mem_append.mp isPromise).resolve_left fun isTaken =>
    untaken (List.mem_map_of_mem isTaken)
  obtain ⟨command, isCommand, made⟩ := List.mem_filterMap.mp isWaiting
  rw [inbox]
  refine List.any_eq_true.mpr ⟨command, isCommand, ?_⟩
  cases command with
  | request message options sink =>
      obtain ⟨rfl, rfl⟩ := Promise.mk.inj (Option.some.inj made)
      exact decide_eq_true rfl
  | _ =>
      contradiction

private theorem waiting_next
    (slot : Slot id before after new) (unopened : after.accepted ≠ before.accepted ++ [id])
    (sound : Sound before) (soundAfter : Sound after) (bound : before.accepted.length ≤ 2 ^ 64)
    (behind : before.agenda.Pairwise Posting.Closes)
    (isPromise : ⟨id, .mailbox schema⟩ ∈ promisesIn before.entered)
    (up : before.connection.mailbox? id = some .waiting)
    (isRunning : before.connection.running = true) (isOpen : id ∉ before.completed) :
    Hearing after id schema new := by
  cases slot with
  | still calm mailbox =>
      exact .waiting (mailbox.trans up) (calm.running.trans isRunning)
        fun isCompleted => isOpen (calm.completed isCompleted)
  | opened message options sink isId goesOn accepted =>
      exact absurd accepted unopened
  | delivered sink outcome rest agenda running accepted isOutcome mailbox =>
      have isSink := sink_eq sound bound agenda isPromise
      subst isSink
      rw [up] at mailbox
      exact .holding outcome mailbox isOutcome
  | looked mailbox calm isUp emptied =>
      have isWaiting : mailbox = .waiting := Option.some.inj (isUp.symm.trans up)
      subst isWaiting
      exact .waiting emptied (calm.running.trans isRunning)
        fun isCompleted => isOpen (calm.completed isCompleted)
  | dropped calm down =>
      exact .unheard down
  | halted rest agenda later taken accepted stopped completed mailbox =>
      obtain ⟨untaken, isLost⟩ := lost_of_open sound soundAfter behind
        agenda later taken isRunning stopped (completed ▸ isOpen) isPromise
      rw [if_pos isLost, up] at mailbox
      exact .lost [] (.inr mailbox) stopped untaken (by simp)

private theorem holding_next
    (slot : Slot id before after new) (unopened : after.accepted ≠ before.accepted ++ [id])
    (sound : Sound before) (bound : before.accepted.length ≤ 2 ^ 64)
    (isPromise : ⟨id, .mailbox schema⟩ ∈ promisesIn before.entered)
    {outcome : Except Failure Bytes}
    (up : before.connection.mailbox? id = some (.holding (decodeOutcome schema outcome)))
    (isOutcome : (id, outcome) ∈ before.connection.outcomes)
    (remains : (id, outcome) ∈ after.connection.outcomes) :
    Hearing after id schema new := by
  cases slot with
  | still calm mailbox =>
      exact .holding outcome (mailbox.trans up) remains
  | opened message options sink isId goesOn accepted =>
      exact absurd accepted unopened
  | delivered sink other rest agenda running accepted isOther mailbox =>
      have isSink := sink_eq sound bound agenda isPromise
      subst isSink
      rw [up] at mailbox
      exact .holding outcome mailbox remains
  | looked mailbox calm isUp emptied =>
      have isHolding := Option.some.inj (isUp.symm.trans up)
      subst isHolding
      exact .heard outcome [] (.inr emptied) remains (by simp)
  | dropped calm down =>
      exact .unheard down
  | halted rest agenda later taken accepted stopped completed mailbox =>
      -- What has an outcome does not wait in the inbox, so that its mailbox is spared.
      have notLost : ¬ before.connection.inbox.any (·.mailsTo id) = true := by
        intro isLost
        have apart := List.disjoint_of_nodup_append
          (sound.tracked.ledger.nodup_everywhere bound)
        exact apart (List.mem_append_left _ (mem_queued_of_mailsTo isLost))
          (List.mem_map_of_mem isOutcome)
      rw [if_neg notLost] at mailbox
      exact .holding outcome (mailbox.trans up) remains

/-- What the handle reports is added, and it is known again how things stand. -/
theorem next [Wire ω]
    {choice : Choice app ω} {reports : List (Except Failure Value)}
    (hearing : Hearing before id schema reports) (reachable : before.Reachable)
    (bound : (before.next choice).accepted.length ≤ 2 ^ 64)
    (isPromise : ⟨id, .mailbox schema⟩ ∈ promisesIn before.entered) :
    Hearing (before.next choice) id schema (reports ++ before.told id choice) := by
  have stroke := before.stroke choice
  have boundBefore := stroke.bound bound
  have sound := reachable.sound boundBefore
  have soundAfter : Sound (before.next choice) :=
    Machine.Reachable.sound (reachable.run [choice]) bound
  have slot := before.slot choice id (sound.tracked.ledger.distinct boundBefore)
  have remains {outcome : Except Failure Bytes}
      (isOutcome : (id, outcome) ∈ before.connection.outcomes) :
      (id, outcome) ∈ (before.next choice).connection.outcomes := by
    obtain ⟨deeds, isMore⟩ := stroke.history_prefix
    rw [sound.tracked.ledger.outcomes] at isOutcome
    rw [soundAfter.tracked.ledger.outcomes, ← isMore, outcomesIn, List.filterMap_append]
    exact List.mem_append_left _ isOutcome
  -- An identifier is given out once, so that no later request takes over the mailbox.
  have unopened : (before.next choice).accepted ≠ before.accepted ++ [id] := by
    intro accepted
    have distinct := soundAfter.tracked.ledger.nodup_accepted bound
    have isAccepted : id ∈ before.accepted := by
      rw [← sound.tracked.ledger.ids]
      exact List.mem_map_of_mem isPromise
    rw [accepted] at distinct
    exact List.disjoint_of_nodup_append distinct isAccepted (List.mem_singleton_self id)
  cases hearing with
  | waiting up isRunning isOpen =>
      exact waiting_next slot unopened sound soundAfter boundBefore (closes_of_reachable reachable)
        isPromise up isRunning isOpen
  | holding outcome up isOutcome =>
      exact holding_next slot unopened sound boundBefore isPromise up isOutcome (remains isOutcome)
  | unheard down =>
      obtain ⟨staysDown, nothing⟩ := down_next slot unopened down
      rw [nothing]
      exact .unheard staysDown
  | heard outcome later spent isOutcome closed =>
      obtain ⟨spentAfter, isClosed⟩ := spent_next slot unopened spent
      refine .heard outcome (later ++ before.told id choice) spentAfter (remains isOutcome) ?_
      intro report isReport
      exact (List.mem_append.mp isReport).elim (closed report) (isClosed report)
  | lost reports spent stopped untaken closed =>
      obtain ⟨spentAfter, isClosed⟩ := spent_next slot unopened spent
      obtain ⟨staysStopped, sameTaken⟩ :=
        stroke.stopped (sound.tracked.ledger.distinct boundBefore) stopped
      refine .lost _ spentAfter staysStopped (sameTaken ▸ untaken) ?_
      intro report isReport
      exact (List.mem_append.mp isReport).elim (closed report) (isClosed report)

end Hearing

/-- What is known of a handle, when the request may not be accepted yet. -/
structure Handled (id : MessageId) (machine : Machine app ω)
    (reports : List (Except Failure Value)) : Prop where
  unknown : id ∉ machine.accepted → machine.connection.mailbox? id = none ∧ reports = []
  hearing : ∀ schema, ⟨id, .mailbox schema⟩ ∈ promisesIn machine.entered →
    Hearing machine id schema reports

theorem Handled.next [Wire ω]
    {machine : Machine app ω} {id : MessageId} {reports : List (Except Failure Value)}
    (handled : Handled id machine reports) (reachable : machine.Reachable) (choice : Choice app ω)
    (bound : (machine.next choice).accepted.length ≤ 2 ^ 64) :
    Handled id (machine.next choice) (reports ++ machine.told id choice) := by
  have stroke := machine.stroke choice
  have boundBefore := stroke.bound bound
  have ledger := (reachable.sound boundBefore).tracked.ledger
  have ledgerAfter : Ledger (machine.next choice) :=
    Ledger.of_reachable (reachable.run [choice]) bound
  have slot := machine.slot choice id (ledger.distinct boundBefore)
  refine ⟨?_, ?_⟩
  · intro isUnknown
    have wasUnknown : id ∉ machine.accepted := fun wasAccepted =>
      isUnknown (stroke.accepted_prefix.subset wasAccepted)
    obtain ⟨down, rfl⟩ := handled.unknown wasUnknown
    refine Hearing.down_next slot (fun accepted => ?_) down
    rw [accepted] at isUnknown
    exact isUnknown (List.mem_append_right _ List.mem_cons_self)
  · intro schema isPromise
    by_cases wasAccepted : id ∈ machine.accepted
    · have wasPromised := ledger.entered_of_accepted ledgerAfter bound stroke.entered_prefix
        isPromise wasAccepted
      exact (handled.hearing schema wasPromised).next reachable bound wasPromised
    · obtain ⟨-, rfl⟩ := handled.unknown wasAccepted
      have isAccepted : id ∈ (machine.next choice).accepted := by
        rw [← ledgerAfter.ids]
        exact List.mem_map_of_mem isPromise
      generalize machine.next choice = after at *
      generalize machine.told id choice = new at slot
      cases slot with
      | opened message options sink isId isRunning accepted entered completed mailbox =>
          have notBefore : (⟨id, .mailbox schema⟩ : Promise app) ∉ promisesIn machine.entered := by
            intro wasPromised
            rw [← ledger.ids] at wasAccepted
            exact wasAccepted (List.mem_map_of_mem wasPromised)
          rw [entered, promisesIn_append] at isPromise
          have made := (List.mem_append.mp isPromise).resolve_left notBefore
          rw [promisesIn_singleton] at made
          have isSink : sink = .mailbox schema :=
            (congrArg Promise.sink (List.mem_singleton.mp made)).symm
          refine .waiting (mailbox schema isSink) isRunning ?_
          rw [completed]
          exact fun isCompleted => wasAccepted (ledger.accepted_of_completed isCompleted)
      | still calm | looked mailbox calm | dropped calm =>
          exact absurd (calm.accepted isAccepted) wasAccepted
      | delivered sink outcome rest agenda running accepted =>
          exact absurd (accepted ▸ isAccepted) wasAccepted
      | halted rest agenda later taken accepted =>
          exact absurd (accepted ▸ isAccepted) wasAccepted

theorem Handled.run [Wire ω]
    {wire : ω} {memory : app.Memory} {limit : Option Duration} {start : Machine app ω}
    (isFresh : start = .start wire memory limit) (id : MessageId)
    {schedule : List (Choice app ω)} (bound : (start.run schedule).accepted.length ≤ 2 ^ 64) :
    Handled id (start.run schedule) (start.tellings id schedule) := by
  induction schedule using List.reverseRecOn with
  | nil =>
      rw [isFresh]
      exact ⟨fun _ => ⟨rfl, rfl⟩, fun _ isPromise => absurd isPromise List.not_mem_nil⟩
  | append_singleton schedule choice inductionHypothesis =>
      rw [Machine.run_append] at bound ⊢
      have reachable : (start.run schedule).Reachable :=
        ⟨wire, memory, limit, schedule, congrArg (·.run schedule) isFresh⟩
      have stroke := (start.run schedule).stroke choice
      have boundBefore := stroke.bound bound
      have handled := (inductionHypothesis boundBefore).next reachable choice bound
      rw [Machine.tellings_append]
      change Handled id _ (_ ++ (_ ++ []))
      rw [List.append_nil]
      exact handled

/-! ## Calls of the owner -/

/-- What happens next, where the owner of a handle may be waiting at it. -/
inductive Moment (app : Application) (ω : Type) where
  /-- Anything else, a single look of the owner (`Act.takeOutcome`) among it. -/
  | choice (choice : Choice app ω)
  /-- The owner, who waits until the outcome is there, looks for it. -/
  | wait
  /-- The owner, who waits for so long at the most, looks for it. The time is up, or is not. -/
  | waitFor (limit : Duration) (isUp : Bool)

/-- What a call of the owner returns. -/
inductive Returned where
  /-- What the handle reports. -/
  | report (outcome : Except Failure Value)
  /-- The time of the call was up. -/
  | late (limit : Duration)

/-- What the handle has reported to a call. -/
def Returned.report? : Returned → Option (Except Failure Value)
  | .report outcome => some outcome
  | .late _ => none

namespace Machine

/-- What is done at a moment. A call that waits ends with a report, and the handle with it; when the
time is up, it ends by a cancellation. -/
def moves (id : MessageId) (machine : Machine app ω) : Moment app ω → List (Choice app ω)
  | .choice choice => [choice]
  | .wait =>
    match machine.look id with
    | some _ => [.act (.takeOutcome id), .act (.dropMailbox id)]
    | none => []
  | .waitFor _ isUp =>
    match machine.look id with
    | some _ => [.act (.takeOutcome id), .act (.dropMailbox id)]
    | none => if isUp then [.act (.order (.cancel id)), .act (.dropMailbox id)] else []

/-- What the owner's call hands back at a moment, if it does. -/
def handsBack (id : MessageId) (machine : Machine app ω) : Moment app ω → List Returned
  | .choice choice => (machine.told id choice).map .report
  | .wait => (machine.look id).toList.map .report
  | .waitFor limit isUp =>
    match machine.look id with
    | some outcome => [.report outcome]
    | none => if isUp && (machine.connection.mailbox? id).isSome then [.late limit] else []

def attended [Wire ω] (id : MessageId) :
    Machine app ω → List (Moment app ω) → List (Choice app ω)
  | _, [] => []
  | machine, moment :: rest =>
    machine.moves id moment ++ attended id (machine.run (machine.moves id moment)) rest

/-- What the owner's calls return, one after another. -/
def returned [Wire ω] (id : MessageId) :
    Machine app ω → List (Moment app ω) → List Returned
  | _, [] => []
  | machine, moment :: rest =>
    machine.handsBack id moment ++ returned id (machine.run (machine.moves id moment)) rest

theorem reports_handsBack [Wire ω]
    (id : MessageId) (machine : Machine app ω) (moment : Moment app ω) :
    (machine.handsBack id moment).filterMap Returned.report? =
      machine.tellings id (machine.moves id moment) := by
  have all (reports : List (Except Failure Value)) :
      (reports.map Returned.report).filterMap Returned.report? = reports := by
    rw [List.filterMap_map]
    exact List.filterMap_some
  have last : machine.tellings id [.act (.takeOutcome id), .act (.dropMailbox id)] =
      (machine.look id).toList := by
    rw [tellings, told, if_pos rfl]
    exact List.append_nil _
  cases moment with
  | choice choice =>
      rw [handsBack, all, moves, tellings, tellings, List.append_nil]
  | wait =>
      cases found : machine.look id with
      | some outcome =>
          simp only [handsBack, moves, found, all, last]
      | none =>
          simp only [handsBack, moves, found, all]
          rfl
  | waitFor limit isUp =>
      cases found : machine.look id with
      | some outcome =>
          simp only [handsBack, moves, found, last]
          rfl
      | none =>
          simp only [handsBack, moves, found]
          split <;> cases isUp <;> rfl

theorem reports_returned [Wire ω]
    (id : MessageId) (machine : Machine app ω) (moments : List (Moment app ω)) :
    (machine.returned id moments).filterMap Returned.report? =
      machine.tellings id (machine.attended id moments) := by
  induction moments generalizing machine with
  | nil =>
      rfl
  | cons moment rest inductionHypothesis =>
      rw [returned, attended, List.filterMap_append, reports_handsBack, inductionHypothesis,
        tellings_append]

end Machine

/-- Whatever the owner of a handle calls, and in whatever order: the first report is the outcome that
the request came to, of which there is one at the most, or says that the connection is closed, and
then the worker has stopped without an outcome for the request. What the next look finds is known,
too: nothing as long as the worker goes on and the request has no outcome, then the outcome, if there
is one. But a handle that has reported keeps nothing of it. It says from then on that the connection
is closed, also while the worker goes on and the request was answered. -/
theorem first_report_is_the_outcome [Wire ω]
    {wire : ω} {memory : app.Memory} {limit : Option Duration} {moments : List (Moment app ω)}
    {id : MessageId} {schema : Schema} {start machine : Machine app ω}
    {reports : List (Except Failure Value)}
    (isFresh : start = .start wire memory limit)
    (ran : machine = start.run (start.attended id moments))
    (reported : reports = (start.returned id moments).filterMap Returned.report?)
    (bound : machine.accepted.length ≤ 2 ^ 64)
    (isPromised : ⟨id, .mailbox schema⟩ ∈ promisesIn machine.entered) :
    machine.completed.count id ≤ 1 ∧
    (reports = [] ∨
      (∃ outcome later, (id, outcome) ∈ machine.connection.outcomes ∧
        reports = decodeOutcome schema outcome :: later ∧
        ∀ report ∈ later, report = .error .closed) ∨
      machine.connection.running = false ∧ id ∉ machine.completed ∧
        ∀ report ∈ reports, report = .error .closed) ∧
    ((machine.connection.mailbox? id).isSome →
      if reports = [] then
        (machine.look id = none ↔ machine.connection.running = true ∧ id ∉ machine.completed) ∧
        (∀ outcome, (id, outcome) ∈ machine.connection.outcomes →
          machine.look id = some (decodeOutcome schema outcome)) ∧
        (machine.connection.running = false → id ∉ machine.completed →
          machine.look id = some (.error .closed))
      else machine.look id = some (.error .closed)) := by
  have reachable : machine.Reachable := by
    rw [ran, isFresh]
    exact ⟨wire, memory, limit, _, rfl⟩
  have ledger := Ledger.of_reachable reachable bound
  have once := (ledger.nodup_everywhere bound).of_append_right
  have hearing : Hearing machine id schema reports := by
    have handled := Handled.run isFresh id (ran ▸ bound)
    rw [← ran, ← Machine.reports_returned, ← reported] at handled
    exact handled.hearing schema isPromised
  have lookSpent (spent : machine.Spent id) (isUp : (machine.connection.mailbox? id).isSome) :
      machine.look id = some (.error .closed) := by
    rcases spent with down | exhausted
    · rw [down] at isUp
      contradiction
    · exact Machine.look_eq_found exhausted
  refine ⟨List.nodup_iff_count_le_one.mp once id, ?_⟩
  generalize reports = told at hearing ⊢
  cases hearing with
  | waiting up isRunning isOpen =>
      refine ⟨.inl rfl, fun _ => ?_⟩
      rw [if_pos rfl]
      refine ⟨iff_of_true (Machine.look_eq_found up) ⟨isRunning, isOpen⟩, ?_, ?_⟩
      · intro outcome isOutcome
        exact absurd (List.mem_map_of_mem isOutcome) isOpen
      · intro stopped
        exact Bool.noConfusion (stopped.symm.trans isRunning)
  | holding outcome up isOutcome =>
      have isCompleted : id ∈ machine.completed := List.mem_map_of_mem isOutcome
      have found := Machine.look_eq_found up
      refine ⟨.inl rfl, fun _ => ?_⟩
      rw [if_pos rfl]
      refine ⟨iff_of_false ?_ fun held => held.2 isCompleted, ?_, ?_⟩
      · rw [found]
        exact Option.some_ne_none _
      · intro other isOther
        have sameOutcome := List.inj_on_of_nodup_map once isOther isOutcome rfl
        rw [found, (Prod.mk.inj sameOutcome).2]
        rfl
      · intro _ isOpen
        exact absurd isCompleted isOpen
  | unheard down =>
      refine ⟨.inl rfl, fun isUp => ?_⟩
      rw [down] at isUp
      contradiction
  | heard outcome later spent isOutcome closed =>
      refine ⟨.inr (.inl ⟨outcome, later, isOutcome, rfl, closed⟩), fun isUp => ?_⟩
      rw [if_neg (List.cons_ne_nil _ _)]
      exact lookSpent spent isUp
  | lost reports spent stopped untaken closed =>
      have isOpen : id ∉ machine.completed := fun isCompleted =>
        untaken (ledger.taken_of_completed isCompleted)
      refine ⟨.inr (.inr ⟨stopped, isOpen, closed⟩), fun isUp => ?_⟩
      have found := lookSpent spent isUp
      split
      · refine ⟨iff_of_false ?_ ?_, ?_, fun _ _ => found⟩
        · rw [found]
          exact Option.some_ne_none _
        · rintro ⟨isRunning, -⟩
          exact Bool.noConfusion (stopped.symm.trans isRunning)
        · intro outcome isOutcome
          exact absurd (List.mem_map_of_mem isOutcome) isOpen
      · exact found

/-- A request is sent and answered. -/
def askAndAnswer : List (Choice bare (MemoryWire Unit)) :=
  .act (.request "ask" (.ok none) .none (.mailbox .any)) :: .take :: List.replicate 4 .work ++
    .act (.arrive (.chunk (Framing.encodeFrame (responseTo "1")))) ::
      .take :: List.replicate 5 .work

/-- Its owner then looks for the outcome twice. -/
def lookTwice : List (Moment bare (MemoryWire Unit)) :=
  askAndAnswer.map .choice ++ List.replicate 2 (.choice (.act (.takeOutcome (.number 1))))

/-- Whether a handle reports that the connection is closed. -/
def saysClosed : Except Failure Value → Bool
  | .error .closed => true
  | _ => false

theorem saysClosed_iff {report : Except Failure Value} :
    saysClosed report = true ↔ report = .error .closed := by
  refine ⟨fun isClosed => ?_, fun isClosed => isClosed ▸ rfl⟩
  unfold saysClosed at isClosed
  split at isClosed
  · rfl
  · contradiction

private theorem answer_of_any
    {outcomes : List (MessageId × Except Failure Bytes)} {id : MessageId}
    (answered : outcomes.any (fun held => held.1 = id && held.2.toOption.isSome) = true) :
    ∃ payload, (id, .ok payload) ∈ outcomes := by
  obtain ⟨⟨other, outcome⟩, isHeld, isAnswer⟩ := List.any_eq_true.mp answered
  rw [Bool.and_eq_true] at isAnswer
  obtain rfl : other = id := of_decide_eq_true isAnswer.1
  cases outcome with
  | ok payload =>
      exact ⟨payload, isHeld⟩
  | error failure =>
      exact Bool.noConfusion isAnswer.2

/-- The second look says that the connection is closed, which it is not. -/
theorem answered_request_is_reported_closed :
    let start : Machine bare (MemoryWire Unit) := .start .new () none
    let machine := start.run (start.attended (.number 1) lookTwice)
    machine.connection.running = true ∧
      (∃ payload, (.number 1, .ok payload) ∈ machine.connection.outcomes) ∧
      .error .closed ∈ (start.returned (.number 1) lookTwice).filterMap Returned.report? := by
  intro start machine
  have saysSo : ((start.returned (.number 1) lookTwice).filterMap Returned.report?).any
      saysClosed = true := by
    decide +kernel
  obtain ⟨report, isReport, isClosed⟩ := List.any_eq_true.mp saysSo
  rw [saysClosed_iff.mp isClosed] at isReport
  exact ⟨by decide +kernel, answer_of_any (by decide +kernel), isReport⟩

/-- Whether a promise is kept in a mailbox that takes every outcome. -/
def Promise.takesAny (promise : Promise app) : Bool :=
  match promise.sink with
  | .mailbox .any => true
  | _ => false

private theorem promise_of_any
    {promises : List (Promise app)} {id : MessageId}
    (isMade : promises.any (fun promise => promise.id = id && promise.takesAny) = true) :
    ⟨id, .mailbox .any⟩ ∈ promises := by
  obtain ⟨⟨other, sink⟩, isPromise, isWanted⟩ := List.any_eq_true.mp isMade
  rw [Bool.and_eq_true] at isWanted
  obtain rfl : other = id := of_decide_eq_true isWanted.1
  have takes := isWanted.2
  unfold Promise.takesAny at takes
  split at takes
  · rename_i isSink
    rw [← isSink]
    exact isPromise
  · contradiction

theorem answer_is_reported_first :
    ∃ start machine : Machine bare (MemoryWire Unit), ∃ reports,
      start = .start .new () none ∧
      machine = start.run (start.attended (.number 1) lookTwice) ∧
      reports = (start.returned (.number 1) lookTwice).filterMap Returned.report? ∧
      machine.accepted.length ≤ 2 ^ 64 ∧
      ⟨.number 1, .mailbox .any⟩ ∈ promisesIn machine.entered ∧
      ∃ outcome, (.number 1, outcome) ∈ machine.connection.outcomes ∧
        reports = [decodeOutcome .any outcome, .error .closed] := by
  obtain ⟨start, isFresh⟩ : ∃ start : Machine bare (MemoryWire Unit), start = .start .new () none :=
    ⟨_, rfl⟩
  obtain ⟨machine, ran⟩ : ∃ machine, machine = start.run (start.attended (.number 1) lookTwice) :=
    ⟨_, rfl⟩
  obtain ⟨reports, reported⟩ : ∃ reports, reports =
      (start.returned (.number 1) lookTwice).filterMap Returned.report? := ⟨_, rfl⟩
  have bound : machine.accepted.length ≤ 2 ^ 64 := by
    rw [ran, isFresh]
    decide +kernel
  have isPromised : ⟨.number 1, .mailbox .any⟩ ∈ promisesIn machine.entered := by
    apply promise_of_any
    rw [ran, isFresh]
    decide +kernel
  have isRunning : machine.connection.running = true := by
    rw [ran, isFresh]
    decide +kernel
  have twoReports : reports.length = 2 := by
    rw [reported, isFresh]
    decide +kernel
  refine ⟨start, machine, reports, isFresh, ran, reported, bound, isPromised, ?_⟩
  obtain ⟨-, heard, -⟩ := first_report_is_the_outcome isFresh ran reported bound isPromised
  rcases heard with rfl | ⟨outcome, later, isOutcome, rfl, closed⟩ | ⟨stopped, -⟩
  · contradiction
  · obtain ⟨report, rfl⟩ := List.length_eq_one_iff.mp (Nat.succ.inj twoReports)
    rw [closed report List.mem_cons_self]
    exact ⟨outcome, isOutcome, rfl⟩
  · exact Bool.noConfusion (stopped.symm.trans isRunning)

end RpcEndpoint
