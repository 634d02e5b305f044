import RpcEndpoint.Proofs.Requests.Sending

/-!
# Responses and their requests

A request comes to the outcome `.ok payload` just when the payload is its first answer: the first
payload after the request was sent that is a response to it, and the request was still pending. The
invariant behind it (`Answering`) says that a pending request has not been answered since it was
sent, and that an answer to a pending request is on its way to the sink or has arrived there.
-/

namespace RpcEndpoint

open Connection

variable {app : Application} {ω : Type}

/-! ## Answers in a history -/

/-- After the request was sent, no answer to it was routed. -/
def Unanswered (history : List (Deed app)) (id : MessageId) : Prop :=
  ∀ before after, history = before ++ .sent id :: after →
    ∀ payload pending, .routed payload pending ∈ after → ¬ Answers payload id

/-- The payload is the first answer to the request after that was sent, and when it was routed the
request was pending. -/
def FirstAnswer (history : List (Deed app)) (id : MessageId) (payload : Bytes) : Prop :=
  ∃ before between after pending,
    history = before ++ .sent id :: between ++ .routed payload pending :: after ∧
      Answers payload id ∧ id ∈ pending ∧
      ∀ other table, .routed other table ∈ between → ¬ Answers other id

/-- A response answers one request. -/
theorem Answers.unique
    {payload : Bytes} {left right : MessageId}
    (first : Answers payload left) (second : Answers payload right) : left = right := by
  obtain ⟨response, isResponse, rfl⟩ := first
  obtain ⟨other, isOther, rfl⟩ := second
  rw [isResponse] at isOther
  rw [Incoming.response.inj isOther]

theorem FirstAnswer.append
    {history : List (Deed app)} {id : MessageId} {payload : Bytes}
    (first : FirstAnswer history id payload) (later : List (Deed app)) :
    FirstAnswer (history ++ later) id payload := by
  obtain ⟨before, between, after, pending, isHistory, facts⟩ := first
  refine ⟨before, between, after ++ later, pending, ?_, facts⟩
  rw [isHistory, List.append_assoc _ _ later, List.cons_append]

/-- The next payload is the first answer to a request that was sent and not answered. -/
theorem Unanswered.firstAnswer
    {history : List (Deed app)} {id : MessageId} {payload : Bytes} {pending : List MessageId}
    (unanswered : Unanswered history id) (isSent : id ∈ sentIn history)
    (answers : Answers payload id) (isPending : id ∈ pending) :
    FirstAnswer (history ++ [.routed payload pending]) id payload := by
  obtain ⟨before, between, isHistory⟩ := List.append_of_mem (mem_sentIn.mp isSent)
  refine ⟨before, between, [], pending, ?_, answers, isPending, unanswered before between isHistory⟩
  rw [isHistory, List.append_assoc]

/-! ## How an outcome is given out -/

namespace Move

variable {before : Connection app ω} {progress : Progress app ω}

/-- An outcome is given out by the job that delivers it. -/
theorem delivers
    {job : Job app} (move : Move before progress job)
    {id : MessageId} {outcome : Except Failure Bytes}
    (isGiven : (id, outcome) ∈ outcomesIn progress.deeds) :
    ∃ promise, job = .deliver promise outcome ∧ promise.id = id := by
  cases move with
  | light | fed | entered | sent | withdrawn | passed | answered | finished =>
      simp [*, outcomesIn, Deed.outcome?, List.filterMap_cons] at isGiven
  | rejected | admitted | late | halted =>
      simp [*, outcomesIn] at isGiven
  | @delivered promise outcome lightly deeds =>
      rw [deeds] at isGiven
      obtain ⟨rfl, rfl⟩ := Prod.mk.inj (List.mem_singleton.mp isGiven)
      exact ⟨promise, rfl, rfl⟩

theorem gives_delivered
    {promise : Promise app} {outcome : Except Failure Bytes}
    (move : Move before progress (.deliver promise outcome)) :
    (promise.id, outcome) ∈ outcomesIn progress.deeds := by
  cases move with
  | light isLight lightly deeds =>
      contradiction
  | withdrawn entries kept unconcerned =>
      exact absurd unconcerned (List.cons_ne_nil _ _)
  | delivered lightly deeds =>
      rw [deeds]
      exact List.mem_cons_self

/-- The end of a request is followed by the delivery of its outcome. -/
theorem jobs_finished
    {entry : PendingRequest app} {outcome : Except Failure Bytes}
    (move : Move before progress (.finish entry outcome)) :
    progress.jobs = [.deliver entry.promise outcome] := by
  cases move with
  | light isLight lightly deeds =>
      contradiction
  | withdrawn entries kept unconcerned =>
      exact absurd unconcerned (List.cons_ne_nil _ _)
  | finished jobs sends deeds =>
      exact jobs

end Move

/-! ## Answers on their way -/

/-- A job that brings a payload to the sink of a request. -/
inductive Job.Brings (id : MessageId) (payload : Bytes) : Job app → Prop where
  | deliver {promise : Promise app} (sameId : promise.id = id) :
      Brings id payload (.deliver promise (.ok payload))
  | finish {entry : PendingRequest app} (sameId : entry.id = id) :
      Brings id payload (.finish entry (.ok payload))

theorem Job.Light.not_brings
    {job : Job app} {id : MessageId} {payload : Bytes} (light : job.Light) :
    ¬ job.Brings id payload := by
  cases light <;> exact nofun

theorem Job.Fails.not_brings
    {job : Job app} {id : MessageId} {payload : Bytes} (fails : job.Fails) :
    ¬ job.Brings id payload := by
  cases fails <;> exact nofun

namespace Move

variable {before : Connection app ω} {progress : Progress app ω} {job : Job app}

/-- A payload that is routed leaves no request pending that it answers, and is brought to the
request that it answers. -/
theorem routed
    (move : Move before progress job) {payload : Bytes} {pending : List MessageId}
    (isRouted : .routed payload pending ∈ progress.deeds) :
    (∀ id ∈ progress.connection.pending.ids, ¬ Answers payload id) ∧
      ∀ id ∈ pending, Answers payload id → ∃ next ∈ progress.jobs, next.Brings id payload := by
  cases move with
  | light | fed | entered | sent | withdrawn | finished | delivered =>
      simp [*] at isRouted
  | rejected | admitted | late | halted =>
      simp [*] at isRouted
  | passed unanswered lightly deeds =>
      rw [deeds, List.mem_singleton] at isRouted
      obtain ⟨rfl, rfl⟩ := Deed.routed.inj isRouted
      refine ⟨?_, ?_⟩
      · rw [lightly.sends.pending]
        exact unanswered
      · intro id isPending answers
        exact absurd answers (unanswered id isPending)
  | answered entry answers found jobs sends deeds =>
      rw [deeds, List.mem_singleton] at isRouted
      obtain ⟨rfl, rfl⟩ := Deed.routed.inj isRouted
      refine ⟨?_, ?_⟩
      · intro id isPending isAnswer
        rw [sends.pending] at isPending
        exact (PendingTable.mem_ids_remove.mp isPending).2 (isAnswer.unique answers)
      · intro id isPending isAnswer
        rw [jobs]
        exact ⟨_, List.mem_cons_self, .finish (answers.unique isAnswer)⟩

/-- What brings a payload came of what brought it, or of routing an answer. -/
theorem brings
    (move : Move before progress job) {next : Job app} {id : MessageId} {payload : Bytes}
    (isNext : next ∈ progress.jobs) (brings : next.Brings id payload) :
    job.Brings id payload ∨
      job = .route payload ∧ Answers payload id ∧ id ∈ before.pending.ids ∧
        progress.deeds = [.routed payload before.pending.ids] := by
  cases move with
  | light isLight lightly deeds =>
      exact absurd brings (lightly.jobs next isNext).not_brings
  | passed unanswered lightly deeds =>
      exact absurd brings (lightly.jobs next isNext).not_brings
  | delivered lightly deeds =>
      exact absurd brings (lightly.jobs next isNext).not_brings
  | fed lights other goesOn jobs areLight sends deeds =>
      rw [jobs, List.mem_append] at isNext
      rcases isNext with isLight | isRouted
      · exact absurd brings (areLight next isLight).not_brings
      · obtain ⟨routed, -, rfl⟩ := List.mem_map.mp isRouted
        exact nomatch brings
  | rejected failure isProgress =>
      subst isProgress
      rw [List.mem_singleton.mp isNext] at brings
      exact nomatch brings
  | admitted isProgress =>
      subst isProgress
      rw [List.mem_singleton.mp isNext] at brings
      exact nomatch brings
  | entered entry promise jobs sends deeds =>
      rw [jobs] at isNext
      rw [List.mem_singleton.mp isNext] at brings
      exact nomatch brings
  | sent jobs sends deeds =>
      rw [jobs] at isNext
      exact absurd isNext List.not_mem_nil
  | withdrawn entries kept unconcerned noPayload parted jobs promises stops nothingKept unwritten
      sends deeds =>
      rcases jobs next isNext with light | fails | rfl
      · exact absurd brings light.not_brings
      · exact absurd brings fails.not_brings
      · exact nomatch brings
  | answered entry answers found jobs sends deeds =>
      rw [jobs] at isNext
      rw [List.mem_singleton.mp isNext] at brings
      cases brings with
      | finish sameId =>
          rw [← sameId]
          exact .inr ⟨rfl, answers, PendingTable.mem_ids_of_find found, deeds⟩
  | late isProgress =>
      subst isProgress
      rcases List.mem_pair.mp isNext with rfl | rfl
      · exact nomatch brings
      · exact nomatch brings
  | finished jobs sends deeds =>
      rw [jobs] at isNext
      rw [List.mem_singleton.mp isNext] at brings
      cases brings with
      | deliver sameId =>
          exact .inl (.finish sameId)
  | halted isProgress =>
      subst isProgress
      exact absurd isNext List.not_mem_nil

/-- A payload that is given out was brought. -/
theorem given
    (move : Move before progress job) {id : MessageId} {payload : Bytes}
    (isGiven : (id, .ok payload) ∈ outcomesIn progress.deeds) : job.Brings id payload := by
  obtain ⟨promise, rfl, sameId⟩ := move.delivers isGiven
  exact .deliver sameId

/-- What brings a payload hands it on or gives it out. -/
theorem handsOn
    (move : Move before progress job) {id : MessageId} {payload : Bytes}
    (brings : job.Brings id payload) :
    (∃ next ∈ progress.jobs, next.Brings id payload) ∨
      (id, .ok payload) ∈ outcomesIn progress.deeds := by
  cases brings with
  | deliver sameId =>
      exact .inr (sameId ▸ move.gives_delivered)
  | finish sameId =>
      rw [move.jobs_finished]
      exact .inl ⟨_, List.mem_cons_self, .deliver sameId⟩

end Move

/-! ## The invariant -/

/-- The payload was given to the sink of the request, or is on its way there. -/
def Machine.Gives (machine : Machine app ω) (id : MessageId) (payload : Bytes) : Prop :=
  (id, .ok payload) ∈ outcomesIn machine.history ∨
    ∃ job ∈ machine.agenda, job.Brings id payload

/-- What is known of answers. -/
structure Answering (machine : Machine app ω) : Prop where
  unanswered : ∀ id ∈ machine.awaited, Unanswered machine.history id
  first : ∀ id payload, machine.Gives id payload → FirstAnswer machine.history id payload
  gives : ∀ payload pending, .routed payload pending ∈ machine.history →
    ∀ id ∈ pending, Answers payload id → machine.Gives id payload

namespace Answering

variable {machine : Machine app ω}

theorem start (wire : ω) (memory : app.Memory) (defaultTimeout : Option Duration) :
    Answering (Machine.start wire memory defaultTimeout) := by
  refine ⟨?_, ?_, ?_⟩
  · intro id isAwaited
    contradiction
  · rintro id payload (isGiven | ⟨job, isJob, -⟩)
    · contradiction
    · contradiction
  · intro payload pending isRouted
    contradiction

/-- A request that is still pending has not been answered by the move. -/
private theorem unanswered_absorb
    (answering : Answering machine) (sending : Sending machine)
    {job : Job app} {rest : List (Job app)} {progress : Progress app ω}
    (agenda : machine.agenda = job :: rest)
    (move : Move machine.connection progress job)
    {id : MessageId} (isPending : id ∈ progress.connection.pending.ids) :
    Unanswered (machine.history ++ progress.deeds) id := by
  intro before after split payload pending isRouted
  have isDeed : .routed payload pending ∈ progress.deeds → ¬ Answers payload id :=
    fun isNew => (move.routed isNew).1 id isPending
  rcases List.append_eq_append_iff.mp split with ⟨tail, -, isTail⟩ | ⟨tail, isHistory, isAfter⟩
  · refine isDeed ?_
    rw [isTail]
    exact List.mem_append_right _ (List.mem_cons_of_mem _ isRouted)
  · cases tail with
    | nil =>
        refine isDeed ?_
        rw [← List.nil_append progress.deeds, ← isAfter]
        exact List.mem_cons_of_mem _ isRouted
    | cons head between =>
        obtain ⟨rfl, rfl⟩ := List.cons.inj isAfter
        rcases List.mem_append.mp isRouted with wasRouted | isNew
        · rcases move.mem_pending isPending with wasPending | ⟨message, options, sink, rfl, rfl⟩
          · exact answering.unanswered id wasPending before between isHistory payload pending
              wasRouted
          · have isSent : message.id ∈ sentIn machine.history := by
              rw [mem_sentIn, isHistory]
              exact List.mem_append_right _ List.mem_cons_self
            refine absurd isSent (sending.unsent (.launch message options sink) ?_
              ⟨message.id, sink⟩ (List.mem_singleton.mpr rfl) rfl)
            rw [agenda]
            exact List.mem_cons_self
        · exact isDeed isNew

/-- A payload that is on its way to a request is its first answer. -/
private theorem first_absorb
    (answering : Answering machine) (sending : Sending machine)
    {job : Job app} {rest : List (Job app)} {progress : Progress app ω}
    (agenda : machine.agenda = job :: rest)
    (move : Move machine.connection progress job)
    {id : MessageId} {payload : Bytes}
    (gives : (machine.absorb rest progress).Gives id payload) :
    FirstAnswer (machine.history ++ progress.deeds) id payload := by
  have isHead : job ∈ machine.agenda := agenda ▸ List.mem_cons_self
  rcases gives with isGiven | ⟨next, isNext, brings⟩
  · change (id, .ok payload) ∈ outcomesIn (machine.history ++ progress.deeds) at isGiven
    rw [outcomesIn, List.filterMap_append, List.mem_append] at isGiven
    rcases isGiven with wasGiven | isNew
    · exact (answering.first id payload (.inl wasGiven)).append _
    · exact (answering.first id payload (.inr ⟨job, isHead, move.given isNew⟩)).append _
  · rcases List.mem_append.mp isNext with isNew | isLater
    · rcases move.brings isNew brings with isJob | ⟨rfl, answers, isPending, deeds⟩
      · exact (answering.first id payload (.inr ⟨job, isHead, isJob⟩)).append _
      · rw [deeds]
        refine (answering.unanswered id isPending).firstAnswer ?_ answers isPending
        rcases sending.sent id isPending with isSent | ⟨message, isSend, -⟩
        · exact isSent
        · have isHead := sending.eq_head agenda isSend rfl
          contradiction
    · refine (answering.first id payload (.inr ⟨next, ?_, brings⟩)).append _
      rw [agenda]
      exact List.mem_cons_of_mem job isLater

/-- What was given, or is on its way, stays so. -/
private theorem gives_absorb
    {job : Job app} {rest : List (Job app)} {progress : Progress app ω}
    (agenda : machine.agenda = job :: rest)
    (move : Move machine.connection progress job)
    {id : MessageId} {payload : Bytes} (gives : machine.Gives id payload) :
    (machine.absorb rest progress).Gives id payload := by
  have later (isNew : (id, .ok payload) ∈ outcomesIn progress.deeds) :
      (machine.absorb rest progress).Gives id payload := by
    left
    change _ ∈ outcomesIn (machine.history ++ progress.deeds)
    rw [outcomesIn, List.filterMap_append]
    exact List.mem_append_right _ isNew
  rcases gives with isGiven | ⟨next, isNext, brings⟩
  · left
    change _ ∈ outcomesIn (machine.history ++ progress.deeds)
    rw [outcomesIn, List.filterMap_append]
    exact List.mem_append_left _ isGiven
  · rw [agenda, List.mem_cons] at isNext
    rcases isNext with rfl | isLater
    · rcases move.handsOn brings with ⟨other, isOther, stillBrings⟩ | isNew
      · exact .inr ⟨other, List.mem_append_left _ isOther, stillBrings⟩
      · exact later isNew
    · exact .inr ⟨next, List.mem_append_right _ isLater, brings⟩

private theorem worked
    (answering : Answering machine) (sending : Sending machine)
    {job : Job app} {rest : List (Job app)} {progress : Progress app ω}
    (agenda : machine.agenda = job :: rest)
    (move : Move machine.connection progress job) :
    Answering (machine.absorb rest progress) := by
  refine ⟨?_, ?_, ?_⟩
  · intro id isPending
    exact answering.unanswered_absorb sending agenda move isPending
  · intro id payload gives
    exact answering.first_absorb sending agenda move gives
  · intro payload pending isRouted id isPending answers
    rcases List.mem_append.mp isRouted with wasRouted | isNew
    · exact gives_absorb agenda move
        (answering.gives payload pending wasRouted id isPending answers)
    · obtain ⟨next, isNext, brings⟩ := (move.routed isNew).2 id isPending answers
      exact .inr ⟨next, List.mem_append_left _ isNext, brings⟩

/-- Other jobs, and what other threads do, leave answers where they are. -/
private theorem calm
    {before after : Machine app ω} (answering : Answering before)
    (sameJobs : ∀ (job : Job app) id payload, job.Brings id payload →
      (job ∈ after.agenda ↔ job ∈ before.agenda))
    (history : after.history = before.history)
    (awaited : after.awaited = before.awaited) :
    Answering after := by
  have sameGives : ∀ id payload, after.Gives id payload ↔ before.Gives id payload := by
    intro id payload
    rw [Machine.Gives, Machine.Gives, history]
    refine or_congr_right (exists_congr fun job => ?_)
    exact and_congr_left fun brings => sameJobs job id payload brings
  refine ⟨?_, ?_, ?_⟩
  · rw [history, awaited]
    exact answering.unanswered
  · intro id payload gives
    rw [history]
    exact answering.first id payload ((sameGives id payload).mp gives)
  · intro payload pending isRouted id isPending answers
    rw [history] at isRouted
    exact (sameGives id payload).mpr (answering.gives payload pending isRouted id isPending answers)

theorem stroke [Wire ω]
    {before after : Machine app ω} (answering : Answering before) (sending : Sending before)
    (distinct : before.connection.pending.Distinct) (stroke : Stroke before after) :
    Answering after := by
  cases stroke with
  | taken agenda isRunning inbox =>
      refine answering.calm ?_ rfl rfl
      intro job id payload brings
      rw [agenda]
      cases brings <;> simp
  | woken agenda isRunning =>
      refine answering.calm ?_ rfl rfl
      intro job id payload brings
      rw [agenda]
      cases brings <;> simp
  | worked agenda =>
      exact answering.worked sending agenda (Job.move _ _ _ distinct)
  | reordered agenda =>
      refine answering.calm ?_ rfl rfl
      intro job id payload brings
      rw [agenda]
      cases brings <;> simp
  | sent flying sends =>
      refine answering.calm (fun _ _ _ _ => .rfl) (List.append_nil _) ?_
      exact congrArg PendingTable.ids sends.pending
  | still now =>
      exact ⟨answering.unanswered, answering.first, answering.gives⟩

end Answering

end RpcEndpoint
