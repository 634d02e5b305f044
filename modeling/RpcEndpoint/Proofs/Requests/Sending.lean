import RpcEndpoint.Proofs.Requests.Places

/-!
# From the inbox to the wire

A request is carried out, launched and sent by jobs that stand at the head of the agenda and follow
each other (`Sending`). So a request is pending only once it is sent or about to be, and none is
sent twice.
-/

namespace RpcEndpoint

open Connection

variable {app : Application} {ω : Type}

/-- The request that a deed has sent. -/
def Deed.sent? : Deed app → Option MessageId
  | .sent id => some id
  | .routed _ _ | .completed _ _ => none

/-- The requests that the wire has accepted, in their order. -/
def sentIn (deeds : List (Deed app)) : List MessageId :=
  deeds.filterMap Deed.sent?

theorem sentIn_append (left right : List (Deed app)) :
    sentIn (left ++ right) = sentIn left ++ sentIn right :=
  List.filterMap_append

theorem mem_sentIn {id : MessageId} {deeds : List (Deed app)} :
    id ∈ sentIn deeds ↔ .sent id ∈ deeds := by
  simp only [sentIn, List.mem_filterMap]
  constructor
  · rintro ⟨deed, isDeed, isSent⟩
    cases deed with
    | sent other =>
        rw [Deed.sent?, Option.some.injEq] at isSent
        exact isSent ▸ isDeed
    | routed payload pending =>
        contradiction
    | completed promise outcome =>
        contradiction
  · intro isDeed
    exact ⟨.sent id, isDeed, rfl⟩

/-! ## The way of a request through the agenda -/

namespace Job

/-- Whether a job is on the way of a request to the wire. -/
def begins : Job app → Bool
  | .carryOut _ | .launch _ _ _ | .send _ => true
  | _ => false

/-- One job follows another on the way of a request to the wire. -/
inductive Precedes : Job app → Job app → Prop where
  | launch (message : Request) (options : Options) (sink : Sink app) :
      Precedes (.carryOut (.request message options sink)) (.launch message options sink)
  | send (message : Request) (options : Options) (sink : Sink app) :
      Precedes (.launch message options sink) (.send message)

theorem Light.begins_eq_false {job : Job app} (light : job.Light) : job.begins = false := by
  cases light <;> rfl

theorem Fails.begins_eq_false {job : Job app} (fails : job.Fails) : job.begins = false := by
  cases fails <;> rfl

end Job

namespace Move

variable {before : Connection app ω} {progress : Progress app ω} {job : Job app}

/-- A job on the way of a request comes alone, and of the job before it. -/
theorem begins
    (move : Move before progress job) {next : Job app}
    (isNext : next ∈ progress.jobs) (begins : next.begins = true) :
    progress.jobs = [next] ∧ job.Precedes next := by
  have notLight {jobs : List (Job app)} (light : ∀ job ∈ jobs, job.Light)
      (isJob : next ∈ jobs) : False :=
    Bool.noConfusion ((light next isJob).begins_eq_false.symm.trans begins)
  have alone {other : Job app} (jobs : progress.jobs = [other])
      (quiet : other.begins = false) : False := by
    rw [jobs, List.mem_singleton] at isNext
    rw [isNext, quiet] at begins
    contradiction
  cases move with
  | light isLight lightly deeds =>
      exact (notLight lightly.jobs isNext).elim
  | passed unanswered lightly deeds =>
      exact (notLight lightly.jobs isNext).elim
  | delivered lightly deeds =>
      exact (notLight lightly.jobs isNext).elim
  | fed lights other goesOn jobs areLight sends deeds =>
      rw [jobs, List.mem_append] at isNext
      rcases isNext with isLight | isRouted
      · exact (notLight areLight isLight).elim
      · obtain ⟨payload, -, rfl⟩ := List.mem_map.mp isRouted
        contradiction
  | rejected failure isProgress =>
      exact (alone (congrArg Progress.jobs isProgress) rfl).elim
  | @admitted message options sink isProgress =>
      subst isProgress
      rw [List.mem_singleton.mp isNext]
      exact ⟨rfl, .launch message options sink⟩
  | @entered message options sink entry promise jobs sends deeds =>
      rw [jobs] at isNext
      rw [jobs, List.mem_singleton.mp isNext]
      exact ⟨rfl, .send message options sink⟩
  | sent jobs sends deeds =>
      rw [jobs] at isNext
      contradiction
  | withdrawn entries kept unconcerned noPayload parted jobs promises stops nothingKept unwritten
      sends deeds =>
      rcases jobs next isNext with light | fails | rfl
      · rw [light.begins_eq_false] at begins
        contradiction
      · rw [fails.begins_eq_false] at begins
        contradiction
      · contradiction
  | answered entry answers found jobs sends deeds =>
      exact (alone jobs rfl).elim
  | late isProgress =>
      subst isProgress
      rcases List.mem_pair.mp isNext with rfl | rfl
      · contradiction
      · contradiction
  | finished jobs sends deeds =>
      exact (alone jobs rfl).elim
  | halted isProgress =>
      subst isProgress
      contradiction

/-- Only a job that writes a request has sent one. -/
theorem sentIn_deeds (move : Move before progress job) :
    sentIn progress.deeds = [] ∨
      ∃ message, job = .send message ∧ sentIn progress.deeds = [message.id] := by
  cases move with
  | light | fed | entered | withdrawn | finished | passed | answered | delivered =>
      left
      simp [*, sentIn, Deed.sent?, List.filterMap_cons]
  | rejected | admitted | late | halted =>
      left
      simp [*, sentIn]
  | @sent message jobs sends deeds =>
      right
      exact ⟨message, rfl, by simp [deeds, sentIn, Deed.sent?]⟩

/-- What is pending was pending before, or is entered now. -/
theorem mem_pending
    (move : Move before progress job) {id : MessageId}
    (isPending : id ∈ progress.connection.pending.ids) :
    id ∈ before.pending.ids ∨
      ∃ message options sink, job = .launch message options sink ∧ id = message.id := by
  cases move with
  | light isLight lightly deeds =>
      exact .inl (lightly.sends.pending ▸ isPending)
  | fed lights other goesOn jobs areLight sends deeds =>
      exact .inl (sends.pending ▸ isPending)
  | rejected failure isProgress =>
      subst isProgress
      exact .inl isPending
  | admitted isProgress =>
      subst isProgress
      exact .inl isPending
  | @entered message options sink entry promise jobs sends deeds =>
      rw [sends.pending] at isPending
      refine (PendingTable.mem_ids_insert isPending).imp_right ?_
      intro isEntry
      exact ⟨message, options, sink, rfl, isEntry.trans (congrArg Promise.id promise)⟩
  | sent jobs sends deeds =>
      exact .inl (sends.pending ▸ isPending)
  | withdrawn entries kept unconcerned noPayload parted jobs promises stops nothingKept unwritten
      sends deeds =>
      rw [sends.pending] at isPending
      have wasPending := List.mem_append_right (PendingTable.ids entries) isPending
      rw [PendingTable.ids, PendingTable.ids, ← List.map_append] at wasPending
      exact .inl ((parted.map (·.id)).mem_iff.mpr wasPending)
  | passed unanswered lightly deeds =>
      exact .inl (lightly.sends.pending ▸ isPending)
  | answered entry answers found jobs sends deeds =>
      rw [sends.pending] at isPending
      exact .inl (PendingTable.mem_ids_remove.mp isPending).1
  | late isProgress =>
      subst isProgress
      exact .inl isPending
  | finished jobs sends deeds =>
      exact .inl (sends.pending ▸ isPending)
  | delivered lightly deeds =>
      exact .inl (lightly.sends.pending ▸ isPending)
  | halted isProgress =>
      subst isProgress
      exact .inl ((sends_halt before).pending ▸ isPending)

/-- A request that is launched is pending and about to be written. -/
theorem launched
    {message : Request} {options : Options} {sink : Sink app}
    (move : Move before progress (.launch message options sink)) :
    progress.jobs = [.send message] ∧ message.id ∈ progress.connection.pending.ids ∧
      sentIn progress.deeds = [] := by
  cases move with
  | light isLight lightly deeds =>
      contradiction
  | entered entry promise jobs sends deeds =>
      refine ⟨jobs, ?_, by simp [deeds, sentIn]⟩
      rw [sends.pending, PendingTable.ids, PendingTable.insert, List.map_append, List.mem_append]
      exact .inr (List.mem_singleton.mpr (congrArg Promise.id promise).symm)
  | withdrawn entries kept unconcerned noPayload parted jobs promises stops nothingKept unwritten
      sends deeds =>
      contradiction

/-- A request that was written and is still pending was accepted by the wire. -/
theorem written
    {message : Request} (move : Move before progress (.send message))
    (isPending : message.id ∈ progress.connection.pending.ids) :
    sentIn progress.deeds = [message.id] := by
  cases move with
  | light isLight lightly deeds =>
      contradiction
  | sent jobs sends deeds =>
      simp [deeds, sentIn, Deed.sent?]
  | withdrawn entries kept unconcerned noPayload parted jobs promises stops nothingKept unwritten
      sends deeds =>
      rw [sends.pending] at isPending
      exact absurd isPending (unwritten message rfl)

end Move

/-! ## Where requests stand on their way -/

/-- What is sent, about to be sent, or not yet. -/
structure Sending (machine : Machine app ω) : Prop where
  /-- Only the first job is on the way of a request. -/
  head : ∀ job ∈ machine.agenda.tail, job.begins = false
  /-- A request on its way is not sent. -/
  unsent : ∀ job ∈ machine.agenda, ∀ promise ∈ job.promises,
    job.begins = true → promise.id ∉ sentIn machine.history
  /-- A request that is about to be written is pending and not sent. -/
  written : ∀ message, .send message ∈ machine.agenda →
    message.id ∈ machine.awaited ∧ message.id ∉ sentIn machine.history
  sent : ∀ id ∈ machine.awaited,
    id ∈ sentIn machine.history ∨ ∃ message, .send message ∈ machine.agenda ∧ id = message.id
  taken : ∀ id ∈ sentIn machine.history, id ∈ (promisesIn machine.taken).map (·.id)
  once : (sentIn machine.history).Nodup

namespace Sending

variable {machine : Machine app ω}

theorem start (wire : ω) (memory : app.Memory) (defaultTimeout : Option Duration) :
    Sending (Machine.start wire memory defaultTimeout) := by
  refine ⟨?_, ?_, ?_, ?_, ?_, List.nodup_nil⟩ <;> simp [Machine.start, Machine.awaited, sentIn,
    Connection.new, PendingTable.ids]

/-- The head of the agenda is the only job on the way of a request. -/
theorem eq_head
    (sending : Sending machine) {job next : Job app} {rest : List (Job app)}
    (agenda : machine.agenda = job :: rest)
    (isNext : next ∈ machine.agenda) (begins : next.begins = true) : next = job := by
  rw [agenda, List.mem_cons] at isNext
  rcases isNext with isHead | isLater
  · exact isHead
  · have quiet := sending.head next (by rwa [agenda])
    rw [begins] at quiet
    contradiction

/-- Requests keep their places on the way when the worker does the first step of a job. -/
private theorem worked
    (sending : Sending machine) (ledger : Ledger machine)
    {job : Job app} {rest : List (Job app)} {progress : Progress app ω}
    (agenda : machine.agenda = job :: rest)
    (move : Move machine.connection progress job) :
    Sending (machine.absorb rest progress) := by
  have isHead : job ∈ machine.agenda := agenda ▸ List.mem_cons_self
  have restQuiet : ∀ next ∈ rest, next.begins = false := by
    intro next isNext
    exact sending.head next (by rwa [agenda])
  have fromJob {next : Job app} (isNext : next ∈ progress.jobs ++ rest)
      (begins : next.begins = true) : progress.jobs = [next] ∧ job.Precedes next := by
    rcases List.mem_append.mp isNext with isNew | isLater
    · exact move.begins isNew begins
    · rw [restQuiet next isLater] at begins
      contradiction
  refine ⟨?_, ?_, ?_, ?_, ?_, ?_⟩
  · intro next isNext
    change next ∈ (progress.jobs ++ rest).tail at isNext
    cases begins : next.begins with
    | false =>
        rfl
    | true =>
        obtain ⟨alone, -⟩ := fromJob (List.mem_of_mem_tail isNext) begins
        rw [alone] at isNext
        rw [restQuiet next isNext] at begins
        contradiction
  · intro next isNext promise isPromise begins
    change promise.id ∉ sentIn (machine.history ++ progress.deeds)
    obtain ⟨-, precedes⟩ := fromJob isNext begins
    cases precedes with
    | launch message options sink =>
        have unsent := sending.unsent _ isHead promise isPromise rfl
        rcases move.sentIn_deeds with none | ⟨message, isSend, -⟩
        · rwa [sentIn_append, none, List.append_nil]
        · contradiction
    | send message options sink =>
        contradiction
  · intro message isNext
    obtain ⟨-, precedes⟩ := fromJob isNext rfl
    cases precedes with
    | send message options sink =>
        obtain ⟨-, isPending, none⟩ := move.launched
        refine ⟨isPending, ?_⟩
        change message.id ∉ sentIn (machine.history ++ progress.deeds)
        rw [sentIn_append, none, List.append_nil]
        exact sending.unsent _ isHead ⟨message.id, sink⟩ (List.mem_singleton.mpr rfl) rfl
  · intro id isPending
    change id ∈ sentIn (machine.history ++ progress.deeds) ∨
      ∃ message, .send message ∈ progress.jobs ++ rest ∧ id = message.id
    rw [sentIn_append, List.mem_append]
    rcases move.mem_pending isPending with wasPending | ⟨message, options, sink, rfl, rfl⟩
    · rcases sending.sent id wasPending with isSent | ⟨message, isSend, rfl⟩
      · exact .inl (.inl isSent)
      · have isJob := sending.eq_head agenda isSend rfl
        subst isJob
        left
        right
        rw [move.written isPending]
        exact List.mem_singleton.mpr rfl
    · obtain ⟨jobs, -⟩ := move.launched
      refine .inr ⟨message, ?_, rfl⟩
      rw [jobs]
      exact List.mem_cons_self
  · intro id isSent
    change id ∈ sentIn (machine.history ++ progress.deeds) at isSent
    rw [sentIn_append, List.mem_append] at isSent
    rcases isSent with wasSent | isNew
    · exact sending.taken id wasSent
    · rcases move.sentIn_deeds with none | ⟨message, rfl, single⟩
      · rw [none] at isNew
        contradiction
      · rw [single, List.mem_singleton] at isNew
        rw [isNew]
        exact ledger.mem_taken_of_awaited (sending.written message isHead).1
  · change (sentIn (machine.history ++ progress.deeds)).Nodup
    rw [sentIn_append]
    rcases move.sentIn_deeds with none | ⟨message, rfl, single⟩
    · rw [none, List.append_nil]
      exact sending.once
    · rw [single]
      refine List.nodup_append_comm.mp (List.nodup_cons.mpr ⟨?_, sending.once⟩)
      exact (sending.written message isHead).2

/-- Other jobs, and what other threads do, leave requests where they are on their way. -/
private theorem calm
    {before after : Machine app ω} (sending : Sending before)
    (head : ∀ job ∈ after.agenda.tail, job.begins = false)
    (sameJobs : ∀ job : Job app, job.begins = true →
      (job ∈ after.agenda ↔ job ∈ before.agenda))
    (history : after.history = before.history)
    (awaited : after.awaited = before.awaited)
    (taken : after.taken = before.taken) :
    Sending after := by
  refine ⟨head, ?_, ?_, ?_, ?_, ?_⟩
  · intro job isJob promise isPromise begins
    rw [history]
    exact sending.unsent job ((sameJobs job begins).mp isJob) promise isPromise begins
  · intro message isSend
    rw [history, awaited]
    exact sending.written message ((sameJobs _ rfl).mp isSend)
  · intro id isAwaited
    rw [history]
    rw [awaited] at isAwaited
    refine (sending.sent id isAwaited).imp_right ?_
    rintro ⟨message, isSend, sameId⟩
    exact ⟨message, (sameJobs _ rfl).mpr isSend, sameId⟩
  · rw [history, taken]
    exact sending.taken
  · rw [history]
    exact sending.once

theorem stroke [Wire ω]
    {before after : Machine app ω} (sending : Sending before) (ledger : Ledger before)
    (bound : before.accepted.length ≤ 2 ^ 64) (stroke : Stroke before after) :
    Sending after := by
  cases stroke with
  | @taken command rest agenda isRunning inbox =>
      have noSend : ∀ message, .send message ∉ before.agenda := by
        rw [agenda]
        intro message
        exact List.not_mem_nil
      refine ⟨?_, ?_, ?_, ?_, ?_, sending.once⟩
      · intro job isJob
        rw [List.mem_singleton.mp isJob]
        rfl
      · intro job isJob promise isPromise begins
        rcases List.mem_pair.mp isJob with rfl | rfl
        · intro isSent
          refine ledger.not_mem_taken_of_queued bound ?_ (sending.taken _ isSent)
          have split : promisesIn (command :: rest) =
              command.promise?.toList ++ promisesIn rest := by
            rw [← promisesIn_singleton, ← promisesIn_append, List.singleton_append]
          rw [Machine.queued, inbox, split, List.map_append]
          exact List.mem_append_left _ (List.mem_map_of_mem isPromise)
        · contradiction
      · intro message isSend
        simp at isSend
      · intro id isPending
        refine (sending.sent id isPending).imp_right ?_
        rintro ⟨message, isSend, -⟩
        exact absurd isSend (noSend message)
      · intro id isSent
        have wasTaken := sending.taken id isSent
        change id ∈ (promisesIn (before.taken ++ [command])).map (·.id)
        rw [promisesIn_append, List.map_append]
        exact List.mem_append_left _ wasTaken
  | woken agenda isRunning =>
      refine sending.calm ?_ ?_ rfl rfl rfl
      · intro job isJob
        contradiction
      · intro job begins
        rw [agenda]
        refine ⟨?_, fun isJob => absurd isJob List.not_mem_nil⟩
        intro isJob
        rw [List.mem_singleton.mp isJob] at begins
        contradiction
  | worked agenda =>
      have distinct := ledger.distinct bound
      exact sending.worked ledger agenda (Job.move _ _ _ distinct)
  | reordered agenda =>
      refine sending.calm ?_ ?_ rfl rfl rfl
      · intro job isJob
        exact sending.head job (by rwa [agenda])
      · intro job begins
        rw [agenda, List.mem_cons, List.mem_cons]
        refine or_congr_left ⟨?_, ?_⟩
        · rintro rfl
          contradiction
        · rintro rfl
          contradiction
  | sent flying sends =>
      refine sending.calm sending.head (fun job _ => .rfl) (List.append_nil _) ?_ rfl
      exact congrArg PendingTable.ids sends.pending
  | still now =>
      exact ⟨sending.head, sending.unsent, sending.written, sending.sent, sending.taken,
        sending.once⟩

end Sending

end RpcEndpoint
