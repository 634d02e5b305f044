import RpcEndpoint.Proofs.Requests.Correlation

/-!
# Payloads and the request that they answer

A payload that is no answer to a request leaves its entry and its outcome untouched, whatever the
callbacks do that it sets off. A payload that is one completes the request if that is pending. So it
does not matter in which order the answers to different requests come.
-/

namespace RpcEndpoint.Connection

variable {app : Application} {ω : Type}

/-- The outcomes of one request, of which there is one at the most. -/
def outcomesOf (id : MessageId) (connection : Connection app ω) :
    List (Except Failure Bytes) :=
  connection.outcomes.filterMap fun held => if held.1 = id then some held.2 else none

/-! ## What leaves a request untouched -/

/-- Neither the entry nor the outcome of a request has changed. -/
structure Untouched (id : MessageId) (before after : Connection app ω) : Prop where
  entry : after.pending.find id = before.pending.find id
  outcomes : after.outcomesOf id = before.outcomesOf id

variable {id : MessageId}

theorem Untouched.refl (connection : Connection app ω) : Untouched id connection connection :=
  ⟨rfl, rfl⟩

theorem Untouched.trans
    {first second third : Connection app ω}
    (left : Untouched id first second) (right : Untouched id second third) :
    Untouched id first third :=
  ⟨right.entry.trans left.entry, right.outcomes.trans left.outcomes⟩

theorem Sends.untouched
    {accepted : List MessageId} {before after : Connection app ω}
    (sends : Sends accepted before after) : Untouched id before after :=
  ⟨congrArg (PendingTable.find id) sends.pending,
    congrArg (List.filterMap _) sends.outcomes⟩

/-- Callbacks only send. -/
theorem sends_run (reaction : Reaction app) (connection : Connection app ω) :
    ∃ accepted, Sends accepted connection (reaction.run connection) := by
  induction reaction, connection using Reaction.run.induct with
  | case1 connection =>
      exact ⟨[], .refl connection⟩
  | case2 entry next connection inductionHypothesis =>
      obtain ⟨accepted, sends⟩ := inductionHypothesis
      exact ⟨_, (sends_record (.noted entry) connection rfl).trans sends⟩
  | case3 next connection inductionHypothesis =>
      exact inductionHypothesis
  | case4 memory next connection inductionHypothesis =>
      obtain ⟨accepted, sends⟩ := inductionHypothesis
      have remembered : Sends [] connection { connection with memory } :=
        .quiet rfl rfl rfl rfl rfl rfl
      exact ⟨_, remembered.trans sends⟩
  | case5 method params options sink next connection outcome sent requested
      inductionHypothesis =>
      obtain ⟨accepted, sends⟩ := inductionHypothesis
      have earlier := sends_request method params options sink connection
      rw [requested] at earlier
      rw [Reaction.run, requested]
      exact ⟨_, earlier.trans sends⟩
  | case6 method params next connection outcome sent notified inductionHypothesis =>
      obtain ⟨accepted, sends⟩ := inductionHypothesis
      have earlier := sends_notify method params connection
      rw [notified] at earlier
      rw [Reaction.run, notified]
      exact ⟨_, earlier.trans sends⟩
  | case7 wanted next connection inductionHypothesis =>
      obtain ⟨accepted, sends⟩ := inductionHypothesis
      exact ⟨_, (sends_enqueue (.order wanted) connection rfl).trans sends⟩
  | case8 token next connection inductionHypothesis =>
      obtain ⟨accepted, sends⟩ := inductionHypothesis
      have tokens : Sends [] connection
          { connection with tokens := (connection.tokens.cancel token).2 } :=
        .quiet rfl rfl rfl rfl rfl rfl
      have hooks := Sends.foldl sends_setOff (connection.tokens.cancel token).1
        { connection with tokens := (connection.tokens.cancel token).2 }
      exact ⟨_, (tokens.then hooks).trans sends⟩
  | case9 ticket outcome next connection wasOpen answered isAnswer inductionHypothesis =>
      obtain ⟨accepted, sends⟩ := inductionHypothesis
      have earlier := sends_answer ticket outcome connection
      rw [isAnswer] at earlier
      rw [Reaction.run, isAnswer]
      exact ⟨_, earlier.trans sends⟩
  | case10 ticket next connection wasOpen discarded isDiscard inductionHypothesis =>
      obtain ⟨accepted, sends⟩ := inductionHypothesis
      have earlier := sends_discard ticket connection
      rw [isDiscard] at earlier
      rw [Reaction.run, isDiscard]
      exact ⟨_, earlier.trans sends⟩
  | case11 ticket next connection wasOpen kept isKept inductionHypothesis =>
      obtain ⟨accepted, sends⟩ := inductionHypothesis
      have earlier := sends_keep ticket connection
      rw [isKept] at earlier
      rw [Reaction.run, isKept]
      exact ⟨_, earlier.trans sends⟩

theorem untouched_run (reaction : Reaction app) (connection : Connection app ω) :
    Untouched id connection (reaction.run connection) := by
  obtain ⟨accepted, sends⟩ := sends_run reaction connection
  exact sends.untouched

theorem untouched_emit (event : Event) (connection : Connection app ω) :
    Untouched id connection (connection.emit event) := by
  have told : ∀ (reactions : List (Event → Reaction app)) (before : Connection app ω),
      Untouched id before (reactions.foldl (fun told react => (react event).run told) before) := by
    intro reactions
    induction reactions with
    | nil =>
        exact .refl
    | cons react rest inductionHypothesis =>
        intro before
        exact (untouched_run (react event) before).trans (inductionHypothesis _)
  have counted : Sends [] connection
      { connection with stats := connection.stats.count event } :=
    .quiet rfl rfl rfl rfl rfl rfl
  exact (counted.then (sends_record (.emitted event) _ rfl)).untouched.trans (told _ _)

/-- What a request comes to does not touch other requests. -/
theorem outcomesOf_deliver
    (other : MessageId) (sink : Sink app) (outcome : Except Failure Bytes)
    (connection : Connection app ω) :
    (connection.deliver other sink outcome).pending = connection.pending ∧
      (connection.deliver other sink outcome).outcomesOf id =
        connection.outcomesOf id ++ if other = id then [outcome] else [] := by
  have recorded : (connection.record (.completed other outcome)).outcomesOf id =
      connection.outcomesOf id ++ if other = id then [outcome] else [] := by
    rw [outcomesOf, outcomes_record_completed, List.filterMap_append]
    by_cases same : other = id
    · simp [same, outcomesOf]
    · simp [same, outcomesOf]
  unfold deliver
  cases sink with
  | mailbox schema =>
      have sends := sends_fillMailbox other (decodeOutcome schema outcome)
        (connection.record (.completed other outcome))
      exact ⟨sends.pending, sends.untouched.outcomes.trans recorded⟩
  | callback react =>
      obtain ⟨accepted, sends⟩ := sends_run (react outcome)
        (connection.record (.completed other outcome))
      exact ⟨sends.pending, sends.untouched.outcomes.trans recorded⟩

theorem outcomesOf_finish
    (entry : PendingRequest app) (outcome : Except Failure Bytes)
    (connection : Connection app ω) :
    (connection.finish entry outcome).pending = connection.pending ∧
      (connection.finish entry outcome).outcomesOf id =
        connection.outcomesOf id ++ if entry.id = id then [outcome] else [] := by
  have unhooked := sends_unhook entry connection
  obtain ⟨pending, outcomes⟩ :=
    @outcomesOf_deliver _ _ id entry.id entry.sink outcome (connection.unhook entry)
  refine ⟨pending.trans unhooked.pending, outcomes.trans ?_⟩
  rw [unhooked.untouched.outcomes]

/-! ## Routing one payload -/

/-- A response to a pending request takes its entry and gives it the payload. -/
theorem route_answer
    {payload : Bytes} {connection : Connection app ω} {entry : PendingRequest app}
    (answers : Answers payload id) (found : connection.pending.find id = some entry) :
    (connection.route payload).pending = connection.pending.remove id ∧
      (connection.route payload).outcomesOf id = connection.outcomesOf id ++ [.ok payload] := by
  obtain ⟨response, isResponse, rfl⟩ := answers
  rw [route, isResponse]
  dsimp only
  rw [resolve, found]
  obtain ⟨pending, outcomes⟩ := @outcomesOf_finish _ _ response.id entry (.ok payload)
    { connection with
      pending := connection.pending.remove response.id
      stats := { connection.stats with
        responsesMatched := connection.stats.responsesMatched + 1 } }.countPending
  refine ⟨pending, outcomes.trans ?_⟩
  rw [if_pos (PendingTable.id_of_find found)]
  rfl

private theorem untouched_resolve
    {other : MessageId} (different : other ≠ id) (payload : Bytes)
    (connection : Connection app ω) :
    Untouched id connection (connection.resolve other payload) := by
  unfold resolve
  cases found : connection.pending.find other with
  | none =>
      exact untouched_emit _ connection
  | some entry =>
      have notEntry : entry.id ≠ id := by
        rwa [PendingTable.id_of_find found]
      obtain ⟨pending, outcomes⟩ := @outcomesOf_finish _ _ id entry (.ok payload)
        { connection with
          pending := connection.pending.remove other
          stats := { connection.stats with
            responsesMatched := connection.stats.responsesMatched + 1 } }.countPending
      refine ⟨?_, ?_⟩
      · refine (congrArg (PendingTable.find id) pending).trans ?_
        exact PendingTable.find_remove different
      · refine outcomes.trans ?_
        rw [if_neg notEntry, List.append_nil]
        rfl

private theorem untouched_dispatchNotification
    (notification : IncomingNotification) (connection : Connection app ω) :
    Untouched id connection (connection.dispatchNotification notification) := by
  have counted : Sends [] connection { connection with
      stats := { connection.stats with
        incomingNotifications := connection.stats.incomingNotifications + 1 } } :=
    .quiet rfl rfl rfl rfl rfl rfl
  unfold dispatchNotification
  split
  · exact (counted.then (sends_record (.notified notification) _ rfl)).untouched.trans
      (untouched_run _ _)
  · exact counted.untouched.trans (untouched_emit _ _)

private theorem untouched_dispatchRequest
    (request : IncomingRequest) (connection : Connection app ω) :
    Untouched id connection (connection.dispatchRequest request) := by
  have opened : Sends [] connection ({ connection with
      stats := { connection.stats with
        incomingRequests := connection.stats.incomingRequests + 1 } }.openTicket request).2 :=
    .quiet rfl rfl rfl rfl rfl rfl
  unfold dispatchRequest
  split
  · refine (opened.then (sends_record (.asked request) _ rfl)).untouched.trans ?_
    exact (untouched_run _ _).trans (sends_releaseTicket _ _).untouched
  · exact (opened.then (sends_answer _ _ _)).untouched

private theorem untouched_reportUndecodable
    (reason : Unrecognized) (payload : Bytes) (connection : Connection app ω) :
    Untouched id connection (connection.reportUndecodable reason payload) := by
  have told : Untouched id connection
      (connection.emit (.undecodablePayload payload.length reason)) := untouched_emit _ connection
  unfold reportUndecodable
  split
  · exact (told.trans (sends_record (.puzzled payload) _ rfl).untouched).trans (untouched_run _ _)
  · exact told

/-- A payload that does not answer a request leaves it untouched: a response with another
identifier, be it a string of the same digits, and all that is no response. -/
theorem untouched_route
    {payload : Bytes} (noAnswer : ¬ Answers payload id) (connection : Connection app ω) :
    Untouched id connection (connection.route payload) := by
  unfold route
  cases classified : Incoming.classify payload with
  | response response =>
      have different : response.id ≠ id := by
        intro sameId
        exact noAnswer ⟨response, classified, sameId⟩
      exact untouched_resolve different payload connection
  | notification message =>
      exact untouched_dispatchNotification _ connection
  | request message =>
      exact untouched_dispatchRequest _ connection
  | unrecognized reason =>
      exact untouched_reportUndecodable reason payload connection

/-- No payload touches a request that is not pending. -/
theorem untouched_route_of_not_pending
    {connection : Connection app ω} (absent : connection.pending.find id = none)
    (payload : Bytes) :
    Untouched id connection (connection.route payload) := by
  by_cases answers : Answers payload id
  · obtain ⟨response, isResponse, rfl⟩ := answers
    rw [route, isResponse]
    dsimp only
    rw [resolve, absent]
    exact untouched_emit _ connection
  · exact untouched_route answers connection

/-! ## Routing several payloads -/

private theorem untouched_foldl_route
    {connection : Connection app ω} (absent : connection.pending.find id = none)
    (payloads : List Bytes) :
    Untouched id connection (payloads.foldl route connection) := by
  induction payloads generalizing connection with
  | nil =>
      exact .refl connection
  | cons payload rest inductionHypothesis =>
      have first := untouched_route_of_not_pending absent payload
      exact first.trans (inductionHypothesis (first.entry.trans absent))

/-- Among payloads of which one answers a pending request, that one becomes its outcome, wherever
it stands. -/
theorem outcomesOf_foldl_route
    {connection : Connection app ω} {entry : PendingRequest app} {answer : Bytes}
    {payloads : List Bytes}
    (found : connection.pending.find id = some entry)
    (isAmong : answer ∈ payloads) (answers : Answers answer id)
    (only : ∀ other ∈ payloads, Answers other id → other = answer) :
    (payloads.foldl route connection).outcomesOf id =
      connection.outcomesOf id ++ [.ok answer] := by
  induction payloads generalizing connection with
  | nil =>
      contradiction
  | cons payload rest inductionHypothesis =>
      rw [List.foldl_cons]
      by_cases isAnswer : Answers payload id
      · have same := only payload List.mem_cons_self isAnswer
        subst same
        obtain ⟨pending, outcomes⟩ := route_answer isAnswer found
        have absent : (connection.route payload).pending.find id = none := by
          rw [pending, PendingTable.find_eq_none_iff, PendingTable.mem_ids_remove]
          exact fun kept => kept.2 rfl
        rw [(untouched_foldl_route absent rest).outcomes, outcomes]
      · have first := untouched_route isAnswer connection
        have isLater : answer ∈ rest := by
          rcases List.mem_cons.mp isAmong with rfl | isLater
          · exact absurd answers isAnswer
          · exact isLater
        rw [inductionHypothesis (first.entry.trans found) isLater
          fun other isOther => only other (List.mem_cons_of_mem payload isOther), first.outcomes]

end RpcEndpoint.Connection
