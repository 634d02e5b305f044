import RpcEndpoint.Connection.Worker

/-!
# Callbacks do not look around

What a callback does depends neither on the bytes that wait in the decoder nor on the commands that
wait in the inbox, and it changes neither.
-/

namespace RpcEndpoint.Connection

variable {app : Application} {ω : Type}

/-- The connection with another decoder. -/
def withDecoder (decoder : Framing.Decoder) (connection : Connection app ω) : Connection app ω :=
  { connection with framer := { connection.framer with decoder } }

/-- The connection with another decoder and with commands in front of its inbox. -/
def amid (decoder : Framing.Decoder) (front : List (Command app))
    (connection : Connection app ω) : Connection app ω :=
  { connection with
    framer := { connection.framer with decoder }
    inbox := front ++ connection.inbox }

variable (decoder : Framing.Decoder) (front : List (Command app)) (connection : Connection app ω)

theorem amid_nil : connection.amid decoder [] = connection.withDecoder decoder := rfl

/-! ## Single steps -/

theorem record_amid (occurrence : Occurrence app) :
    (connection.amid decoder front).record occurrence =
      (connection.record occurrence).amid decoder front := rfl

theorem enqueue_amid (command : Command app) :
    (connection.amid decoder front).enqueue command =
      (connection.enqueue command).amid decoder front := by
  unfold enqueue
  change (if connection.running then _ else _) = _
  split
  · simp only [amid, List.append_assoc]
  · rfl

theorem openMailbox_amid (id : MessageId) (sink : Sink app) :
    openMailbox id sink (connection.amid decoder front) =
      (openMailbox id sink connection).amid decoder front := by
  cases sink <;> rfl

theorem request_amid
    (method : String) (params : Params) (options : Options) (sink : Sink app) :
    (connection.amid decoder front).request method params options sink =
      ((connection.request method params options sink).1,
        (connection.request method params options sink).2.amid decoder front) := by
  cases params with
  | error fault => rfl
  | ok encoded =>
      have sameEnqueue := enqueue_amid decoder front connection
        (.request (.new (numberedId connection.nextNumber) method encoded) options sink)
      by_cases isRunning : connection.running = true
      · have stillRunning : (connection.amid decoder front).running = true := isRunning
        have sameNumber : (connection.amid decoder front).nextNumber = connection.nextNumber := rfl
        simp only [request, if_pos isRunning, if_pos stillRunning, sameNumber, sameEnqueue]
        exact congrArg _ (openMailbox_amid decoder front
          { connection.enqueue
            (.request (.new (numberedId connection.nextNumber) method encoded) options sink) with
            nextNumber := connection.nextNumber + 1 } _ sink)
      · have stillStopped : ¬ (connection.amid decoder front).running = true := isRunning
        simp only [request, if_neg isRunning, if_neg stillStopped]

theorem notify_amid (method : String) (params : Params) :
    (connection.amid decoder front).notify method params =
      ((connection.notify method params).1,
        (connection.notify method params).2.amid decoder front) := by
  cases params with
  | error fault => rfl
  | ok encoded =>
      by_cases isRunning : connection.running = true
      · have stillRunning : (connection.amid decoder front).running = true := isRunning
        simp only [notify, if_pos isRunning, if_pos stillRunning, enqueue_amid]
      · have stillStopped : ¬ (connection.amid decoder front).running = true := isRunning
        simp only [notify, if_neg isRunning, if_neg stillStopped]

theorem setOff_amid (hook : Hook) :
    (connection.amid decoder front).setOff hook =
      (connection.setOff hook).amid decoder front := by
  have sameName : (connection.amid decoder front).name = connection.name := rfl
  by_cases isOwn : hook.connection = connection.name
  · simp only [setOff, sameName, if_pos isOwn, enqueue_amid]
  · simp only [setOff, sameName, if_neg isOwn]
    rfl

theorem foldl_setOff_amid (hooks : List Hook) :
    hooks.foldl setOff (connection.amid decoder front) =
      (hooks.foldl setOff connection).amid decoder front := by
  induction hooks generalizing connection with
  | nil => rfl
  | cons hook rest inductionHypothesis =>
      rw [List.foldl_cons, setOff_amid, inductionHypothesis, List.foldl_cons]

theorem cancelToken_amid (token : Token) :
    (connection.amid decoder front).cancelToken token =
      (connection.cancelToken token).amid decoder front :=
  foldl_setOff_amid decoder front
    { connection with tokens := (connection.tokens.cancel token).2 } _

theorem settleTicket_amid (ticket : Ticket) (outcome : Except ResponseError Json.Value) :
    (connection.amid decoder front).settleTicket ticket outcome =
      (connection.settleTicket ticket outcome).amid decoder front :=
  enqueue_amid decoder front
    { connection with
      tickets := connection.tickets.filter fun held => held.number ≠ ticket.number } _

theorem ticket?_amid (number : TicketNumber) :
    (connection.amid decoder front).ticket? number = connection.ticket? number := rfl

theorem answer_amid (number : TicketNumber) (outcome : Except ResponseError Json.Value) :
    (connection.amid decoder front).answer number outcome =
      ((connection.answer number outcome).1,
        (connection.answer number outcome).2.amid decoder front) := by
  rw [answer, answer, ticket?_amid]
  cases connection.ticket? number with
  | some ticket => simp only [settleTicket_amid]
  | none => rfl

theorem discard_amid (number : TicketNumber) :
    (connection.amid decoder front).discard number =
      ((connection.discard number).1, (connection.discard number).2.amid decoder front) := by
  rw [discard, discard, ticket?_amid]
  cases connection.ticket? number with
  | some ticket => simp only [settleTicket_amid]
  | none => rfl

theorem keep_amid (number : TicketNumber) :
    (connection.amid decoder front).keep number =
      ((connection.keep number).1, (connection.keep number).2.amid decoder front) := by
  rw [keep, keep, ticket?_amid]
  cases connection.ticket? number <;> rfl

theorem releaseTicket_amid (number : TicketNumber) :
    (connection.amid decoder front).releaseTicket number =
      (connection.releaseTicket number).amid decoder front := by
  rw [releaseTicket, releaseTicket, ticket?_amid, discard_amid]
  cases connection.ticket? number with
  | some ticket => cases kept : ticket.kept <;> simp only [kept] <;> rfl
  | none => rfl

theorem unhook_amid (entry : PendingRequest app) :
    (connection.amid decoder front).unhook entry =
      (connection.unhook entry).amid decoder front := by
  rw [unhook, unhook]
  cases entry.attachment <;> rfl

theorem fillMailbox_amid (id : MessageId) (outcome : Except Failure Json.Value) :
    (connection.amid decoder front).fillMailbox id outcome =
      (connection.fillMailbox id outcome).amid decoder front := by
  have same : (connection.amid decoder front).mailbox? id = connection.mailbox? id := rfl
  rw [fillMailbox, fillMailbox, same]
  cases connection.mailbox? id with
  | some mailbox => cases mailbox <;> rfl
  | none => rfl

/-! ## Whole callbacks -/

theorem run_amid (reaction : Reaction app) :
    reaction.run (connection.amid decoder front) =
      (reaction.run connection).amid decoder front := by
  induction reaction, connection using Reaction.run.induct with
  | case1 connection => rfl
  | case2 entry next connection inductionHypothesis => exact inductionHypothesis
  | case3 next connection inductionHypothesis => exact inductionHypothesis
  | case4 memory next connection inductionHypothesis => exact inductionHypothesis
  | case5 method params options sink next connection outcome sent requested
      inductionHypothesis =>
      rw [Reaction.run, Reaction.run, request_amid, requested]
      exact inductionHypothesis
  | case6 method params next connection outcome sent notified inductionHypothesis =>
      rw [Reaction.run, Reaction.run, notify_amid, notified]
      exact inductionHypothesis
  | case7 wanted next connection inductionHypothesis =>
      rw [Reaction.run, Reaction.run, enqueue_amid]
      exact inductionHypothesis
  | case8 token next connection inductionHypothesis =>
      rw [Reaction.run, Reaction.run, cancelToken_amid]
      exact inductionHypothesis
  | case9 ticket outcome next connection wasOpen answered isAnswer inductionHypothesis =>
      rw [Reaction.run, Reaction.run, answer_amid, isAnswer]
      exact inductionHypothesis
  | case10 ticket next connection wasOpen discarded isDiscard inductionHypothesis =>
      rw [Reaction.run, Reaction.run, discard_amid, isDiscard]
      exact inductionHypothesis
  | case11 ticket next connection wasOpen kept isKept inductionHypothesis =>
      rw [Reaction.run, Reaction.run, keep_amid, isKept]
      exact inductionHypothesis

theorem deliver_amid (id : MessageId) (sink : Sink app) (outcome : Except Failure Bytes) :
    (connection.amid decoder front).deliver id sink outcome =
      (connection.deliver id sink outcome).amid decoder front := by
  unfold deliver
  rw [record_amid]
  cases sink with
  | mailbox schema => exact fillMailbox_amid _ _ _ id _
  | callback react => exact run_amid _ _ _ (react outcome)

theorem finish_amid (entry : PendingRequest app) (outcome : Except Failure Bytes) :
    (connection.amid decoder front).finish entry outcome =
      (connection.finish entry outcome).amid decoder front := by
  unfold finish
  rw [unhook_amid, deliver_amid]

theorem emit_amid (event : Event) :
    (connection.amid decoder front).emit event =
      (connection.emit event).amid decoder front := by
  have told : ∀ (observers : List (Event → Reaction app)) (before : Connection app ω),
      observers.foldl (fun told react => (react event).run told) (before.amid decoder front) =
        (observers.foldl (fun told react => (react event).run told) before).amid decoder front := by
    intro observers
    induction observers with
    | nil => exact fun _ => rfl
    | cons react rest inductionHypothesis =>
        intro before
        rw [List.foldl_cons, run_amid, inductionHypothesis, List.foldl_cons]
  exact told connection.handlers.observers
    ({ connection with stats := connection.stats.count event }.record (.emitted event))

/-! ## Payloads -/

theorem resolve_amid (id : MessageId) (payload : Bytes) :
    (connection.amid decoder front).resolve id payload =
      (connection.resolve id payload).amid decoder front := by
  have same : (connection.amid decoder front).pending.find id = connection.pending.find id := rfl
  cases found : connection.pending.find id with
  | some entry =>
      simp only [resolve, same, found]
      exact finish_amid decoder front
        { connection with
          pending := connection.pending.remove id
          stats := { connection.stats with
            responsesMatched := connection.stats.responsesMatched + 1 } }.countPending entry _
  | none =>
      simp only [resolve, same, found]
      exact emit_amid decoder front connection _

theorem dispatchNotification_amid (notification : IncomingNotification) :
    (connection.amid decoder front).dispatchNotification notification =
      (connection.dispatchNotification notification).amid decoder front := by
  have same : (connection.amid decoder front).handlers.forNotification notification.method =
      connection.handlers.forNotification notification.method := rfl
  let counted := { connection with
    stats := { connection.stats with
      incomingNotifications := connection.stats.incomingNotifications + 1 } }
  cases found : connection.handlers.forNotification notification.method with
  | some react =>
      simp only [dispatchNotification, same, found]
      exact run_amid decoder front (counted.record (.notified notification)) (react notification)
  | none =>
      simp only [dispatchNotification, same, found]
      exact emit_amid decoder front counted _

theorem dispatchRequest_amid (request : IncomingRequest) :
    (connection.amid decoder front).dispatchRequest request =
      (connection.dispatchRequest request).amid decoder front := by
  have same : (connection.amid decoder front).handlers.forRequest request.method =
      connection.handlers.forRequest request.method := rfl
  let opened := ({ connection with
    stats := { connection.stats with
      incomingRequests := connection.stats.incomingRequests + 1 } }.openTicket request).2
  cases found : connection.handlers.forRequest request.method with
  | some react =>
      simp only [dispatchRequest, same, found]
      have ran := run_amid decoder front (opened.record (.asked request))
        (react request connection.nextTicket)
      exact (congrArg (releaseTicket connection.nextTicket) ran).trans
        (releaseTicket_amid decoder front _ _)
  | none =>
      simp only [dispatchRequest, same, found]
      exact congrArg Prod.snd (answer_amid decoder front opened connection.nextTicket _)

theorem reportUndecodable_amid (reason : Unrecognized) (payload : Bytes) :
    (connection.amid decoder front).reportUndecodable reason payload =
      (connection.reportUndecodable reason payload).amid decoder front := by
  have same : (connection.amid decoder front).handlers.undecodable =
      connection.handlers.undecodable := rfl
  cases found : connection.handlers.undecodable with
  | some react =>
      simp only [reportUndecodable, emit_amid, same, found]
      exact run_amid decoder front
        ((connection.emit (.undecodablePayload payload.length reason)).record (.puzzled payload)) _
  | none =>
      simp only [reportUndecodable, emit_amid, same, found]

theorem route_amid (payload : Bytes) :
    (connection.amid decoder front).route payload =
      (connection.route payload).amid decoder front := by
  unfold route
  split
  · exact resolve_amid _ _ _ _ _
  · exact dispatchNotification_amid _ _ _ _
  · exact dispatchRequest_amid _ _ _ _
  · exact reportUndecodable_amid _ _ _ _ _

theorem foldl_route_amid (payloads : List Bytes) :
    payloads.foldl route (connection.amid decoder front) =
      (payloads.foldl route connection).amid decoder front := by
  induction payloads generalizing connection with
  | nil => rfl
  | cons payload rest inductionHypothesis =>
      rw [List.foldl_cons, route_amid, inductionHypothesis, List.foldl_cons]

end RpcEndpoint.Connection
