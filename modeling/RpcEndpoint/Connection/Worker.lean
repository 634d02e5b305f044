import RpcEndpoint.Connection.State

/-!
# The worker

`Connection.handle` carries out one command. Every way in which a request can end takes its entry
out of the table first and hands out the outcome last.
-/

namespace RpcEndpoint.Connection

variable {app : Application} {ω : Type}

/-! ## Outcomes -/

/-- Hands an outcome to the owner of a request. -/
def deliver (id : MessageId) (sink : Sink app) (outcome : Except Failure Bytes)
    (connection : Connection app ω) : Connection app ω :=
  let recorded := connection.record (.completed id outcome)
  match sink with
  | .mailbox schema => recorded.fillMailbox id (decodeOutcome schema outcome)
  | .callback react => (react outcome).run recorded

/-- Takes the hook of a request off its token. -/
def unhook (entry : PendingRequest app) (connection : Connection app ω) : Connection app ω :=
  match entry.attachment with
  | some attachment => { connection with tokens := connection.tokens.detach attachment }
  | none => connection

/-- Ends a request that has left the table. -/
def finish (entry : PendingRequest app) (outcome : Except Failure Bytes)
    (connection : Connection app ω) : Connection app ω :=
  (connection.unhook entry).deliver entry.id entry.sink outcome

/-! ## Observers -/

/-- Tells an event to every observer. -/
def emit (event : Event) (connection : Connection app ω) : Connection app ω :=
  let counted := { connection with stats := connection.stats.count event }
  connection.handlers.observers.foldl (fun told react => (react event).run told)
    (counted.record (.emitted event))

/-! ## Requests of this side -/

/-- Hangs the hook of a request on its token. A token that was triggered in the meantime cancels
the request at once. -/
def watch (id : MessageId) (token : Option Token) (connection : Connection app ω) :
    Option Attachment × Connection app ω :=
  match token with
  | none => (none, connection)
  | some token =>
    match connection.tokens.attach? token (connection.hook id) with
    | some (attachment, tokens) => (some attachment, { connection with tokens })
    | none => (none, connection.enqueue (.order (.cancel id)))

/-- Enters a request into the table. -/
def enter (now : Instant) (message : Request) (timeout : Option Duration) (sink : Sink app)
    (attachment : Option Attachment) (connection : Connection app ω) : Connection app ω :=
  let deadline := (timeout.or connection.defaultTimeout).bind (Deadline.after? now)
  { connection with
    pending := connection.pending.insert ⟨message.id, message.method, sink, deadline, attachment⟩ }

/-- Offers a payload to the wire, and takes in what the wire brings. -/
def transmit [Wire ω] (payload : Bytes) (connection : Connection app ω) :
    Except WireFailure Unit × Connection app ω :=
  let frame := Framing.encodeFrame payload
  let (outcome, framer) := connection.framer.write payload
  let offered := { connection with framer }.record
    (match outcome with
      | .ok () => .wrote frame
      | .error _ => .refused frame)
  (outcome, offered.takeArrivals)

/-- Takes a request back that the wire refused. -/
def withdraw (id : MessageId) (failure : WireFailure) (connection : Connection app ω) :
    Connection app ω :=
  let taken := { connection with pending := connection.pending.remove id }.countPending
  match connection.pending.find id with
  | some entry => taken.finish entry (.error (.wire failure))
  | none => taken

/-- Counts a request that the wire accepted. -/
def confirm (connection : Connection app ω) : Connection app ω :=
  { connection with
    stats := { connection.stats with requestsSent := connection.stats.requestsSent + 1 } }
    |>.countPending

/-- Why a request is not even written. -/
def refusal? (options : Options) (connection : Connection app ω) : Option Failure :=
  match connection.closed with
  | some failure => some failure
  | none =>
    match options.token with
    | some token => if connection.tokens.isCancelled token then some .cancelled else none
    | none => none

/-- Writes a request that nothing speaks against. -/
def launch [Wire ω] (now : Instant) (message : Request) (options : Options) (sink : Sink app)
    (connection : Connection app ω) : Connection app ω :=
  let (attachment, watched) := connection.watch message.id options.token
  let entered := watched.enter now message options.timeout sink attachment
  match entered.transmit message.toValue.encode with
  | (.ok (), sent) => sent.confirm
  | (.error failure, refused) => refused.withdraw message.id failure

/-- Starts a request. -/
def start [Wire ω] (now : Instant) (message : Request) (options : Options) (sink : Sink app)
    (connection : Connection app ω) : Connection app ω :=
  match connection.refusal? options with
  | some failure => connection.deliver message.id sink (.error failure)
  | none => connection.launch now message options sink

/-! ## Notifications and replies -/

/-- Writes a notification and reports what became of it. -/
def writeNotification [Wire ω] (message : Notification) (receipt : Option Nat)
    (connection : Connection app ω) : Connection app ω :=
  match connection.closed with
  | some failure => connection.reportFate receipt (.error failure)
  | none =>
    match connection.transmit message.toValue.encode with
    | (.ok (), sent) =>
      { sent with
        stats := { sent.stats with notificationsSent := sent.stats.notificationsSent + 1 } }
        |>.reportFate receipt (.ok ())
    | (.error failure, refused) => refused.reportFate receipt (.error (.wire failure))

/-- Writes a reply. One that the wire refuses is lost. -/
def writeReply [Wire ω] (response : Response) (connection : Connection app ω) :
    Connection app ω :=
  (connection.transmit response.toValue.encode).2

/-! ## Payloads from the peer -/

/-- Gives a response to the request that waits for it. -/
def resolve (id : MessageId) (payload : Bytes) (connection : Connection app ω) :
    Connection app ω :=
  match connection.pending.find id with
  | some entry =>
    { connection with
      pending := connection.pending.remove id
      stats := { connection.stats with
        responsesMatched := connection.stats.responsesMatched + 1 } }
      |>.countPending.finish entry (.ok payload)
  | none => connection.emit (.unmatchedResponse id)

/-- Calls the handler of a notification. -/
def dispatchNotification (notification : IncomingNotification) (connection : Connection app ω) :
    Connection app ω :=
  let counted := { connection with
    stats := { connection.stats with
      incomingNotifications := connection.stats.incomingNotifications + 1 } }
  match connection.handlers.forNotification notification.method with
  | some react => (react notification).run (counted.record (.notified notification))
  | none => counted.emit (.unhandledNotification notification.method)

/-- Opens a ticket for a request of the peer. -/
def openTicket (request : IncomingRequest) (connection : Connection app ω) :
    TicketNumber × Connection app ω :=
  let number := connection.nextTicket
  (number, { connection with
    tickets := ⟨number, request.id, request.method, false⟩ :: connection.tickets
    nextTicket := number + 1 })

/-- Gives up the request of a handler that has ended without answering or keeping it. -/
def releaseTicket (number : TicketNumber) (connection : Connection app ω) : Connection app ω :=
  match connection.ticket? number with
  | some ticket => if ticket.kept then connection else (connection.discard number).2
  | none => connection

/-- Calls the handler of a request, or answers that there is none. -/
def dispatchRequest (request : IncomingRequest) (connection : Connection app ω) :
    Connection app ω :=
  let counted := { connection with
    stats := { connection.stats with incomingRequests := connection.stats.incomingRequests + 1 } }
  let (number, opened) := counted.openTicket request
  match connection.handlers.forRequest request.method with
  | some react => ((react request number).run (opened.record (.asked request))).releaseTicket number
  | none => (opened.answer number (.error (.methodNotFound request.method))).2

/-- Reports a payload that is no message. -/
def reportUndecodable (reason : Unrecognized) (payload : Bytes) (connection : Connection app ω) :
    Connection app ω :=
  let told := connection.emit (.undecodablePayload payload.length reason)
  match connection.handlers.undecodable with
  | some react => (react payload).run (told.record (.puzzled payload))
  | none => told

/-- Sends a payload where it belongs. -/
def route (connection : Connection app ω) (payload : Bytes) : Connection app ω :=
  match Incoming.classify payload with
  | .response response => connection.resolve response.id payload
  | .notification message =>
    connection.dispatchNotification ⟨message.method, message.params, payload⟩
  | .request message =>
    connection.dispatchRequest ⟨message.id, message.method, message.params, payload⟩
  | .unrecognized reason => connection.reportUndecodable reason payload

/-- Takes in a chunk: gives the payloads that are complete now, and tells a malformed header. -/
def unpack (chunk : Bytes) (connection : Connection app ω) : List Bytes × Connection app ω :=
  let (batch, decoder) := connection.framer.decoder.push chunk
  let pushed := { connection with framer := { connection.framer with decoder } }
  (batch.payloads, match batch.fault with
    | some fault => pushed.emit (.malformedHeader fault)
    | none => pushed)

/-- Takes in a chunk: a malformed header is told first, then the payloads are routed in order. -/
def receive (chunk : Bytes) (connection : Connection app ω) : Connection app ω :=
  let (payloads, unpacked) := connection.unpack chunk
  payloads.foldl route unpacked

/-! ## Early ends -/

/-- Cancels a pending request. -/
def cancelPending (id : MessageId) (connection : Connection app ω) : Connection app ω :=
  match connection.pending.find id with
  | some entry =>
    { connection with pending := connection.pending.remove id }
      |>.countPending
      |>.emit (.requestCancelled id entry.method)
      |>.finish entry (.error .cancelled)
  | none => connection

/-- Ends a request whose time is up and that has left the table. -/
def timeOut (connection : Connection app ω) (entry : PendingRequest app) : Connection app ω :=
  let failure := match entry.deadline with
    | some deadline => .timedOut deadline.timeout
    | none => .cancelled
  (connection.emit (.requestTimedOut entry.id entry.method)).finish entry (.error failure)

/-- Ends all requests whose time is up. -/
def expire (now : Instant) (connection : Connection app ω) : Connection app ω :=
  match connection.pending.due now with
  | [] => connection
  | first :: rest =>
    (first :: rest).foldl timeOut
      { connection with pending := connection.pending.notDue now }.countPending

/-- Ends all pending requests with one failure, in the order of their identifiers. -/
def failAll (failure : Failure) (connection : Connection app ω) : Connection app ω :=
  match connection.pending.inOrder with
  | [] => connection
  | first :: rest =>
    (first :: rest).foldl (fun failed entry => failed.finish entry (.error failure))
      { connection with pending := [] }.countPending

/-! ## Commands -/

/-- Loses a command that the worker will not come to. -/
def lose (connection : Connection app ω) : Command app → Connection app ω
  | .request message _ (.mailbox _) => connection.setMailbox message.id .exhausted
  | .notification _ receipt => connection.reportFate receipt (.error .closed)
  | _ => connection

/-- Stops the worker: what is pending fails, and what is in the inbox then is lost. -/
def stop (connection : Connection app ω) : Connection app ω :=
  let failed := connection.failAll .closed
  failed.inbox.foldl lose { failed with running := false, inbox := [] }

/-- Carries out an order. -/
def obey (connection : Connection app ω) : Order app → Connection app ω
  | .register registration =>
    { connection with handlers := connection.handlers.register registration }
  | .cancel id => connection.cancelPending id
  | .failPending failure => connection.failAll failure
  | .close failure => { connection.failAll failure with closed := some failure }
  | .resetFramer => { connection with framer := connection.framer.reset }
  | .shutdown => connection.stop

/-- Carries out one command. -/
def handle [Wire ω] (now : Instant) (connection : Connection app ω) :
    Command app → Connection app ω
  | .request message options sink => connection.start now message options sink
  | .notification message receipt => connection.writeNotification message receipt
  | .reply response => connection.writeReply response
  | .received chunk => connection.receive chunk
  | .order order => connection.obey order

/-- One turn of the worker: the first command of the inbox, if there is one, and then the requests
whose time is up when it has been carried out. -/
def turn [Wire ω] (now later : Instant) (connection : Connection app ω) : Connection app ω :=
  if connection.running then
    match connection.inbox with
    | [] => connection.expire later
    | command :: rest =>
      let handled := { connection with inbox := rest }.handle now command
      if handled.running then handled.expire later else handled
  else connection

end RpcEndpoint.Connection
