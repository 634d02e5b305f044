import RpcEndpoint.Connection.Worker

/-!
# The jobs of the worker

Other threads do not wait until the worker has carried out a command. What it does is therefore cut
into jobs, each so small that a command of another thread comes before or after it and not in its
midst. The first step of a job may put other jobs in its place.
-/

namespace RpcEndpoint

/-- What the sender of a request was promised: the outcome goes to this sink. -/
structure Promise (app : Application) where
  id : MessageId
  sink : Sink app

/-- The promise that a pending request still has to keep. -/
def PendingRequest.promise {app : Application} (entry : PendingRequest app) : Promise app :=
  ⟨entry.id, entry.sink⟩

/-- Why a request whose time is up fails. -/
def PendingRequest.lateness {app : Application} (entry : PendingRequest app) : Failure :=
  match entry.deadline with
  | some deadline => .timedOut deadline.timeout
  | none => .cancelled

/-- What the worker has done for requests. -/
inductive Deed (app : Application) where
  /-- The wire has accepted a request. -/
  | sent (id : MessageId)
  /-- A payload from the peer was routed, when these requests were pending. -/
  | routed (payload : Bytes) (pending : List MessageId)
  | completed (promise : Promise app) (outcome : Except Failure Bytes)

/-- What the worker has before it. -/
inductive Job (app : Application) where
  | carryOut (command : Command app)
  /-- Enters a request that nothing speaks against. -/
  | launch (message : Request) (options : Options) (sink : Sink app)
  /-- Writes a request that has been entered. -/
  | send (message : Request)
  | deliver (promise : Promise app) (outcome : Except Failure Bytes)
  /-- Ends a request that has left the table. -/
  | finish (entry : PendingRequest app) (outcome : Except Failure Bytes)
  | timeOut (entry : PendingRequest app)
  | emit (event : Event)
  | route (payload : Bytes)
  /-- Shows a payload that is no message to the callback for those. -/
  | puzzle (payload : Bytes) (reaction : Reaction app)
  | release (ticket : TicketNumber)
  | react (reaction : Reaction app)
  /-- Lets the hooks of a triggered token take effect. -/
  | signal (hooks : List Hook)
  /-- Rejects what comes from now on. -/
  | shut (failure : Failure)
  | halt
  /-- Looks for requests whose time is up. -/
  | sweep

/-- Where the first step of a job leads. -/
structure Progress (app : Application) (ω : Type) where
  /-- The jobs that take the place of the job. -/
  jobs : List (Job app)
  connection : Connection app ω
  /-- The identifiers that senders were given. -/
  accepted : List MessageId := []
  deeds : List (Deed app) := []

variable {app : Application} {ω : Type}

/-! ## Callbacks -/

/-- The first step of a reaction. -/
def Reaction.advance (connection : Connection app ω) : Reaction app → Progress app ω
  | .done => { jobs := [], connection }
  | .note entry next => { jobs := [.react next], connection := connection.record (.noted entry) }
  | .recall next => { jobs := [.react (next connection.memory)], connection }
  | .remember memory next =>
    { jobs := [.react next], connection := { connection with memory } }
  | .request method params options sink next =>
    let (outcome, sent) := connection.request method params options sink
    { jobs := [.react (next outcome)], connection := sent, accepted := outcome.toOption.toList }
  | .notify method params next =>
    let (outcome, sent) := connection.notify method params
    { jobs := [.react (next outcome)], connection := sent }
  | .order wanted next =>
    { jobs := [.react next], connection := connection.enqueue (.order wanted) }
  | .cancelToken token next =>
    let (hooks, tokens) := connection.tokens.cancel token
    { jobs := [.signal hooks, .react next], connection := { connection with tokens } }
  | .answer ticket outcome next =>
    let (wasOpen, answered) := connection.answer ticket outcome
    { jobs := [.react (next wasOpen)], connection := answered }
  | .discard ticket next =>
    let (wasOpen, discarded) := connection.discard ticket
    { jobs := [.react (next wasOpen)], connection := discarded }
  | .keep ticket next =>
    let (wasOpen, kept) := connection.keep ticket
    { jobs := [.react (next wasOpen)], connection := kept }

namespace Connection

/-- Keeps a promise. -/
def honour (promise : Promise app) (outcome : Except Failure Bytes)
    (connection : Connection app ω) : Progress app ω :=
  let recorded := connection.record (.completed promise.id outcome)
  let deeds := [.completed promise outcome]
  match promise.sink with
  | .mailbox schema =>
    { jobs := []
      connection := recorded.fillMailbox promise.id (decodeOutcome schema outcome)
      deeds }
  | .callback react => { jobs := [.react (react outcome)], connection := recorded, deeds }

/-- Counts an event, before the observers are told. -/
def announce (event : Event) (connection : Connection app ω) : Progress app ω where
  jobs := connection.handlers.observers.map fun react => .react (react event)
  connection := { connection with stats := connection.stats.count event }.record (.emitted event)

/-! ## Requests -/

/-- Decides whether a request is entered. -/
def weigh (message : Request) (options : Options) (sink : Sink app)
    (connection : Connection app ω) : Progress app ω :=
  match connection.refusal? options with
  | some failure => { jobs := [.deliver ⟨message.id, sink⟩ (.error failure)], connection }
  | none => { jobs := [.launch message options sink], connection }

/-- Offers a request that has been entered to the wire. One that the wire refuses leaves the
table. -/
def offer [Wire ω] (message : Request) (connection : Connection app ω) : Progress app ω :=
  match connection.transmit message.toValue.encode with
  | (.ok (), sent) => { jobs := [], connection := sent.confirm, deeds := [.sent message.id] }
  | (.error failure, refused) =>
    { jobs := (refused.pending.find message.id).toList.map fun entry =>
        .finish entry (.error (.wire failure))
      connection := { refused with pending := refused.pending.remove message.id }.countPending }

/-! ## Early ends -/

/-- Takes a pending request out of the table, to cancel it. -/
def expel (id : MessageId) (connection : Connection app ω) : Progress app ω :=
  match connection.pending.find id with
  | some entry =>
    { jobs := [.emit (.requestCancelled id entry.method), .finish entry (.error .cancelled)]
      connection := { connection with pending := connection.pending.remove id }.countPending }
  | none => { jobs := [], connection }

/-- Takes all pending requests out of the table, to fail one after another. -/
def drain (failure : Failure) (connection : Connection app ω) : Progress app ω :=
  match connection.pending.inOrder with
  | [] => { jobs := [], connection }
  | first :: rest =>
    { jobs := (first :: rest).map fun entry => .finish entry (.error failure)
      connection := { connection with pending := [] }.countPending }

/-- Takes the requests whose time is up out of the table. -/
def sweep (now : Instant) (connection : Connection app ω) : Progress app ω :=
  match connection.pending.due now with
  | [] => { jobs := [], connection }
  | first :: rest =>
    { jobs := (first :: rest).map .timeOut
      connection := { connection with pending := connection.pending.notDue now }.countPending }

/-- Leaves the loop: what is in the inbox now is lost. -/
def halt (connection : Connection app ω) : Connection app ω :=
  connection.inbox.foldl lose { connection with running := false, inbox := [] }

/-! ## Payloads from the peer -/

/-- Takes the request that waits for a response out of the table. -/
def pair (id : MessageId) (payload : Bytes) (connection : Connection app ω) : Progress app ω :=
  match connection.pending.find id with
  | some entry =>
    { jobs := [.finish entry (.ok payload)]
      connection := { connection with
        pending := connection.pending.remove id
        stats := { connection.stats with
          responsesMatched := connection.stats.responsesMatched + 1 } }.countPending }
  | none => { jobs := [.emit (.unmatchedResponse id)], connection }

/-- Looks for the handler of a notification. -/
def notice (notification : IncomingNotification) (connection : Connection app ω) :
    Progress app ω :=
  let counted := { connection with
    stats := { connection.stats with
      incomingNotifications := connection.stats.incomingNotifications + 1 } }
  match connection.handlers.forNotification notification.method with
  | some react =>
    { jobs := [.react (react notification)], connection := counted.record (.notified notification) }
  | none => { jobs := [.emit (.unhandledNotification notification.method)], connection := counted }

/-- Looks for the handler of a request. -/
def consider (request : IncomingRequest) (connection : Connection app ω) : Progress app ω :=
  let counted := { connection with
    stats := { connection.stats with incomingRequests := connection.stats.incomingRequests + 1 } }
  let (number, opened) := counted.openTicket request
  match connection.handlers.forRequest request.method with
  | some react =>
    { jobs := [.react (react request number), .release number]
      connection := opened.record (.asked request) }
  | none =>
    { jobs := []
      connection := (opened.answer number (.error (.methodNotFound request.method))).2 }

/-- Tells a payload that is no message. -/
def wonder (reason : Unrecognized) (payload : Bytes) (connection : Connection app ω) :
    Progress app ω where
  jobs := .emit (.undecodablePayload payload.length reason) ::
    connection.handlers.undecodable.toList.map fun react => .puzzle payload (react payload)
  connection := connection

/-- Sends a payload where it belongs. -/
def sort (payload : Bytes) (connection : Connection app ω) : Progress app ω :=
  let progress := match Incoming.classify payload with
    | .response response => connection.pair response.id payload
    | .notification message =>
      connection.notice ⟨message.method, message.params, payload⟩
    | .request message =>
      connection.consider ⟨message.id, message.method, message.params, payload⟩
    | .unrecognized reason => connection.wonder reason payload
  { progress with deeds := [.routed payload (connection.pending.map (·.id))] }

/-- Takes a chunk apart. -/
def split (chunk : Bytes) (connection : Connection app ω) : Progress app ω :=
  let (batch, decoder) := connection.framer.decoder.push chunk
  { jobs := batch.fault.toList.map (fun fault => .emit (.malformedHeader fault)) ++
      batch.payloads.map .route
    connection := { connection with framer := { connection.framer with decoder } } }

/-! ## Commands -/

/-- The first step of an order. -/
def heed (connection : Connection app ω) : Order app → Progress app ω
  | .register registration =>
    { jobs := []
      connection := { connection with handlers := connection.handlers.register registration } }
  | .cancel id => connection.expel id
  | .failPending failure => connection.drain failure
  | .close failure =>
    let drained := connection.drain failure
    { drained with jobs := drained.jobs ++ [.shut failure] }
  | .resetFramer =>
    { jobs := [], connection := { connection with framer := connection.framer.reset } }
  | .shutdown =>
    let drained := connection.drain .closed
    { drained with jobs := drained.jobs ++ [.halt] }

/-- The first step of a command. -/
def begin [Wire ω] (connection : Connection app ω) : Command app → Progress app ω
  | .request message options sink => connection.weigh message options sink
  | .notification message receipt =>
    { jobs := [], connection := connection.writeNotification message receipt }
  | .reply response => { jobs := [], connection := connection.writeReply response }
  | .received chunk => connection.split chunk
  | .order order => connection.heed order

end Connection

/-! ## All jobs -/

/-- The first step of a job at an instant. -/
def Job.step [Wire ω] (now : Instant) (connection : Connection app ω) : Job app → Progress app ω
  | .carryOut command => connection.begin command
  | .launch message options sink =>
    let (attachment, watched) := connection.watch message.id options.token
    { jobs := [.send message]
      connection := watched.enter now message options.timeout sink attachment }
  | .send message => connection.offer message
  | .deliver promise outcome => connection.honour promise outcome
  | .finish entry outcome =>
    { jobs := [.deliver entry.promise outcome], connection := connection.unhook entry }
  | .timeOut entry =>
    { jobs := [.emit (.requestTimedOut entry.id entry.method),
        .finish entry (.error entry.lateness)]
      connection }
  | .emit event => connection.announce event
  | .route payload => connection.sort payload
  | .puzzle payload reaction =>
    { jobs := [.react reaction], connection := connection.record (.puzzled payload) }
  | .release ticket => { jobs := [], connection := connection.releaseTicket ticket }
  | .react reaction => reaction.advance connection
  | .signal [] => { jobs := [], connection }
  | .signal (hook :: rest) => { jobs := [.signal rest], connection := connection.setOff hook }
  | .shut failure => { jobs := [], connection := { connection with closed := some failure } }
  | .halt => { jobs := [], connection := connection.halt }
  | .sweep => if connection.running then connection.sweep now else { jobs := [], connection }

end RpcEndpoint
