import RpcEndpoint.Connection.Reaction
import RpcEndpoint.Connection.Pending
import RpcEndpoint.Framing.Decoder

/-!
# Connections

A connection has an inbox of commands, which one worker handles in their order. Callers, callbacks,
tokens and the wire only append to the inbox; everything else changes while a command is handled.
-/

namespace RpcEndpoint

open Json

/-- What the worker of a connection is told. -/
inductive Command (app : Application) where
  | request (message : Request) (options : Options) (sink : Sink app)
  /-- A notification, and where its fate is reported. -/
  | notification (message : Notification) (receipt : Option Nat)
  | reply (response : Response)
  | received (chunk : Bytes)
  | order (order : Order app)

/-- The outcome of a request on its way to the owner of the request. -/
inductive Mailbox where
  | waiting
  | holding (outcome : Except Failure Value)
  /-- The outcome was taken, or there will be none. -/
  | exhausted

/-- An open request of the peer. -/
structure Ticket where
  number : TicketNumber
  id : MessageId
  method : String
  /-- Whether it stays open when its handler ends. -/
  kept : Bool

/-- What happens on the worker, in the order of its log. -/
inductive Occurrence (app : Application) where
  | wrote (frame : Bytes)
  | refused (frame : Bytes)
  | emitted (event : Event)
  /-- A request came to its outcome. -/
  | completed (id : MessageId) (outcome : Except Failure Bytes)
  /-- A handler was called. -/
  | notified (notification : IncomingNotification)
  | asked (request : IncomingRequest)
  | puzzled (payload : Bytes)
  /-- A callback left a note. -/
  | noted (note : app.Note)

/-- A connection over a wire of type `ω`. -/
structure Connection (app : Application) (ω : Type) where
  /-- Tells the connection from others that share its tokens. -/
  name : Nat
  framer : Framing.Framer ω
  pending : PendingTable app
  handlers : Handlers app
  /-- Why the connection is closed, once it is. -/
  closed : Option Failure
  /-- The limit of requests that have none of their own. -/
  defaultTimeout : Option Duration
  stats : Stats
  /-- Whether the worker still takes commands. -/
  running : Bool
  inbox : List (Command app)
  /-- The number of the next request. -/
  nextNumber : Nat
  tokens : TokenTable
  /-- Hooks of other connections that a token set off here. -/
  signals : List Hook
  /-- The open requests of the peer. -/
  tickets : List Ticket
  nextTicket : TicketNumber
  mailboxes : List (MessageId × Mailbox)
  /-- The fates of notifications that were reported. -/
  receipts : List (Nat × Except Failure Unit)
  nextReceipt : Nat
  memory : app.Memory
  log : List (Occurrence app)

namespace Connection

variable {app : Application} {ω : Type}

/-- A connection over a wire, before anything has happened. -/
def new (wire : ω) (memory : app.Memory) (defaultTimeout : Option Duration) :
    Connection app ω where
  name := 0
  framer := .new wire
  pending := []
  handlers := .empty
  closed := none
  defaultTimeout
  stats := .zero
  running := true
  inbox := []
  nextNumber := 1
  tokens := []
  signals := []
  tickets := []
  nextTicket := 0
  mailboxes := []
  receipts := []
  nextReceipt := 0
  memory
  log := []

/-- Adds to the log. -/
def record (connection : Connection app ω) (occurrence : Occurrence app) : Connection app ω :=
  { connection with log := connection.log ++ [occurrence] }

/-- Appends a command to the inbox. Once the worker has stopped it is lost. -/
def enqueue (connection : Connection app ω) (command : Command app) : Connection app ω :=
  if connection.running then { connection with inbox := connection.inbox ++ [command] }
  else connection

/-- Appends what has come from the wire to the inbox. Without its peer a connection is closed. -/
def accept (connection : Connection app ω) : Arrival → Connection app ω
  | .chunk bytes => connection.enqueue (.received bytes)
  | .lost => connection.enqueue (.order (.close .unavailable))

/-- Takes in what the wire has brought. -/
def takeArrivals [Wire ω] (connection : Connection app ω) : Connection app ω :=
  let (arrivals, wire) := Wire.collect connection.framer.wire
  arrivals.foldl accept { connection with framer := { connection.framer with wire } }

/-- Takes down the number of pending requests. -/
def countPending (connection : Connection app ω) : Connection app ω :=
  { connection with stats := { connection.stats with pending := connection.pending.length } }

/-! ## Requests and notifications -/

/-- The identifier of the request with this number. -/
def numberedId (number : Nat) : MessageId :=
  .number (.ofNat number)

/-- Puts a mailbox up for a request that has one. -/
def openMailbox (id : MessageId) (sink : Sink app) (connection : Connection app ω) :
    Connection app ω :=
  match sink with
  | .mailbox _ => { connection with mailboxes := (id, .waiting) :: connection.mailboxes }
  | .callback _ => connection

/-- Asks for a request to be sent. Nothing happens when its params cannot be encoded or the worker
has stopped; otherwise the request gets the next number. -/
def request (method : String) (params : Params) (options : Options) (sink : Sink app)
    (connection : Connection app ω) : Except Failure MessageId × Connection app ω :=
  match params with
  | .error fault => (.error (.encoding fault), connection)
  | .ok encoded =>
    if connection.running then
      let id := numberedId connection.nextNumber
      let sent := connection.enqueue (.request (.new id method encoded) options sink)
      (.ok id, openMailbox id sink { sent with nextNumber := connection.nextNumber + 1 })
    else (.error .closed, connection)

/-- Asks for a notification to be sent and does not wait for it. -/
def notify (method : String) (params : Params) (connection : Connection app ω) :
    Except Failure Unit × Connection app ω :=
  match params with
  | .error fault => (.error (.encoding fault), connection)
  | .ok encoded =>
    if connection.running then
      (.ok (), connection.enqueue (.notification (.new method encoded) none))
    else (.error .closed, connection)

/-- Asks for a notification to be sent; its fate will be reported under the number that is given
out. -/
def notifyWithReceipt (method : String) (params : Params) (connection : Connection app ω) :
    Except Failure Nat × Connection app ω :=
  match params with
  | .error fault => (.error (.encoding fault), connection)
  | .ok encoded =>
    if connection.running then
      let receipt := connection.nextReceipt
      let sent := connection.enqueue (.notification (.new method encoded) (some receipt))
      (.ok receipt, { sent with nextReceipt := receipt + 1 })
    else (.error .closed, connection)

/-- Reports the fate of a notification. -/
def reportFate (receipt : Option Nat) (fate : Except Failure Unit)
    (connection : Connection app ω) : Connection app ω :=
  match receipt with
  | some number => { connection with receipts := (number, fate) :: connection.receipts }
  | none => connection

/-! ## Mailboxes -/

/-- What is in the mailbox of a request. -/
def mailbox? (id : MessageId) (connection : Connection app ω) : Option Mailbox :=
  connection.mailboxes.lookup id

/-- Changes the content of a mailbox that is still up. -/
def setMailbox (id : MessageId) (content : Mailbox) (connection : Connection app ω) :
    Connection app ω :=
  { connection with
    mailboxes := connection.mailboxes.map fun held =>
      if held.1 = id then (id, content) else held }

/-- Takes a mailbox down. -/
def dropMailbox (id : MessageId) (connection : Connection app ω) : Connection app ω :=
  { connection with mailboxes := connection.mailboxes.filter fun held => held.1 ≠ id }

/-- Puts an outcome into a mailbox that waits for one. -/
def fillMailbox (id : MessageId) (outcome : Except Failure Value)
    (connection : Connection app ω) : Connection app ω :=
  match connection.mailbox? id with
  | some .waiting => connection.setMailbox id (.holding outcome)
  | _ => connection

/-- Looks into a mailbox and takes the outcome, if it is there. A mailbox that will stay empty
says that the connection is closed. -/
def takeOutcome (id : MessageId) (connection : Connection app ω) :
    Option (Except Failure Value) × Connection app ω :=
  match connection.mailbox? id with
  | some .waiting => (none, connection)
  | some (.holding outcome) => (some outcome, connection.setMailbox id .exhausted)
  | some .exhausted | none => (some (.error .closed), connection)

/-! ## Tokens -/

/-- The hook of one of this connection's requests. -/
def hook (id : MessageId) (connection : Connection app ω) : Hook :=
  ⟨connection.name, id⟩

/-- Lets a hook take effect: here it is a cancel command, elsewhere a signal. -/
def setOff (connection : Connection app ω) (hook : Hook) : Connection app ω :=
  if hook.connection = connection.name then connection.enqueue (.order (.cancel hook.id))
  else { connection with signals := connection.signals ++ [hook] }

/-- Triggers a token. -/
def cancelToken (token : Token) (connection : Connection app ω) : Connection app ω :=
  let (hooks, tokens) := connection.tokens.cancel token
  hooks.foldl setOff { connection with tokens }

/-! ## Answers -/

/-- The open request of a number. -/
def ticket? (number : TicketNumber) (connection : Connection app ω) : Option Ticket :=
  connection.tickets.find? fun held => held.number = number

/-- Answers an open request of the peer, which is then no longer open. -/
def settleTicket (ticket : Ticket) (outcome : Except ResponseError Value)
    (connection : Connection app ω) : Connection app ω :=
  { connection with tickets := connection.tickets.filter fun held => held.number ≠ ticket.number }
    |>.enqueue (.reply (.ofOutcome ticket.id outcome))

/-- Answers a request of the peer; says whether it was open. -/
def answer (number : TicketNumber) (outcome : Except ResponseError Value)
    (connection : Connection app ω) : Bool × Connection app ω :=
  match connection.ticket? number with
  | some ticket => (true, connection.settleTicket ticket outcome)
  | none => (false, connection)

/-- The answer to a request that was given up. -/
def unanswered (method : String) : ResponseError :=
  .new .internalError ("request was not answered: " ++ method)

/-- Gives up a request of the peer; says whether it was open. -/
def discard (number : TicketNumber) (connection : Connection app ω) : Bool × Connection app ω :=
  match connection.ticket? number with
  | some ticket => (true, connection.settleTicket ticket (.error (unanswered ticket.method)))
  | none => (false, connection)

/-- Keeps a request of the peer open beyond the end of its handler; says whether it was open. -/
def keep (number : TicketNumber) (connection : Connection app ω) : Bool × Connection app ω :=
  match connection.ticket? number with
  | some _ =>
    (true, { connection with
      tickets := connection.tickets.map fun held =>
        if held.number = number then { held with kept := true } else held })
  | none => (false, connection)

/-- A result that could not be encoded is an error for the peer. -/
def encodedResult : Except Fault Value → Except ResponseError Value
  | .ok value => .ok value
  | .error fault => .error (.new .internalError ("failed to encode result: " ++ fault.message))

end Connection

/-- Runs a reaction. -/
def Reaction.run {app : Application} {ω : Type} :
    Reaction app → Connection app ω → Connection app ω
  | .done, connection => connection
  | .note entry next, connection => next.run (connection.record (.noted entry))
  | .recall next, connection => (next connection.memory).run connection
  | .remember memory next, connection => next.run { connection with memory }
  | .request method params options sink next, connection =>
    let (outcome, sent) := connection.request method params options sink
    (next outcome).run sent
  | .notify method params next, connection =>
    let (outcome, sent) := connection.notify method params
    (next outcome).run sent
  | .order wanted next, connection => next.run (connection.enqueue (.order wanted))
  | .cancelToken token next, connection => next.run (connection.cancelToken token)
  | .answer ticket outcome next, connection =>
    let (wasOpen, answered) := connection.answer ticket outcome
    (next wasOpen).run answered
  | .discard ticket next, connection =>
    let (wasOpen, discarded) := connection.discard ticket
    (next wasOpen).run discarded
  | .keep ticket next, connection =>
    let (wasOpen, kept) := connection.keep ticket
    (next wasOpen).run kept

end RpcEndpoint
