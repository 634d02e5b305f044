import RpcEndpoint.Connection.Token
import RpcEndpoint.Failure
import RpcEndpoint.Framing.Header
import RpcEndpoint.Message.Incoming

/-!
# Callbacks

What observers are told, what a callback does, and which callbacks are installed.
-/

namespace RpcEndpoint

/-! ## What observers see

Events that do no harm to a connection, and the counts that it keeps. -/

/-- What observers are told. -/
inductive Event where
  | unmatchedResponse (id : MessageId)
  | undecodablePayload (length : Nat) (reason : Unrecognized)
  | malformedHeader (fault : Framing.HeaderFault)
  | unhandledNotification (method : String)
  | requestTimedOut (id : MessageId) (method : String)
  | requestCancelled (id : MessageId) (method : String)

/-- What a connection counts. -/
structure Stats where
  requestsSent : Nat
  notificationsSent : Nat
  responsesMatched : Nat
  unmatchedResponses : Nat
  incomingNotifications : Nat
  incomingRequests : Nat
  undecodablePayloads : Nat
  malformedHeaders : Nat
  /-- The number of pending requests when it was last taken down. -/
  pending : Nat
deriving Repr, DecidableEq

namespace Stats

def zero : Stats := ⟨0, 0, 0, 0, 0, 0, 0, 0, 0⟩

/-- Counts an event. Those that end a request or that nobody handles are not counted. -/
def count (stats : Stats) : Event → Stats
  | .unmatchedResponse _ => { stats with unmatchedResponses := stats.unmatchedResponses + 1 }
  | .undecodablePayload _ _ => { stats with undecodablePayloads := stats.undecodablePayloads + 1 }
  | .malformedHeader _ => { stats with malformedHeaders := stats.malformedHeaders + 1 }
  | .unhandledNotification _ | .requestTimedOut _ _ | .requestCancelled _ _ => stats

/-- The counts in the order of their declaration. -/
def toList (stats : Stats) : List Nat :=
  [stats.requestsSent, stats.notificationsSent, stats.responsesMatched, stats.unmatchedResponses,
    stats.incomingNotifications, stats.incomingRequests, stats.undecodablePayloads,
    stats.malformedHeaders, stats.pending]

end Stats

/-! ## What callbacks do

A callback is a reaction: a tree of steps on the connection that runs it, each of which may depend
on the answers to the steps before. Reactions share the memory of their application and leave notes
in the log of the connection. -/

open Json

/-- The application around a connection. -/
structure Application where
  /-- What its callbacks remember. -/
  Memory : Type
  /-- What its callbacks write down. -/
  Note : Type

/-- How a request is treated. -/
structure Options where
  /-- The limit of the request; without one the limit of the connection holds. -/
  timeout : Option Duration
  /-- What cancels the request. -/
  token : Option Token

/-- No limit and no token. -/
def Options.none : Options := ⟨.none, .none⟩

/-- Params in their JSON form, or why they have none. -/
abbrev Params := Except Fault (Option Value)

/-- Null params are left out. -/
def Params.ofValue (value : Value) : Params :=
  .ok (if value.isNull then none else some value)

/-- A notification from the peer, with its payload. -/
structure IncomingNotification where
  method : String
  params : Option Value
  payload : Bytes

/-- A request from the peer, with its payload. -/
structure IncomingRequest where
  id : MessageId
  method : String
  params : Option Value
  payload : Bytes

/-- The right to answer one request of the peer, known by its number. -/
abbrev TicketNumber := Nat

mutual

/-- What a callback does, step by step. -/
inductive Reaction (app : Application) where
  | done
  /-- Leaves a note in the log. -/
  | note (note : app.Note) (next : Reaction app)
  | recall (next : app.Memory → Reaction app)
  | remember (memory : app.Memory) (next : Reaction app)
  | request (method : String) (params : Params) (options : Options) (sink : Sink app)
      (next : Except Failure MessageId → Reaction app)
  | notify (method : String) (params : Params) (next : Except Failure Unit → Reaction app)
  | order (order : Order app) (next : Reaction app)
  | cancelToken (token : Token) (next : Reaction app)
  /-- Answers a request of the peer; says whether that was still possible. -/
  | answer (ticket : TicketNumber) (outcome : Except ResponseError Value)
      (next : Bool → Reaction app)
  /-- Gives up a request of the peer; says whether it was still open. -/
  | discard (ticket : TicketNumber) (next : Bool → Reaction app)
  /-- Keeps a request of the peer open beyond the end of its handler. -/
  | keep (ticket : TicketNumber) (next : Bool → Reaction app)

/-- Where the outcome of a request goes. -/
inductive Sink (app : Application) where
  /-- To the mailbox of the request, read by a schema. -/
  | mailbox (schema : Schema)
  /-- To a callback, as it is. -/
  | callback (react : Except Failure Bytes → Reaction app)

/-- What can be asked of a connection without an answer. -/
inductive Order (app : Application) where
  | register (registration : Registration app)
  | cancel (id : MessageId)
  | failPending (failure : Failure)
  | close (failure : Failure)
  | resetFramer
  | shutdown

/-- A callback to be installed. -/
inductive Registration (app : Application) where
  | notification (method : String) (react : IncomingNotification → Reaction app)
  | request (method : String) (react : IncomingRequest → TicketNumber → Reaction app)
  | anyNotification (react : IncomingNotification → Reaction app)
  | anyRequest (react : IncomingRequest → TicketNumber → Reaction app)
  | undecodable (react : Bytes → Reaction app)
  | observer (react : Event → Reaction app)

end

/-- What the owner of a request asked for, read from the outcome on the wire. -/
def decodeOutcome (schema : Schema) (outcome : Except Failure Bytes) : Except Failure Value := do
  let payload ← outcome
  let response : Response ←
    (Interpretation.parse payload).mapError fun fault => .decoding fault.message
  let value ← response.outcome.mapError .server
  (schema.decode value).mapError fun fault => .decoding fault.message

/-- The params of a message from the peer, read by a schema; absent params are null. -/
def readParams (schema : Schema) (params : Option Value) : Except Fault Value :=
  schema.decode (params.getD .null)

/-! ## Installed callbacks

The handler of a method comes before the handler of all methods, and a later registration takes the
place of an earlier one. Observers add up. -/

/-- The callbacks of a connection. -/
structure Handlers (app : Application) where
  notifications : List (String × (IncomingNotification → Reaction app))
  requests : List (String × (IncomingRequest → TicketNumber → Reaction app))
  anyNotification : Option (IncomingNotification → Reaction app)
  anyRequest : Option (IncomingRequest → TicketNumber → Reaction app)
  undecodable : Option (Bytes → Reaction app)
  /-- In the order of their registration. -/
  observers : List (Event → Reaction app)

namespace Handlers

variable {app : Application}

def empty : Handlers app := ⟨[], [], none, none, none, []⟩

/-- Installs a callback. -/
def register (handlers : Handlers app) : Registration app → Handlers app
  | .notification method react =>
    { handlers with notifications := (method, react) :: handlers.notifications }
  | .request method react => { handlers with requests := (method, react) :: handlers.requests }
  | .anyNotification react => { handlers with anyNotification := some react }
  | .anyRequest react => { handlers with anyRequest := some react }
  | .undecodable react => { handlers with undecodable := some react }
  | .observer react => { handlers with observers := handlers.observers ++ [react] }

/-- The handler for a notification of this method. -/
def forNotification (method : String) (handlers : Handlers app) :
    Option (IncomingNotification → Reaction app) :=
  (handlers.notifications.lookup method).or handlers.anyNotification

/-- The handler for a request of this method. -/
def forRequest (method : String) (handlers : Handlers app) :
    Option (IncomingRequest → TicketNumber → Reaction app) :=
  (handlers.requests.lookup method).or handlers.anyRequest

end Handlers

end RpcEndpoint
