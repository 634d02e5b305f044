import RpcEndpoint.Display
import RpcEndpoint.Protocol.Methods

/-!
# Scripted callbacks

A script says what its callbacks do by lists of actions. An action becomes a reaction that goes on
with the answer to the action. Scripts know tokens, handles and open requests by names.
-/

namespace RpcEndpoint.Script

open Json Protocol

/-- What a script gets back from an action or a step. -/
inductive Answer where
  | done
  /-- There is nothing of this name. -/
  | absent
  /-- The connection is gone. -/
  | dropped
  | sent
  | cancelled
  | issued (id : MessageId)
  | failed (failure : Failure)
  | badParams (fault : Fault)
  /-- The outcome of a request, if it has one. -/
  | outcome (outcome : Option (Except Failure Value))
  | handle (id : MessageId)
  | ticket (ticket : Ticket)

/-- What a script writes into the log. -/
inductive Note where
  | event (tag : String) (event : Event)
  | notification (tag : String) (notification : IncomingNotification)
  | request (tag : String) (request : IncomingRequest)
  | undecodable (tag : String) (payload : Bytes)
  | typedNotification (tag : String) (params : Value)
  | typedRequest (tag : String) (params : Value)
  /-- The params of the message just noted, read by a schema. -/
  | decoded (params : Except Fault Value)
  | callback (tag : String) (outcome : Except Failure Value)
  | rawCallback (tag : String) (outcome : Except Failure Bytes)
  /-- An action was done, with an answer worth telling. -/
  | did (action : String) (answer : Answer)

/-- What a script remembers. -/
structure Memory where
  /-- The requests of the peer that are kept open. -/
  shelf : List (String × TicketNumber)
  /-- The handles of requests. -/
  handles : List (String × MessageId)
  /-- The names of the tokens, each at the place of its number. -/
  tokens : List String
  /-- The answer to the last action of the script itself. -/
  answer : Answer
  /-- Whether the connection was given up. -/
  dropped : Bool

namespace Memory

def empty : Memory := ⟨[], [], [], .done, false⟩

/-- The token of a name, which is made at its first use. -/
def token (name : String) (memory : Memory) : Token × Memory :=
  match memory.tokens.findIdx? (· = name) with
  | some number => (number, memory)
  | none => (memory.tokens.length, { memory with tokens := memory.tokens ++ [name] })

/-- Puts a request of the peer on the shelf, and gives back the one that it displaces. -/
def shelve (name : String) (ticket : TicketNumber) (memory : Memory) :
    Option TicketNumber × Memory :=
  (memory.shelf.lookup name, { memory with
    shelf := (name, ticket) :: memory.shelf.filter fun held => held.1 ≠ name })

/-- Takes a request of the peer from the shelf. -/
def unshelve (name : String) (memory : Memory) : Option TicketNumber × Memory :=
  (memory.shelf.lookup name, { memory with
    shelf := memory.shelf.filter fun held => held.1 ≠ name })

/-- Stores the handle of a request. -/
def hold (tag : String) (id : MessageId) (memory : Memory) : Memory :=
  { memory with handles := (tag, id) :: memory.handles.filter fun held => held.1 ≠ tag }

/-- Gives up a handle. -/
def release (tag : String) (memory : Memory) : Memory :=
  { memory with handles := memory.handles.filter fun held => held.1 ≠ tag }

end Memory

/-- The application that a script is. -/
abbrev app : Application := ⟨Memory, Note⟩

/-- Who gets the outcome of a request. -/
inductive Mode where
  | handle
  | callback
  | raw
deriving Repr, DecidableEq

/-- A request of a script. -/
structure Sending where
  method : String
  params : Params
  tag : String
  mode : Mode
  /-- The shape of the result. -/
  result : Schema
  timeout : Option Duration
  token : Option String

/-- What becomes of a request of the peer. -/
inductive Disposal where
  | answered (outcome : Except ResponseError Value)
  | discarded

/-- Whom a script listens to. -/
inductive Listener where
  | notification (method : String)
  | request (method : String)
  | anyNotification
  | anyRequest
  | undecodable
  | observer
  | typedNotification (method : NotificationMethod)
  | typedRequest (method : RequestMethod) (outcome : Except ResponseError Value)

/-- The name of the action that begins to listen. -/
def Listener.name : Listener → String
  | .notification _ => "on_notification"
  | .request _ => "on_request"
  | .anyNotification => "on_any_notification"
  | .anyRequest => "on_any_request"
  | .undecodable => "on_undecodable"
  | .observer => "on_event"
  | .typedNotification _ => "on_typed_notification"
  | .typedRequest _ _ => "on_typed_request"

/-- What a script can do, at the top or in a callback. -/
inductive Action where
  | request (sending : Sending) (reaction : List Action)
  | notify (method : String) (params : Params)
  | typedRequest (method : RequestMethod) (params : Value) (tag : String)
      (timeout : Option Duration) (token : Option String)
  | typedNotify (method : NotificationMethod) (params : Value)
  /-- Installs a callback; params are read by the schema, if there is one. -/
  | listen (listener : Listener) (tag : String) (schema : Option Schema) (reaction : List Action)
  | cancel (id : MessageId)
  | cancelToken (token : String)
  | failPending (failure : Failure)
  | close (failure : Failure)
  | resetFramer
  | shutdown
  /-- Copies the connection and drops the copy. -/
  | copyAndDrop
  /-- Ends the request that is being handled, under the name of the action. -/
  | dispose (name : String) (disposal : Disposal)
  | stash (shelf : String)
  /-- Ends a request that is kept open. -/
  | reply (shelf : String) (disposal : Disposal)

/-- The name of an action in the log. -/
def Action.name : Action → String
  | .request _ _ => "request"
  | .notify _ _ => "notify"
  | .typedRequest .. => "typed_request"
  | .typedNotify _ _ => "typed_notify"
  | .listen listener _ _ _ => listener.name
  | .cancel _ => "cancel"
  | .cancelToken _ => "cancel_token"
  | .failPending _ => "fail_pending"
  | .close _ => "close"
  | .resetFramer => "reset_framer"
  | .shutdown => "shutdown"
  | .copyAndDrop => "clone_drop"
  | .dispose name _ => name
  | .stash _ => "stash"
  | .reply _ _ => "reply"

/-- Whether an action still means something when the connection is gone. -/
def Action.outlives : Action → Bool
  | .cancelToken _ | .reply _ _ | .dispose _ _ | .stash _ => true
  | _ => false

/-- The request that is being handled, as long as the actions before have left it there: one that
was put on the shelf is no longer at hand. -/
def Action.leftover (ticket : Option TicketNumber) : Action → Option TicketNumber
  | .stash _ => none
  | _ => ticket

/-! ## Reactions -/

/-- Goes on with the token of a name, if a name is given. -/
def withToken (name : Option String) (next : Option Token → Reaction app) : Reaction app :=
  match name with
  | none => next none
  | some name =>
    .recall fun memory =>
      let (token, known) := memory.token name
      .remember known (next (some token))

/-- Sends a request and stores its handle, if it has one. -/
def send (sending : Sending) (sink : Sink app) (next : Answer → Reaction app) : Reaction app :=
  withToken sending.token fun token =>
    .request sending.method sending.params ⟨sending.timeout, token⟩ sink fun
      | .error failure => next (.failed failure)
      | .ok id =>
        if sending.mode = .handle then
          .recall fun memory => .remember (memory.hold sending.tag id) (next (.issued id))
        else next (.issued id)

/-- Sends a notification. -/
def sendNotification (method : String) (params : Params) (next : Answer → Reaction app) :
    Reaction app :=
  .notify method params fun
    | .error failure => next (.failed failure)
    | .ok () => next .sent

/-- The answer to an action on a request of the peer that may no longer be open. -/
def answerIf (wasOpen : Bool) : Answer :=
  if wasOpen then .done else .absent

/-- Ends a request of the peer. -/
def disposeOf (ticket : TicketNumber) (disposal : Disposal) (next : Answer → Reaction app) :
    Reaction app :=
  match disposal with
  | .answered outcome => .answer ticket outcome fun wasOpen => next (answerIf wasOpen)
  | .discarded => .discard ticket fun wasOpen => next (answerIf wasOpen)

/-- Puts the request that is being handled on the shelf. -/
def shelve (shelf : String) (ticket : TicketNumber) (next : Answer → Reaction app) :
    Reaction app :=
  .keep ticket fun wasOpen =>
    if wasOpen then
      .recall fun memory =>
        let (displaced, shelved) := memory.shelve shelf ticket
        .remember shelved <|
          match displaced with
          | some older => .discard older fun _ => next .done
          | none => next .done
    else next .absent

/-- Ends a request from the shelf. -/
def replyTo (shelf : String) (disposal : Disposal) (next : Answer → Reaction app) :
    Reaction app :=
  .recall fun memory =>
    match memory.unshelve shelf with
    | (some ticket, rest) => .remember rest (disposeOf ticket disposal next)
    | (none, _) => next .absent

/-- Notes what the params are, if a schema is given. -/
def noteParams (schema : Option Schema) (params : Option Value) (next : Reaction app) :
    Reaction app :=
  match schema with
  | some wanted => .note (.decoded (readParams wanted params)) next
  | none => next

/-- Goes on with an action only if the connection is there, unless the action needs none. -/
def whileConnected (action : Action) (next : Answer → Reaction app)
    (perform : (Answer → Reaction app) → Reaction app) : Reaction app :=
  if action.outlives then perform next
  else .recall fun memory => if memory.dropped then next .dropped else perform next

/-- Notes the answer to an action, if there is something to tell. -/
def noteAnswer (name : String) (answer : Answer) (next : Reaction app) : Reaction app :=
  match answer with
  | .done => next
  | told => .note (.did name told) next

mutual

/-- An action as a reaction that goes on with its answer. The ticket is that of the request being
handled. -/
def Action.perform (ticket : Option TicketNumber) :
    Action → (Answer → Reaction app) → Reaction app
  | .request sending reaction, next =>
    match sending.mode with
    | .handle => send sending (.mailbox sending.result) next
    | .callback =>
      send sending (.callback fun outcome =>
        .note (.callback sending.tag (decodeOutcome sending.result outcome))
          (performAll none reaction)) next
    | .raw =>
      send sending (.callback fun outcome =>
        .note (.rawCallback sending.tag outcome) (performAll none reaction)) next
  | .notify method params, next => sendNotification method params next
  | .typedRequest method params tag timeout token, next =>
    match method.params.decode params with
    | .error fault => next (.badParams fault)
    | .ok fitting =>
      send ⟨method.name, encodeParams fitting, tag, .handle, method.result, timeout, token⟩
        (.mailbox method.result) next
  | .typedNotify method params, next =>
    match method.params.decode params with
    | .error fault => next (.badParams fault)
    | .ok fitting => sendNotification method.name (encodeParams fitting) next
  | .listen listener tag schema reaction, next =>
    let onNotification (notification : IncomingNotification) : Reaction app :=
      .note (.notification tag notification)
        (noteParams schema notification.params (performAll none reaction))
    let onRequest (request : IncomingRequest) (ticket : TicketNumber) : Reaction app :=
      .note (.request tag request)
        (noteParams schema request.params (performAll (some ticket) reaction))
    let registration : Registration app :=
      match listener with
      | .notification method => .notification method onNotification
      | .request method => .request method onRequest
      | .anyNotification => .anyNotification onNotification
      | .anyRequest => .anyRequest onRequest
      | .undecodable => .undecodable fun payload =>
        .note (.undecodable tag payload) (performAll none reaction)
      | .observer => .observer fun event => .note (.event tag event) (performAll none reaction)
      | .typedNotification method => method.handler fun params =>
        .note (.typedNotification tag params) (performAll none reaction)
      | .typedRequest method outcome => method.handler fun params ticket =>
        .note (.typedRequest tag params)
          (performThen none reaction (.answer ticket outcome fun _ => .done))
    .order (.register registration) (next .done)
  | .cancel id, next => .order (.cancel id) (next .done)
  | .cancelToken name, next =>
    withToken (some name) fun
      | some token => .cancelToken token (next .cancelled)
      | none => next .cancelled
  | .failPending failure, next => .order (.failPending failure) (next .done)
  | .close failure, next => .order (.close failure) (next .done)
  | .resetFramer, next => .order .resetFramer (next .done)
  | .shutdown, next => .order .shutdown (next .done)
  | .copyAndDrop, next => next .done
  | .dispose _ disposal, next =>
    match ticket with
    | some number => disposeOf number disposal next
    | none => next .absent
  | .stash shelf, next =>
    match ticket with
    | some number => shelve shelf number next
    | none => next .absent
  | .reply shelf disposal, next => replyTo shelf disposal next

/-- The actions of a callback in their order. -/
def performAll (ticket : Option TicketNumber) : List Action → Reaction app
  | [] => .done
  | action :: rest =>
    whileConnected action
      (fun answer => noteAnswer action.name answer (performAll (action.leftover ticket) rest))
      fun next => action.perform ticket next

/-- The actions of a callback in their order, and then something else. -/
def performThen (ticket : Option TicketNumber) :
    List Action → Reaction app → Reaction app
  | [], last => last
  | action :: rest, last =>
    whileConnected action
      (fun answer => noteAnswer action.name answer (performThen (action.leftover ticket) rest last))
      fun next => action.perform ticket next

end

end RpcEndpoint.Script
