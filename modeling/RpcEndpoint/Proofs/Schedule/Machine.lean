import RpcEndpoint.Proofs.Schedule.Job

/-!
# Schedules

A machine is a connection with what its worker has before it. A schedule says who is next: the
worker with the next job, or another thread with a send, an order, an answer or a token. The
machine also takes down what has come in and what was done, so that runs can be spoken about.
-/

namespace RpcEndpoint

open Json

/-- What other threads do at a connection at one stroke. -/
inductive Act (app : Application) (ω : Type) where
  | request (method : String) (params : Params) (options : Options) (sink : Sink app)
  | notify (method : String) (params : Params)
  | notifyWithReceipt (method : String) (params : Params)
  | order (order : Order app)
  | answer (ticket : TicketNumber) (outcome : Except ResponseError Value)
  | discard (ticket : TicketNumber)
  | takeOutcome (id : MessageId)
  | dropMailbox (id : MessageId)
  /-- The reader of the wire brings something. -/
  | arrive (arrival : Arrival)
  /-- What waits at the wire is taken in. -/
  | gather
  /-- Something happens behind the wire. -/
  | disturb (change : ω → ω)
  /-- Another connection hangs a hook on a token, which may have been triggered. -/
  | attach (token : Token) (hook : Hook)
  | detach (attachment : Attachment)
  | remember (memory : app.Memory)

variable {app : Application} {ω : Type}

/-- A connection after an act of another thread. -/
def Act.apply [Wire ω] (connection : Connection app ω) : Act app ω → Progress app ω
  | .request method params options sink =>
    let (outcome, sent) := connection.request method params options sink
    { jobs := [], connection := sent, accepted := outcome.toOption.toList }
  | .notify method params => { jobs := [], connection := (connection.notify method params).2 }
  | .notifyWithReceipt method params =>
    { jobs := [], connection := (connection.notifyWithReceipt method params).2 }
  | .order wanted => { jobs := [], connection := connection.enqueue (.order wanted) }
  | .answer ticket outcome => { jobs := [], connection := (connection.answer ticket outcome).2 }
  | .discard ticket => { jobs := [], connection := (connection.discard ticket).2 }
  | .takeOutcome id => { jobs := [], connection := (connection.takeOutcome id).2 }
  | .dropMailbox id => { jobs := [], connection := connection.dropMailbox id }
  | .arrive arrival => { jobs := [], connection := connection.accept arrival }
  | .gather => { jobs := [], connection := connection.takeArrivals }
  | .disturb change =>
    { jobs := []
      connection := { connection with
        framer := { connection.framer with wire := change connection.framer.wire } } }
  | .attach token hook =>
    { jobs := []
      connection := { connection with
        tokens := ((connection.tokens.attach? token hook).map (·.2)).getD connection.tokens } }
  | .detach attachment =>
    { jobs := []
      connection := { connection with tokens := connection.tokens.detach attachment } }
  | .remember memory => { jobs := [], connection := { connection with memory } }

/-- A connection in the midst of its work. -/
structure Machine (app : Application) (ω : Type) where
  connection : Connection app ω
  /-- What the worker has before it. Without an agenda it is between two commands. -/
  agenda : List (Job app)
  /-- The hooks of tokens that other threads have triggered, as far as they did not take effect. -/
  flying : List Hook
  now : Instant
  /-- All commands that have come to the inbox. -/
  entered : List (Command app)
  /-- The commands that the worker has taken from the inbox. -/
  taken : List (Command app)
  /-- The identifiers that were given out by sends. -/
  accepted : List MessageId
  history : List (Deed app)

/-- Who is next, and with what. -/
inductive Choice (app : Application) (ω : Type) where
  /-- The worker takes a command. -/
  | take
  /-- The worker wakes up without a command. -/
  | wake
  /-- The worker does the first step of its next job. -/
  | work
  /-- The hooks that the worker lets take effect come in this order. -/
  | reorder (hooks : List Hook)
  | pass (instant : Instant)
  | act (act : Act app ω)
  /-- Another thread triggers a token. -/
  | trigger (token : Token)
  /-- A hook of a token that another thread has triggered takes effect. -/
  | fire (hook : Hook)

namespace Machine

/-- A machine over a fresh connection. -/
def start (wire : ω) (memory : app.Memory) (defaultTimeout : Option Duration) :
    Machine app ω where
  connection := .new wire memory defaultTimeout
  agenda := []
  flying := []
  now := ⟨0⟩
  entered := []
  taken := []
  accepted := []
  history := []

/-- Takes down what progress has brought. -/
def absorb (rest : List (Job app)) (machine : Machine app ω) (progress : Progress app ω) :
    Machine app ω :=
  { machine with
    connection := progress.connection
    agenda := progress.jobs ++ rest
    entered := machine.entered ++
      progress.connection.inbox.drop machine.connection.inbox.length
    accepted := machine.accepted ++ progress.accepted
    history := machine.history ++ progress.deeds }

/-- The machine after a choice. One that is not open changes nothing. -/
def next [Wire ω] (machine : Machine app ω) : Choice app ω → Machine app ω
  | .take =>
    match machine.agenda, machine.connection.running, machine.connection.inbox with
    | [], true, command :: rest =>
      { machine with
        connection := { machine.connection with inbox := rest }
        agenda := [.carryOut command, .sweep]
        taken := machine.taken ++ [command] }
    | _, _, _ => machine
  | .wake =>
    match machine.agenda, machine.connection.running with
    | [], true => { machine with agenda := [.sweep] }
    | _, _ => machine
  | .work =>
    match machine.agenda with
    | job :: rest => machine.absorb rest (job.step machine.now machine.connection)
    | [] => machine
  | .reorder hooks =>
    match machine.agenda with
    | .signal held :: rest =>
      if hooks.isPerm held then { machine with agenda := .signal hooks :: rest } else machine
    | _ => machine
  | .pass instant => { machine with now := machine.now.latest instant }
  | .act act => machine.absorb machine.agenda (act.apply machine.connection)
  | .trigger token =>
    let (hooks, tokens) := machine.connection.tokens.cancel token
    { machine with flying := machine.flying ++ hooks }.absorb machine.agenda
      { jobs := [], connection := { machine.connection with tokens } }
  | .fire hook =>
    if hook ∈ machine.flying then
      { machine with flying := machine.flying.erase hook }.absorb machine.agenda
        { jobs := [], connection := machine.connection.setOff hook }
    else machine

/-- The machine at the end of a schedule. -/
def run [Wire ω] (machine : Machine app ω) (schedule : List (Choice app ω)) : Machine app ω :=
  schedule.foldl next machine

/-- A machine that some schedule reaches from a fresh connection. -/
def Reachable [Wire ω] (machine : Machine app ω) : Prop :=
  ∃ wire memory defaultTimeout schedule,
    machine = (start wire memory defaultTimeout).run schedule

end Machine

end RpcEndpoint
