import RpcEndpoint.Proofs.Link.Steady

/-!
# The side that answers

The callbacks of a machine answer every request of the peer by one function of its method and its
params. As long as nothing but requests comes in, the replies of the machine are those of the
requests that were routed, in the same order.
-/

namespace RpcEndpoint

open Connection
open Json (Value)

variable {app : Application} {ρ : Type}

/-! ## Callbacks that answer -/

/-- A reaction that touches nothing but its memory and its notes. -/
inductive Reaction.Silent : Reaction app → Prop
  | done : Silent .done
  | note {entry : app.Note} {next : Reaction app} (later : Silent next) :
      Silent (.note entry next)
  | recall {next : app.Memory → Reaction app} (later : ∀ memory, Silent (next memory)) :
      Silent (.recall next)
  | remember {memory : app.Memory} {next : Reaction app} (later : Silent next) :
      Silent (.remember memory next)

/-- A reaction that answers one request of the peer and is silent otherwise. -/
inductive Reaction.Replies (ticket : TicketNumber) (outcome : Except ResponseError Value) :
    Reaction app → Prop
  | note {entry : app.Note} {next : Reaction app} (later : Replies ticket outcome next) :
      Replies ticket outcome (.note entry next)
  | recall {next : app.Memory → Reaction app}
      (later : ∀ memory, Replies ticket outcome (next memory)) :
      Replies ticket outcome (.recall next)
  | remember {memory : app.Memory} {next : Reaction app} (later : Replies ticket outcome next) :
      Replies ticket outcome (.remember memory next)
  | answer {next : Bool → Reaction app} (later : ∀ wasOpen, (next wasOpen).Silent) :
      Replies ticket outcome (.answer ticket outcome next)

/-- What a peer computes: an outcome for every method and all params. -/
abbrev Service := String → Option Value → Except ResponseError Value

/-- The reply that a request of the peer has to come to. -/
def Service.reply (service : Service) (request : IncomingRequest) : Response :=
  .ofOutcome request.id (service request.method request.params)

/-- The replies that routed payloads have to come to. -/
def Service.replies (service : Service) (payloads : List Bytes) : List Response :=
  (payloads.filterMap inquiry?).map service.reply

/-- These callbacks answer every request by the service. Without a callback, the service must be
what the peer is told then. -/
structure Handlers.Provide (service : Service) (handlers : Handlers app) : Prop where
  handled : ∀ {method : String} {react : IncomingRequest → TicketNumber → Reaction app},
    handlers.forRequest method = some react →
      ∀ request number, request.method = method →
        (react request number).Replies number (service method request.params)
  unhandled : ∀ {method : String}, handlers.forRequest method = none →
    ∀ params, service method params = .error (.methodNotFound method)

namespace Handlers

/-- Callbacks that answer these methods by the service at once. -/
def serving (service : Service) (methods : List String) : Handlers app :=
  { Handlers.empty with
    requests := methods.map fun method => (method, fun request number =>
      .answer number (service request.method request.params) fun _ => .done) }

private theorem forRequest_serving (service : Service) (methods : List String) (method : String) :
    (serving service methods : Handlers app).forRequest method =
      if method ∈ methods then
        some fun request number =>
          .answer number (service request.method request.params) fun _ => .done
      else none := by
  rw [forRequest, serving]
  dsimp only [Handlers.empty]
  rw [Option.or_none]
  induction methods with
  | nil => rfl
  | cons first later inductionHypothesis =>
      rw [List.map_cons, List.lookup_cons, inductionHypothesis]
      by_cases isFirst : method = first
      · simp [isFirst]
      · simp [isFirst, beq_eq_false_iff_ne.mpr isFirst]

theorem provide_serving
    {service : Service} {methods : List String}
    (others : ∀ method ∉ methods, ∀ params,
      service method params = .error (.methodNotFound method)) :
    (serving service methods : Handlers app).Provide service where
  handled := by
    intro method react isHandled request number isMethod
    rw [forRequest_serving] at isHandled
    split at isHandled
    · cases isHandled
      rw [← isMethod]
      exact .answer fun _ => .done
    · contradiction
  unhandled := by
    intro method isUnhandled
    rw [forRequest_serving] at isUnhandled
    split at isUnhandled
    · contradiction
    · exact others method ‹_›

end Handlers

/-! ## What lies before the worker -/

/-- A command that writes a reply or brings a chunk. -/
inductive Command.Passive : Command app → Prop
  | reply (response : Response) : Passive (.reply response)
  | received (chunk : Bytes) : Passive (.received chunk)

/-- The open tickets, the agenda and the replies that are due fit together: a callback has been
called for a request and will answer it, or it has answered, or there is none. -/
inductive OnDuty (service : Service) :
    List Ticket → List (Job app) → List Response → Prop
  | free {agenda : List (Job app)} (later : ∀ job ∈ agenda, job.Later) :
      OnDuty service [] agenda []
  | begun {command : Command app} {rest : List (Job app)}
      (passive : command.Passive) (later : ∀ job ∈ rest, job.Later) :
      OnDuty service [] (.carryOut command :: rest) []
  | called {request : IncomingRequest} {number : TicketNumber} {reaction : Reaction app}
      {rest : List (Job app)}
      (replies : reaction.Replies number (service request.method request.params))
      (later : ∀ job ∈ rest, job.Later) :
      OnDuty service [⟨number, request.id, request.method, false⟩]
        (.react reaction :: .release number :: rest) [service.reply request]
  | answered {number : TicketNumber} {reaction : Reaction app} {rest : List (Job app)}
      (silent : reaction.Silent) (later : ∀ job ∈ rest, job.Later) :
      OnDuty service [] (.react reaction :: .release number :: rest) []
  | ended {number : TicketNumber} {rest : List (Job app)} (later : ∀ job ∈ rest, job.Later) :
      OnDuty service [] (.release number :: rest) []

/-- A machine that does nothing but answer, with the replies that are still due for the requests
that it has routed. -/
structure AnswersOnly (service : Service) (due : List Response)
    (machine : Machine app (MemoryWire ρ)) : Prop where
  steadily : Steadily machine
  provided : machine.connection.handlers.Provide service
  noRequests : machine.connection.pending = []
  passive : ∀ command ∈ machine.entered, command.Passive
  duty : OnDuty service machine.connection.tickets machine.agenda due
  replies : repliesIn machine.entered ++ due = service.replies (routedIn machine.history)

/-- A machine goes on doing nothing but answer, and nothing comes to it. -/
def AnswersOn (service : Service) (before after : Machine app (MemoryWire ρ)) : Prop :=
  ∃ due, AnswersOnly service due after ∧ GoesOn [] before after

namespace AnswersOnly

variable {service : Service} {due : List Response} {machine : Machine app (MemoryWire ρ)}

/-- What takes the place of the first jobs answers what is due with them. -/
private theorem absorb
    (answers : AnswersOnly service due machine) (first : List (Job app))
    {rest : List (Job app)} (agenda : machine.agenda = first ++ rest)
    {progress : Progress app (MemoryWire ρ)}
    (commands : List (Command app)) {later : List Response}
    (steady : progress.connection.Steady)
    (handlers : progress.connection.handlers = machine.connection.handlers)
    (pending : progress.connection.pending = machine.connection.pending)
    (inbox : progress.connection.inbox = machine.connection.inbox ++ commands)
    (passive : ∀ command ∈ commands, command.Passive)
    (frames :
      progress.connection.framer.wire.writes ++
          (outgoingOf progress.jobs).map Outgoing.frame =
        machine.connection.framer.wire.writes ++ (outgoingOf first).map Outgoing.frame)
    (writes : machine.connection.framer.wire.writes <+:
      progress.connection.framer.wire.writes)
    (duty : OnDuty service progress.connection.tickets (progress.jobs ++ rest) later)
    (replies : repliesIn commands ++ later = due ++ service.replies (routedIn progress.deeds)) :
    AnswersOnly service later (machine.absorb rest progress) ∧
      GoesOn (chunksIn commands) machine (machine.absorb rest progress) := by
  have entered : (machine.absorb rest progress).entered = machine.entered ++ commands := by
    rw [Machine.absorb, inbox, List.drop_left]
  refine ⟨⟨answers.steadily.absorb agenda steady frames, ?_, pending.trans answers.noRequests,
    ?_, duty, ?_⟩, goesOn_absorb inbox writes rest⟩
  · change progress.connection.handlers.Provide service
    rw [handlers]
    exact answers.provided
  · intro command isEntered
    rw [entered] at isEntered
    exact (List.mem_append.mp isEntered).elim (answers.passive command) (passive command)
  · change _ = service.replies (routedIn (machine.history ++ progress.deeds))
    have before := answers.replies
    rw [entered, repliesIn_append, List.append_assoc, replies, ← List.append_assoc, before,
      routedIn, routedIn, routedIn, Service.replies, Service.replies, Service.replies,
      List.filterMap_append, List.filterMap_append, List.map_append]

/-! ## Steps of the worker -/

variable {rest : List (Job app)}

/-- A step that writes nothing and answers nothing. -/
private theorem quietly
    (answers : AnswersOnly service due machine) {job : Job app}
    (agenda : machine.agenda = job :: rest) (noMessage : job.outgoing? = none)
    {jobs : List (Job app)} {after : Connection app (MemoryWire ρ)}
    (steady : after.Steady)
    (handlers : after.handlers = machine.connection.handlers)
    (pending : after.pending = machine.connection.pending)
    (inbox : after.inbox = machine.connection.inbox)
    (writes : after.framer.wire.writes = machine.connection.framer.wire.writes)
    (noMessages : outgoingOf jobs = [])
    (duty : OnDuty service after.tickets (jobs ++ rest) due) :
    AnswersOn service machine (machine.absorb rest { jobs, connection := after }) := by
  refine ⟨due, answers.absorb [job] agenda [] steady handlers pending
    (inbox.trans (List.append_nil _).symm) (by simp) ?_ ?_ duty (List.append_nil _).symm⟩
  · have noneFirst : outgoingOf [job] = [] := List.filterMap_cons_none noMessage
    change after.framer.wire.writes ++ (outgoingOf jobs).map Outgoing.frame = _
    rw [noMessages, noneFirst, writes]
  · exact writes ▸ List.prefix_rfl

private theorem work_reply
    (answers : AnswersOnly service [] machine) (noTickets : machine.connection.tickets = [])
    {response : Response} (agenda : machine.agenda = .carryOut (.reply response) :: rest)
    (later : ∀ job ∈ rest, job.Later) :
    AnswersOn service machine
      (machine.absorb rest
        { jobs := [], connection := machine.connection.writeReply response }) := by
  have steady := answers.steadily.steady
  have written : machine.connection.writeReply response =
      machine.connection.passOn (Framing.encodeFrame response.toValue.encode) := by
    rw [writeReply, steady.transmit_eq]
  rw [written]
  refine ⟨[], answers.absorb [.carryOut (.reply response)] agenda [] (steady.passOn _)
    rfl rfl (List.append_nil _).symm (by simp) (List.append_nil _) (List.prefix_append _ _) ?_ rfl⟩
  change OnDuty service machine.connection.tickets rest []
  rw [noTickets]
  exact .free later

private theorem work_received
    (answers : AnswersOnly service [] machine) (noTickets : machine.connection.tickets = [])
    {chunk : Bytes} (agenda : machine.agenda = .carryOut (.received chunk) :: rest)
    (later : ∀ job ∈ rest, job.Later)
    (faultless : (machine.connection.framer.decoder.push chunk).1.fault = none) :
    AnswersOn service machine (machine.absorb rest (machine.connection.split chunk)) := by
  rw [split_eq faultless]
  refine answers.quietly agenda rfl { answers.steadily.steady with } rfl rfl rfl rfl
    (outgoingOf_route _) ?_
  change OnDuty service machine.connection.tickets _ []
  rw [noTickets]
  exact .free (later_route later)

private theorem work_sweep
    (answers : AnswersOnly service [] machine) (noTickets : machine.connection.tickets = [])
    (agenda : machine.agenda = .sweep :: rest) (later : ∀ job ∈ rest, job.Later) :
    AnswersOn service machine
      (machine.absorb rest (Job.sweep.step machine.now machine.connection)) := by
  have patient : ∀ entry ∈ machine.connection.pending, entry.deadline = none := by
    simp [answers.noRequests]
  rw [sweep_eq patient]
  refine answers.quietly agenda rfl answers.steadily.steady rfl rfl rfl rfl rfl ?_
  rw [noTickets]
  exact .free later

/-- The reply to the only open request comes to the inbox. -/
private theorem settleTicket_eq
    {connection : Connection app (MemoryWire ρ)} (steady : connection.Steady) {ticket : Ticket}
    (tickets : connection.tickets = [ticket]) (outcome : Except ResponseError Value) :
    connection.settleTicket ticket outcome =
      { connection with
        tickets := []
        inbox := connection.inbox ++ [.reply (.ofOutcome ticket.id outcome)] } := by
  have noneLeft : connection.tickets.filter (fun held => held.number ≠ ticket.number) = [] := by
    rw [tickets]
    simp
  rw [settleTicket, noneLeft]
  exact if_pos steady.running

private theorem work_route
    (answers : AnswersOnly service [] machine) (noTickets : machine.connection.tickets = [])
    {payload : Bytes} (agenda : machine.agenda = .route payload :: rest)
    (later : ∀ job ∈ rest, job.Later) {request : Request}
    (isRequest : Incoming.classify payload = .request request) :
    AnswersOn service machine (machine.absorb rest (machine.connection.sort payload)) := by
  let asked : IncomingRequest := ⟨request.id, request.method, request.params, payload⟩
  let counted := { machine.connection with
    stats := { machine.connection.stats with
      incomingRequests := machine.connection.stats.incomingRequests + 1 } }
  let opened := (counted.openTicket asked).2
  let number := machine.connection.nextTicket
  let ticket : Ticket := ⟨number, request.id, request.method, false⟩
  have openedSteady : opened.Steady := { answers.steadily.steady with }
  have tickets : opened.tickets = [ticket] := congrArg (List.cons ticket) noTickets
  have isAsked : inquiry? payload = some asked := by
    rw [inquiry?, isRequest]
  have isDue : service.replies [payload] = [service.reply asked] := by
    rw [Service.replies, List.filterMap_cons_some isAsked]
    rfl
  have sorted : machine.connection.sort payload =
      { machine.connection.consider asked with
        deeds := [.routed payload (machine.connection.pending.map (·.id))] } := by
    rw [sort, isRequest]
  rw [sorted]
  cases handler : machine.connection.handlers.forRequest request.method with
  | some react =>
      have called : machine.connection.consider asked =
          { jobs := [.react (react asked number), .release number]
            connection := opened.record (.asked asked) } := by
        rw [consider]
        simp only [handler, asked]
        rfl
      rw [called]
      refine ⟨[service.reply asked], answers.absorb [.route payload] agenda []
        { openedSteady with } rfl rfl (List.append_nil _).symm (by simp) rfl List.prefix_rfl ?_
        isDue.symm⟩
      change OnDuty service opened.tickets (.react _ :: .release _ :: rest) _
      rw [tickets]
      exact .called (answers.provided.handled handler asked number rfl) later
  | none =>
      have answered := answer_openTicket asked (.error (.methodNotFound request.method)) counted
      have turnedAway : machine.connection.consider asked =
          { jobs := []
            connection :=
              opened.settleTicket ticket (.error (.methodNotFound request.method)) } := by
        rw [consider]
        simp only [handler, asked]
        rw [← answered]
        rfl
      have reply : service.reply asked =
          .ofOutcome request.id (.error (.methodNotFound request.method)) := by
        rw [Service.reply, answers.provided.unhandled handler]
      rw [turnedAway, settleTicket_eq openedSteady tickets]
      refine ⟨[], answers.absorb [.route payload] agenda
        [.reply (service.reply asked)] { openedSteady with } rfl rfl ?_ ?_ rfl List.prefix_rfl
        (.free later) isDue.symm⟩
      · rw [reply]
        rfl
      · intro command isReply
        rw [List.mem_singleton.mp isReply]
        exact .reply _

private theorem work_replies
    {number : TicketNumber} {request : IncomingRequest} {reaction : Reaction app}
    (answers : AnswersOnly service [service.reply request] machine)
    (tickets : machine.connection.tickets = [⟨number, request.id, request.method, false⟩])
    (agenda : machine.agenda = .react reaction :: .release number :: rest)
    (replies : reaction.Replies number (service request.method request.params))
    (later : ∀ job ∈ rest, job.Later) :
    AnswersOn service machine
      (machine.absorb (.release number :: rest) (reaction.advance machine.connection)) := by
  have steady := answers.steadily.steady
  have called {next : Reaction app}
      (replies : next.Replies number (service request.method request.params)) :
      OnDuty service machine.connection.tickets (.react next :: .release number :: rest)
        [service.reply request] := by
    rw [tickets]
    exact .called replies later
  cases replies with
  | note laterReplies =>
      exact answers.quietly agenda rfl { steady with } rfl rfl rfl rfl rfl (called laterReplies)
  | «recall» laterReplies =>
      exact answers.quietly agenda rfl steady rfl rfl rfl rfl rfl (called (laterReplies _))
  | remember laterReplies =>
      exact answers.quietly agenda rfl { steady with } rfl rfl rfl rfl rfl (called laterReplies)
  | @answer next silent =>
      have found : machine.connection.ticket? number =
          some ⟨number, request.id, request.method, false⟩ := by
        rw [ticket?, tickets]
        exact List.find?_cons_of_pos (decide_eq_true rfl)
      have advanced :
          (Reaction.answer number (service request.method request.params) next).advance
              machine.connection =
            { jobs := [.react (next true)]
              connection := { machine.connection with
                tickets := []
                inbox := machine.connection.inbox ++ [.reply (service.reply request)] } } := by
        rw [Reaction.advance, answer, found]
        simp only [settleTicket_eq steady tickets]
        rfl
      rw [advanced]
      refine ⟨[], answers.absorb [.react _] agenda [.reply (service.reply request)]
        { steady with } rfl rfl rfl ?_ rfl List.prefix_rfl (.answered (silent true) later) rfl⟩
      intro command isReply
      rw [List.mem_singleton.mp isReply]
      exact .reply _

private theorem work_silent
    (answers : AnswersOnly service [] machine) (noTickets : machine.connection.tickets = [])
    {number : TicketNumber} {reaction : Reaction app}
    (agenda : machine.agenda = .react reaction :: .release number :: rest)
    (silent : reaction.Silent) (later : ∀ job ∈ rest, job.Later) :
    AnswersOn service machine
      (machine.absorb (.release number :: rest) (reaction.advance machine.connection)) := by
  have steady := answers.steadily.steady
  have answered {next : Reaction app} (silent : next.Silent) :
      OnDuty service machine.connection.tickets (.react next :: .release number :: rest) [] := by
    rw [noTickets]
    exact .answered silent later
  have ended : OnDuty service machine.connection.tickets (.release number :: rest) [] := by
    rw [noTickets]
    exact .ended later
  cases silent with
  | done =>
      exact answers.quietly agenda rfl steady rfl rfl rfl rfl rfl ended
  | note laterSilent =>
      exact answers.quietly agenda rfl { steady with } rfl rfl rfl rfl rfl (answered laterSilent)
  | «recall» laterSilent =>
      exact answers.quietly agenda rfl steady rfl rfl rfl rfl rfl (answered (laterSilent _))
  | remember laterSilent =>
      exact answers.quietly agenda rfl { steady with } rfl rfl rfl rfl rfl (answered laterSilent)

private theorem work_release
    (answers : AnswersOnly service [] machine) (noTickets : machine.connection.tickets = [])
    {number : TicketNumber} (agenda : machine.agenda = .release number :: rest)
    (later : ∀ job ∈ rest, job.Later) :
    AnswersOn service machine
      (machine.absorb rest
        { jobs := [], connection := machine.connection.releaseTicket number }) := by
  have nothing : machine.connection.releaseTicket number = machine.connection := by
    rw [releaseTicket, ticket?, noTickets]
    rfl
  rw [nothing]
  refine answers.quietly agenda rfl answers.steadily.steady rfl rfl rfl rfl rfl ?_
  rw [noTickets]
  exact .free later

private theorem work
    (answers : AnswersOnly service due machine) {payloads : List Bytes}
    (hears : Hears payloads machine)
    (requests : ∀ payload ∈ payloads, ∃ request, Incoming.classify payload = .request request) :
    AnswersOn service machine (machine.next .work) := by
  cases agenda : machine.agenda with
  | nil =>
      rw [Machine.next, agenda]
      exact ⟨due, answers, .still rfl rfl⟩
  | cons job rest =>
      rw [Machine.next, agenda]
      have duty := answers.duty
      rw [agenda] at duty
      generalize isTickets : machine.connection.tickets = tickets at duty
      cases duty with
      | free later =>
          have restLater : ∀ next ∈ rest, next.Later :=
            fun next isNext => later next (List.mem_cons_of_mem job isNext)
          cases later job List.mem_cons_self with
          | route payload =>
              have isNext : payload ∈ payloads :=
                (hears.route_prefix agenda).subset (List.mem_append_right _ List.mem_cons_self)
              obtain ⟨request, isRequest⟩ := requests payload isNext
              exact answers.work_route isTickets agenda restLater isRequest
          | sweep =>
              exact answers.work_sweep isTickets agenda restLater
      | begun passive later =>
          cases passive with
          | reply response =>
              exact answers.work_reply isTickets agenda later
          | received chunk =>
              exact answers.work_received isTickets agenda later
                (hears.fault_eq_none agenda later)
      | called replies later =>
          exact answers.work_replies isTickets agenda replies later
      | answered silent later =>
          exact answers.work_silent isTickets agenda silent later
      | ended later =>
          exact answers.work_release isTickets agenda later

private theorem take
    (answers : AnswersOnly service due machine)
    (taken : machine.entered = machine.taken ++ machine.connection.inbox) :
    AnswersOn service machine (machine.next .take) := by
  rw [Machine.next]
  split
  · rename_i command waiting idle isRunning inbox
    have duty := answers.duty
    rw [idle] at duty
    generalize isTickets : machine.connection.tickets = tickets at duty
    cases duty with
    | free later =>
        refine ⟨[], ⟨answers.steadily.taken idle waiting, answers.provided, answers.noRequests,
          answers.passive, ?_, answers.replies⟩, .still rfl rfl⟩
        have isEntered : command ∈ machine.entered := by
          rw [taken, inbox]
          exact List.mem_append_right _ List.mem_cons_self
        change OnDuty service machine.connection.tickets [.carryOut command, .sweep] []
        rw [isTickets]
        exact .begun (answers.passive command isEntered) later_sweep
  · exact ⟨due, answers, .still rfl rfl⟩

private theorem wake (answers : AnswersOnly service due machine) :
    AnswersOn service machine (machine.next .wake) := by
  rw [Machine.next]
  split
  · rename_i idle isRunning
    have duty := answers.duty
    rw [idle] at duty
    generalize isTickets : machine.connection.tickets = tickets at duty
    cases duty with
    | free later =>
        refine ⟨[], ⟨answers.steadily.woken idle, answers.provided, answers.noRequests,
          answers.passive, ?_, answers.replies⟩, .still rfl rfl⟩
        change OnDuty service machine.connection.tickets [.sweep] []
        rw [isTickets]
        exact .free later_sweep
  · exact ⟨due, answers, .still rfl rfl⟩

/-! ## All steps -/

theorem equipped
    (memory : app.Memory) {handlers : Handlers app} (provided : handlers.Provide service) :
    AnswersOnly service [] (Machine.equipped (.new : MemoryWire ρ) memory handlers) :=
  ⟨.equipped memory handlers, provided, rfl, fun _ isEntered => absurd isEntered List.not_mem_nil,
    .free fun _ isJob => absurd isJob List.not_mem_nil, rfl⟩

/-- The worker goes on answering, as long as only requests come in. -/
theorem next
    (answers : AnswersOnly service due machine) {payloads : List Bytes}
    (hears : Hears payloads machine)
    (requests : ∀ payload ∈ payloads, ∃ request, Incoming.classify payload = .request request)
    (stride : Stride) :
    AnswersOn service machine (machine.next stride.choice) := by
  cases stride with
  | take =>
      exact answers.take hears.taken
  | wake =>
      exact answers.wake
  | work =>
      exact answers.work hears requests
  | pass instant =>
      exact ⟨due, ⟨⟨answers.steadily.steady, answers.steadily.frames⟩, answers.provided,
        answers.noRequests, answers.passive, answers.duty, answers.replies⟩, .still rfl rfl⟩

/-- A chunk comes in. -/
theorem arrive (answers : AnswersOnly service due machine) (chunk : Bytes) :
    AnswersOnly service due (machine.next (.act (.arrive (.chunk chunk)))) ∧
      GoesOn [chunk] machine (machine.next (.act (.arrive (.chunk chunk)))) := by
  have steady := answers.steadily.steady
  have accepted : machine.connection.accept (.chunk chunk) =
      { machine.connection with inbox := machine.connection.inbox ++ [.received chunk] } :=
    steady.enqueue_eq _
  rw [Machine.next, Act.apply, accepted]
  refine answers.absorb [] rfl [.received chunk] { steady with } rfl rfl rfl ?_ rfl
    List.prefix_rfl answers.duty (List.append_nil _).symm
  intro command isChunk
  rw [List.mem_singleton.mp isChunk]
  exact .received chunk

end AnswersOnly

end RpcEndpoint
