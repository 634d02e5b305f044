import RpcEndpoint.Proofs.Replies.Service

/-!
# Terms and output

Most steps leave alone on which terms a connection works, with which tokens and until when, and what
it has put out. Of the wire a view is enough, which only accepted writes change.
-/

namespace RpcEndpoint

variable {app : Application} {ω α : Type}

/-- A view of a wire: what is collected does not change it, and an accepted write adds its frame. -/
structure View (ω α : Type) [Wire ω] where
  see : ω → α
  add : α → Bytes → α
  collects : ∀ wire, see (Wire.collect wire).2 = see wire
  writes : ∀ frame wire,
    see (Wire.write frame wire).2 =
      match (Wire.write frame wire).1 with
      | .ok () => add (see wire) frame
      | .error _ => see wire

/-- Nothing is seen of the wire. -/
def View.nothing [Wire ω] : View ω Unit :=
  ⟨fun _ => (), fun _ _ => (), fun _ => rfl, fun _ _ => by split <;> rfl⟩

/-- What decides how a connection treats its requests. -/
structure Terms where
  name : Nat
  tokens : TokenTable
  signals : List Hook
  defaultTimeout : Option Duration
  closed : Option Failure

/-- What a connection has put out, and a view of its wire. -/
structure Output (α : Type) where
  written : List Bytes
  requestsSent : Nat
  notificationsSent : Nat
  wire : α

namespace Connection

def terms (connection : Connection app ω) : Terms :=
  ⟨connection.name, connection.tokens, connection.signals, connection.defaultTimeout,
    connection.closed⟩

variable [Wire ω]

def output (view : View ω α) (connection : Connection app ω) : Output α :=
  ⟨connection.written, connection.stats.requestsSent, connection.stats.notificationsSent,
    view.see connection.framer.wire⟩

/-- Neither the terms nor the output have changed. -/
structure Keeps (view : View ω α) (before after : Connection app ω) : Prop where
  terms : after.terms = before.terms
  output : after.output view = before.output view

variable {view : View ω α}

theorem Keeps.refl (connection : Connection app ω) : Keeps view connection connection :=
  ⟨rfl, rfl⟩

theorem Keeps.trans
    {first second third : Connection app ω}
    (left : Keeps view first second) (right : Keeps view second third) :
    Keeps view first third :=
  ⟨right.terms.trans left.terms, right.output.trans left.output⟩

theorem Keeps.foldl {item : Type}
    {step : Connection app ω → item → Connection app ω}
    (keeps : ∀ connection next, Keeps view connection (step connection next))
    (items : List item) (connection : Connection app ω) :
    Keeps view connection (items.foldl step connection) := by
  induction items generalizing connection with
  | nil =>
      exact .refl connection
  | cons next rest inductionHypothesis =>
      exact (keeps connection next).trans (inductionHypothesis _)

/-! ## Operations -/

theorem keeps_record
    (occurrence : Occurrence app) (connection : Connection app ω)
    (other : occurrence.frame? = none) : Keeps view connection (connection.record occurrence) := by
  refine ⟨rfl, ?_⟩
  have sameFrames : (connection.record occurrence).written = connection.written := by
    cases occurrence with
    | wrote frame =>
        contradiction
    | _ =>
        simp [written, record]
  rw [output, sameFrames]
  rfl

theorem keeps_enqueue (command : Command app) (connection : Connection app ω) :
    Keeps view connection (connection.enqueue command) := by
  rw [enqueue_eq]
  exact ⟨rfl, rfl⟩

theorem keeps_accept (connection : Connection app ω) (arrival : Arrival) :
    Keeps view connection (connection.accept arrival) := by
  cases arrival with
  | chunk bytes =>
      exact keeps_enqueue (.received bytes) connection
  | lost =>
      exact keeps_enqueue (.order (.close .unavailable)) connection

theorem keeps_takeArrivals (connection : Connection app ω) :
    Keeps view connection connection.takeArrivals := by
  have gathered : Keeps view connection { connection with
      framer := { connection.framer with wire := (Wire.collect connection.framer.wire).2 } } := by
    refine ⟨rfl, ?_⟩
    simp [output, written, view.collects]
  exact gathered.trans (.foldl keeps_accept _ _)

theorem keeps_openMailbox (id : MessageId) (sink : Sink app) (connection : Connection app ω) :
    Keeps view connection (openMailbox id sink connection) := by
  cases sink with
  | mailbox schema =>
      exact ⟨rfl, rfl⟩
  | callback react =>
      exact .refl connection

theorem keeps_request
    (method : String) (params : Params) (options : Options) (sink : Sink app)
    (connection : Connection app ω) :
    Keeps view connection (connection.request method params options sink).2 := by
  unfold request
  cases params with
  | error fault =>
      exact .refl connection
  | ok encoded =>
      dsimp only
      by_cases isRunning : connection.running = true
      · rw [if_pos isRunning]
        have asked : Keeps view connection (connection.enqueue
            (.request (.new (numberedId connection.nextNumber) method encoded) options sink)) :=
          keeps_enqueue _ connection
        have numbered : Keeps view connection { connection.enqueue
            (.request (.new (numberedId connection.nextNumber) method encoded) options sink) with
            nextNumber := connection.nextNumber + 1 } :=
          asked.trans ⟨rfl, rfl⟩
        exact numbered.trans (keeps_openMailbox _ sink _)
      · rw [if_neg isRunning]
        exact .refl connection

theorem keeps_notify (method : String) (params : Params) (connection : Connection app ω) :
    Keeps view connection (connection.notify method params).2 := by
  unfold notify
  cases params with
  | error fault =>
      exact .refl connection
  | ok encoded =>
      dsimp only
      by_cases isRunning : connection.running = true
      · rw [if_pos isRunning]
        exact keeps_enqueue _ connection
      · rw [if_neg isRunning]
        exact .refl connection

theorem keeps_notifyWithReceipt
    (method : String) (params : Params) (connection : Connection app ω) :
    Keeps view connection (connection.notifyWithReceipt method params).2 := by
  unfold notifyWithReceipt
  cases params with
  | error fault =>
      exact .refl connection
  | ok encoded =>
      dsimp only
      by_cases isRunning : connection.running = true
      · rw [if_pos isRunning]
        have asked : Keeps view connection (connection.enqueue
            (.notification (.new method encoded) (some connection.nextReceipt))) :=
          keeps_enqueue _ connection
        exact asked.trans ⟨rfl, rfl⟩
      · rw [if_neg isRunning]
        exact .refl connection

theorem keeps_reportFate
    (receipt : Option Nat) (fate : Except Failure Unit) (connection : Connection app ω) :
    Keeps view connection (connection.reportFate receipt fate) := by
  cases receipt with
  | some number =>
      exact ⟨rfl, rfl⟩
  | none =>
      exact .refl connection

theorem keeps_fillMailbox
    (id : MessageId) (outcome : Except Failure Json.Value) (connection : Connection app ω) :
    Keeps view connection (connection.fillMailbox id outcome) := by
  unfold fillMailbox
  split
  · exact ⟨rfl, rfl⟩
  · exact .refl connection

theorem keeps_takeOutcome (id : MessageId) (connection : Connection app ω) :
    Keeps view connection (connection.takeOutcome id).2 := by
  unfold takeOutcome
  split
  · exact .refl connection
  · exact ⟨rfl, rfl⟩
  · exact .refl connection
  · exact .refl connection

theorem keeps_settleTicket
    (ticket : Ticket) (outcome : Except ResponseError Json.Value)
    (connection : Connection app ω) :
    Keeps view connection (connection.settleTicket ticket outcome) := by
  have closed : Keeps view connection { connection with
      tickets := connection.tickets.filter fun held => held.number ≠ ticket.number } :=
    ⟨rfl, rfl⟩
  exact closed.trans (keeps_enqueue (.reply (.ofOutcome ticket.id outcome)) _)

theorem keeps_answer
    (number : TicketNumber) (outcome : Except ResponseError Json.Value)
    (connection : Connection app ω) :
    Keeps view connection (connection.answer number outcome).2 := by
  unfold answer
  split
  · exact keeps_settleTicket _ _ connection
  · exact .refl connection

theorem keeps_discard (number : TicketNumber) (connection : Connection app ω) :
    Keeps view connection (connection.discard number).2 := by
  unfold discard
  split
  · exact keeps_settleTicket _ _ connection
  · exact .refl connection

theorem keeps_keep (number : TicketNumber) (connection : Connection app ω) :
    Keeps view connection (connection.keep number).2 := by
  unfold keep
  split
  · exact ⟨rfl, rfl⟩
  · exact .refl connection

theorem keeps_releaseTicket (number : TicketNumber) (connection : Connection app ω) :
    Keeps view connection (connection.releaseTicket number) := by
  unfold releaseTicket
  split
  · split
    · exact .refl connection
    · exact keeps_discard number connection
  · exact .refl connection

theorem keeps_halt (connection : Connection app ω) : Keeps view connection connection.halt := by
  have emptied : Keeps view connection { connection with running := false, inbox := [] } :=
    ⟨rfl, rfl⟩
  refine emptied.trans (.foldl ?_ connection.inbox _)
  intro before command
  cases command with
  | request message options sink =>
      cases sink with
      | mailbox schema =>
          exact ⟨rfl, rfl⟩
      | callback react =>
          exact .refl before
  | notification message receipt =>
      exact keeps_reportFate receipt _ before
  | reply | received | order =>
      exact .refl before

/-- The failures of all requests. -/
theorem keeps_drain (failure : Failure) (connection : Connection app ω) :
    Keeps view connection (connection.drain failure).connection := by
  unfold drain
  split
  · exact .refl connection
  · exact ⟨rfl, rfl⟩

/-- What a payload from the peer sets off. -/
theorem keeps_sort (payload : Bytes) (connection : Connection app ω) :
    Keeps view connection (connection.sort payload).connection := by
  unfold sort
  cases Incoming.classify payload with
  | response response =>
      unfold pair
      dsimp only
      split
      · exact ⟨rfl, rfl⟩
      · exact .refl connection
  | notification message =>
      have counted : Keeps view connection { connection with
          stats := { connection.stats with
            incomingNotifications := connection.stats.incomingNotifications + 1 } } :=
        ⟨rfl, rfl⟩
      unfold notice
      dsimp only
      split
      · exact counted.trans (keeps_record _ _ rfl)
      · exact counted
  | request message =>
      have opened : Keeps view connection ({ connection with
          stats := { connection.stats with
            incomingRequests := connection.stats.incomingRequests + 1 } }.openTicket
              ⟨message.id, message.method, message.params, payload⟩).2 :=
        ⟨rfl, rfl⟩
      unfold consider
      dsimp only
      split
      · exact opened.trans (keeps_record _ _ rfl)
      · exact opened.trans (keeps_answer _ _ _)
  | unrecognized reason =>
      exact .refl connection

/-! ## Writes and the table of tokens -/

theorem terms_transmit (payload : Bytes) (connection : Connection app ω) :
    (connection.transmit payload).2.terms = connection.terms := by
  unfold transmit
  rcases connection.framer.write payload with ⟨outcome, framer⟩
  have taken : Keeps .nothing _ _ := keeps_takeArrivals
    ({ connection with framer }.record (match outcome with
      | .ok () => .wrote (Framing.encodeFrame payload)
      | .error _ => .refused (Framing.encodeFrame payload)))
  exact taken.terms

theorem terms_writeNotification
    (message : Notification) (receipt : Option Nat) (connection : Connection app ω) :
    (connection.writeNotification message receipt).terms = connection.terms := by
  have reported (fate : Except Failure Unit) (reached : Connection app ω) :
      (reached.reportFate receipt fate).terms = reached.terms := by
    have kept : Keeps .nothing _ _ := keeps_reportFate receipt fate reached
    exact kept.terms
  have transmitted := terms_transmit message.toValue.encode connection
  unfold writeNotification
  split
  · exact reported _ connection
  · split
    · rename_i sent isSent
      rw [isSent] at transmitted
      exact (reported _ _).trans transmitted
    · rename_i failure refused isRefused
      rw [isRefused] at transmitted
      exact (reported _ _).trans transmitted

theorem terms_offer (message : Request) (connection : Connection app ω) :
    (connection.offer message).connection.terms = connection.terms := by
  have transmitted := terms_transmit message.toValue.encode connection
  unfold offer
  split
  · rename_i sent isSent
    rw [isSent] at transmitted
    exact transmitted
  · rename_i failure refused isRefused
    rw [isRefused] at transmitted
    exact transmitted

theorem output_unhook (entry : PendingRequest app) (connection : Connection app ω) :
    (connection.unhook entry).output view = connection.output view := by
  unfold unhook
  split <;> rfl

theorem output_watch
    (id : MessageId) (token : Option Token) (connection : Connection app ω) :
    (connection.watch id token).2.output view = connection.output view := by
  unfold watch
  split
  · rfl
  · split
    · rfl
    · exact (keeps_enqueue _ connection).output

theorem output_setOff (connection : Connection app ω) (hook : Hook) :
    (connection.setOff hook).output view = connection.output view := by
  unfold setOff
  split
  · exact (keeps_enqueue _ connection).output
  · rfl

end Connection

/-! ## Steps -/

namespace Job

/-- Whether the first step of a job may change the terms. -/
def binds : Job app → Bool
  | .launch _ _ _ | .finish _ _ | .react (.cancelToken _ _) | .signal _ | .shut _ => true
  | _ => false

/-- Whether the first step of a job offers a message to the wire. -/
def writes : Job app → Bool
  | .carryOut (.notification _ _) | .carryOut (.reply _) | .send _ => true
  | _ => false

end Job

open Connection

variable [Wire ω]

private theorem keeps_advance
    {view : View ω α} (reaction : Reaction app) (connection : Connection app ω)
    (plain : Job.binds (.react reaction) = false) :
    Keeps view connection (reaction.advance connection).connection := by
  cases reaction with
  | note entry next =>
      exact keeps_record (.noted entry) connection rfl
  | remember memory next =>
      exact ⟨rfl, rfl⟩
  | request method params options sink next =>
      exact keeps_request method params options sink connection
  | notify method params next =>
      exact keeps_notify method params connection
  | order wanted next =>
      exact keeps_enqueue (.order wanted) connection
  | cancelToken token next =>
      contradiction
  | answer ticket outcome next =>
      exact keeps_answer ticket outcome connection
  | discard ticket next =>
      exact keeps_discard ticket connection
  | keep ticket next =>
      exact keeps_keep ticket connection
  | done | «recall» =>
      exact .refl connection

private theorem keeps_begin
    {view : View ω α} (command : Command app) (connection : Connection app ω)
    (unwritten : Job.writes (.carryOut command) = false) :
    Keeps view connection (connection.begin command).connection := by
  cases command with
  | request message options sink =>
      unfold Connection.begin weigh
      dsimp only
      split
      · exact .refl connection
      · exact .refl connection
  | notification message receipt =>
      contradiction
  | reply response =>
      contradiction
  | received chunk =>
      exact ⟨rfl, rfl⟩
  | order order =>
      cases order with
      | register registration =>
          exact ⟨rfl, rfl⟩
      | cancel id =>
          unfold Connection.begin heed expel
          dsimp only
          split
          · exact ⟨rfl, rfl⟩
          · exact .refl connection
      | failPending failure =>
          exact keeps_drain failure connection
      | close failure =>
          exact keeps_drain failure connection
      | resetFramer =>
          exact ⟨rfl, rfl⟩
      | shutdown =>
          exact keeps_drain .closed connection

theorem Job.keeps
    {view : View ω α} (now : Instant) (job : Job app) (connection : Connection app ω)
    (unbinding : job.binds = false) (unwritten : job.writes = false) :
    Keeps view connection (job.step now connection).connection := by
  cases job with
  | carryOut command =>
      exact keeps_begin command connection unwritten
  | deliver promise outcome =>
      have recorded : Keeps view connection
          (connection.record (.completed promise.id outcome)) :=
        keeps_record _ connection rfl
      unfold Job.step honour
      dsimp only
      split
      · exact recorded.trans (keeps_fillMailbox _ _ _)
      · exact recorded
  | emit event =>
      have counted : Keeps view connection
          { connection with stats := connection.stats.count event } := by
        cases event <;> exact ⟨rfl, rfl⟩
      exact counted.trans (keeps_record (.emitted event) _ rfl)
  | route payload =>
      exact keeps_sort payload connection
  | puzzle payload reaction =>
      exact keeps_record (.puzzled payload) connection rfl
  | release ticket =>
      exact keeps_releaseTicket ticket connection
  | react reaction =>
      exact keeps_advance reaction connection unbinding
  | halt =>
      exact keeps_halt connection
  | sweep =>
      unfold Job.step
      dsimp only
      split
      · unfold Connection.sweep
        split
        · exact .refl connection
        · exact ⟨rfl, rfl⟩
      · exact .refl connection
  | timeOut entry =>
      exact .refl connection
  | launch | finish | signal | shut | send =>
      contradiction

/-- Only jobs that have to do with tokens, and the end of a close, change the terms. -/
theorem Job.terms_step
    (now : Instant) (job : Job app) (connection : Connection app ω)
    (unbinding : job.binds = false) :
    (job.step now connection).connection.terms = connection.terms := by
  by_cases unwritten : job.writes = false
  · have kept : Keeps .nothing _ _ := job.keeps now connection unbinding unwritten
    exact kept.terms
  · cases job with
    | carryOut command =>
        cases command with
        | notification message receipt =>
            exact terms_writeNotification message receipt connection
        | reply response =>
            exact terms_transmit response.toValue.encode connection
        | _ =>
            contradiction
    | send message =>
        exact terms_offer message connection
    | _ =>
        contradiction

/-- Only jobs that write a message add to the output. -/
theorem Job.output_step
    {view : View ω α} (now : Instant) (job : Job app) (connection : Connection app ω)
    (unwritten : job.writes = false) :
    (job.step now connection).connection.output view = connection.output view := by
  by_cases unbinding : job.binds = false
  · exact (job.keeps now connection unbinding unwritten).output
  · cases job with
    | launch message options sink =>
        exact output_watch message.id options.token connection
    | finish entry outcome =>
        exact output_unhook entry connection
    | signal hooks =>
        cases hooks with
        | nil =>
            rfl
        | cons hook rest =>
            exact output_setOff connection hook
    | react reaction =>
        cases reaction with
        | cancelToken token next =>
            rfl
        | _ =>
            contradiction
    | shut failure =>
        rfl
    | _ =>
        contradiction

/-- Whether an act of another thread may change the terms or the wire. -/
def Act.meddles : Act app ω → Bool
  | .attach _ _ | .detach _ | .disturb _ => true
  | _ => false

theorem Act.keeps
    {view : View ω α} (act : Act app ω) (connection : Connection app ω) (mild : act.meddles = false) :
    Keeps view connection (act.apply connection).connection := by
  cases act with
  | request method params options sink =>
      exact keeps_request method params options sink connection
  | notify method params =>
      exact keeps_notify method params connection
  | notifyWithReceipt method params =>
      exact keeps_notifyWithReceipt method params connection
  | order wanted =>
      exact keeps_enqueue (.order wanted) connection
  | answer number outcome =>
      exact keeps_answer number outcome connection
  | discard number =>
      exact keeps_discard number connection
  | takeOutcome id =>
      exact keeps_takeOutcome id connection
  | arrive arrival =>
      exact keeps_accept connection arrival
  | gather =>
      exact keeps_takeArrivals connection
  | dropMailbox | remember =>
      exact ⟨rfl, rfl⟩
  | attach | detach | disturb =>
      contradiction

/-! ## What only the end of a close changes -/

namespace Connection

/-- The name of a connection, the limit of its requests, and why it is closed. -/
def nature (connection : Connection app ω) : Nat × Option Duration × Option Failure :=
  (connection.name, connection.defaultTimeout, connection.closed)

/-- A connection that has been closed. -/
def shut (failure : Failure) (connection : Connection app ω) : Connection app ω :=
  { connection with closed := some failure }

omit [Wire ω] in
theorem nature_of_terms
    {before after : Connection app ω} (sameTerms : after.terms = before.terms) :
    after.nature = before.nature :=
  congrArg (fun terms : Terms => (terms.name, terms.defaultTimeout, terms.closed)) sameTerms

omit [Wire ω] in
theorem nature_setOff (connection : Connection app ω) (hook : Hook) :
    (connection.setOff hook).nature = connection.nature := by
  unfold setOff
  split
  · rw [enqueue_eq]
    rfl
  · rfl

end Connection

theorem Job.nature_step
    (now : Instant) (job : Job app) (connection : Connection app ω)
    (staysOpen : ∀ failure, job ≠ .shut failure) :
    (job.step now connection).connection.nature = connection.nature := by
  by_cases unbinding : job.binds = false
  · exact nature_of_terms (job.terms_step now connection unbinding)
  · cases job with
    | launch message options sink =>
        change (connection.watch message.id options.token).2.nature = connection.nature
        unfold watch
        split
        · rfl
        · split
          · rfl
          · rw [enqueue_eq]
            rfl
    | finish entry outcome =>
        change (connection.unhook entry).nature = connection.nature
        unfold unhook
        split <;> rfl
    | react reaction =>
        cases reaction with
        | cancelToken token next =>
            rfl
        | _ =>
            contradiction
    | signal hooks =>
        cases hooks with
        | nil =>
            rfl
        | cons hook rest =>
            exact nature_setOff connection hook
    | shut failure =>
        exact absurd rfl (staysOpen failure)
    | _ =>
        contradiction

theorem Machine.nature_next (machine : Machine app ω) (choice : Choice app ω) :
    (machine.next choice).connection.nature = machine.connection.nature ∨
      ∃ failure rest, machine.agenda = .shut failure :: rest ∧
        (machine.next choice).connection = machine.connection.shut failure := by
  cases choice with
  | work =>
      rw [next]
      split
      · rename_i job rest agenda
        by_cases closes : ∃ failure, job = .shut failure
        · obtain ⟨failure, rfl⟩ := closes
          exact .inr ⟨failure, rest, agenda, rfl⟩
        · left
          apply job.nature_step machine.now machine.connection
          intro failure isShut
          exact closes ⟨failure, isShut⟩
      · exact .inl rfl
  | take =>
      left
      rw [next]
      split <;> rfl
  | wake =>
      left
      rw [next]
      split <;> rfl
  | reorder hooks =>
      left
      rw [next]
      split
      · split <;> rfl
      · rfl
  | act act =>
      left
      by_cases mild : act.meddles = false
      · have kept : Keeps .nothing _ _ := act.keeps machine.connection mild
        exact nature_of_terms kept.terms
      · cases act with
        | attach | detach | disturb =>
            rfl
        | _ =>
            contradiction
  | fire hook =>
      left
      rw [next]
      split
      · exact nature_setOff machine.connection hook
      · rfl
  | pass instant =>
      exact .inl rfl
  | trigger token =>
      exact .inl rfl

theorem Machine.name_next (machine : Machine app ω) (choice : Choice app ω) :
    (machine.next choice).connection.name = machine.connection.name := by
  rcases machine.nature_next choice with same | ⟨failure, rest, -, closed⟩
  · exact congrArg Prod.fst same
  · rw [closed]
    rfl

theorem Machine.limit_next (machine : Machine app ω) (choice : Choice app ω) :
    (machine.next choice).connection.defaultTimeout = machine.connection.defaultTimeout := by
  rcases machine.nature_next choice with same | ⟨failure, rest, -, closed⟩
  · exact congrArg (·.2.1) same
  · rw [closed]
    rfl

theorem Machine.limit_run (machine : Machine app ω) (schedule : List (Choice app ω)) :
    (machine.run schedule).connection.defaultTimeout = machine.connection.defaultTimeout := by
  induction schedule generalizing machine with
  | nil =>
      rfl
  | cons choice rest inductionHypothesis =>
      exact (inductionHypothesis (machine.next choice)).trans (machine.limit_next choice)

end RpcEndpoint
