import RpcEndpoint.Proofs.Schedule.Machine
import Mathlib.Data.List.Basic

/-!
# Nothing but sends

Most of what happens at a connection leaves the requests alone: the table, the outcomes in the log
and the bytes that wait stay as they are, and the inbox only grows. `Sends` says so, and says which
requests have come to the inbox. Each operation of a connection has its lemma here.
-/

namespace RpcEndpoint

variable {app : Application} {ω : Type}

/-- The promise that is made with a command. -/
def Command.promise? : Command app → Option (Promise app)
  | .request message _ sink => some ⟨message.id, sink⟩
  | _ => none

/-- The promises that are made with commands, in their order. -/
def promisesIn (commands : List (Command app)) : List (Promise app) :=
  commands.filterMap Command.promise?

theorem promisesIn_append (left right : List (Command app)) :
    promisesIn (left ++ right) = promisesIn left ++ promisesIn right :=
  List.filterMap_append

theorem promisesIn_singleton (command : Command app) :
    promisesIn [command] = command.promise?.toList := by
  cases command <;> rfl

/-- The outcome that an occurrence reports. -/
def Occurrence.outcome? : Occurrence app → Option (MessageId × Except Failure Bytes)
  | .completed id outcome => some (id, outcome)
  | _ => none

namespace Connection

/-- The outcomes in the log. -/
def outcomes (connection : Connection app ω) : List (MessageId × Except Failure Bytes) :=
  connection.log.filterMap Occurrence.outcome?

/-- The inbox has only grown, by these requests and by other commands. Requests have consecutive
numbers, and nothing comes in once the worker has stopped. -/
structure Grows (accepted : List MessageId) (before after : Connection app ω) : Prop where
  running : after.running = before.running
  nextNumber : after.nextNumber = before.nextNumber + accepted.length
  numbered : accepted = (List.range' before.nextNumber accepted.length).map numberedId
  inbox : ∃ commands,
    after.inbox = before.inbox ++ commands ∧
      (promisesIn commands).map (·.id) = accepted ∧
      (before.running = false → commands = [])

/-- One connection comes from another by sends, of which these requests were accepted. -/
structure Sends (accepted : List MessageId) (before after : Connection app ω) : Prop where
  pending : after.pending = before.pending
  outcomes : after.outcomes = before.outcomes
  decoder : after.framer.decoder = before.framer.decoder
  grows : Grows accepted before after

/-! ## Composition -/

/-- What none of the fields shows has not happened. -/
theorem Sends.quiet
    {before after : Connection app ω}
    (pending : after.pending = before.pending)
    (outcomes : after.outcomes = before.outcomes)
    (decoder : after.framer.decoder = before.framer.decoder)
    (running : after.running = before.running)
    (nextNumber : after.nextNumber = before.nextNumber)
    (inbox : after.inbox = before.inbox) :
    Sends [] before after :=
  ⟨pending, outcomes, decoder, running, nextNumber, rfl,
    [], by rw [inbox, List.append_nil], rfl, fun _ => rfl⟩

theorem Sends.refl (connection : Connection app ω) : Sends [] connection connection :=
  .quiet rfl rfl rfl rfl rfl rfl

theorem Grows.trans
    {first second third : Connection app ω} {earlier later : List MessageId}
    (left : Grows earlier first second) (right : Grows later second third) :
    Grows (earlier ++ later) first third := by
  obtain ⟨before, inboxBefore, idsBefore, stoppedBefore⟩ := left.inbox
  obtain ⟨after, inboxAfter, idsAfter, stoppedAfter⟩ := right.inbox
  refine ⟨right.running.trans left.running, ?_, ?_, before ++ after, ?_, ?_, ?_⟩
  · rw [right.nextNumber, left.nextNumber, List.length_append, Nat.add_assoc]
  · rw [List.length_append, ← List.range'_append_1, List.map_append, ← left.numbered,
      ← left.nextNumber, ← right.numbered]
  · rw [inboxAfter, inboxBefore, List.append_assoc]
  · rw [promisesIn_append, List.map_append, ← idsBefore, ← idsAfter]
  · intro stopped
    rw [stoppedBefore stopped, stoppedAfter (left.running.trans stopped)]
    rfl

theorem Sends.trans
    {first second third : Connection app ω} {earlier later : List MessageId}
    (left : Sends earlier first second) (right : Sends later second third) :
    Sends (earlier ++ later) first third :=
  ⟨right.pending.trans left.pending, right.outcomes.trans left.outcomes,
    right.decoder.trans left.decoder, left.grows.trans right.grows⟩

/-- A send of nothing that is told before or after other sends. -/
theorem Sends.then
    {first second third : Connection app ω} {accepted : List MessageId}
    (left : Sends accepted first second) (right : Sends [] second third) :
    Sends accepted first third := by
  have both := left.trans right
  rwa [List.append_nil] at both

/-- Sends do not mind which requests are pending. -/
theorem Sends.withPending
    {before after : Connection app ω} {accepted : List MessageId}
    (sends : Sends accepted before after) (table : PendingTable app) :
    Sends accepted { before with pending := table } { after with pending := table } :=
  ⟨rfl, sends.outcomes, sends.decoder, sends.grows.running, sends.grows.nextNumber,
    sends.grows.numbered, sends.grows.inbox⟩

/-- Steps of a loop that only send. -/
theorem Sends.foldl {α : Type}
    {step : Connection app ω → α → Connection app ω}
    (sends : ∀ connection item, Sends [] connection (step connection item))
    (items : List α) (connection : Connection app ω) :
    Sends [] connection (items.foldl step connection) := by
  induction items generalizing connection with
  | nil =>
      exact .refl connection
  | cons item rest inductionHypothesis =>
      exact (sends connection item).then (inductionHypothesis _)

/-! ## Records and commands -/

theorem sends_record
    (occurrence : Occurrence app) (connection : Connection app ω)
    (other : occurrence.outcome? = none) :
    Sends [] connection (connection.record occurrence) := by
  refine .quiet rfl ?_ rfl rfl rfl rfl
  simp [record, outcomes, other]

theorem outcomes_record_completed
    (id : MessageId) (outcome : Except Failure Bytes) (connection : Connection app ω) :
    (connection.record (.completed id outcome)).outcomes =
      connection.outcomes ++ [(id, outcome)] := by
  simp [record, outcomes, Occurrence.outcome?]

theorem sends_enqueue
    (command : Command app) (connection : Connection app ω)
    (other : command.promise? = none) :
    Sends [] connection (connection.enqueue command) := by
  unfold enqueue
  by_cases isRunning : connection.running = true
  · rw [if_pos isRunning]
    refine ⟨rfl, rfl, rfl, rfl, rfl, rfl, [command], rfl, ?_, ?_⟩
    · simp [promisesIn, other]
    · intro stopped
      rw [isRunning] at stopped
      contradiction
  · rw [if_neg isRunning]
    exact .refl connection

theorem sends_accept (connection : Connection app ω) (arrival : Arrival) :
    Sends [] connection (connection.accept arrival) := by
  cases arrival with
  | chunk bytes =>
      exact sends_enqueue _ connection rfl
  | lost =>
      exact sends_enqueue _ connection rfl

theorem sends_takeArrivals [Wire ω] (connection : Connection app ω) :
    Sends [] connection connection.takeArrivals := by
  unfold takeArrivals
  refine Sends.then (.quiet ?_ ?_ ?_ ?_ ?_ ?_) (Sends.foldl sends_accept _ _)
  all_goals rfl

theorem sends_transmit [Wire ω] (payload : Bytes) (connection : Connection app ω) :
    Sends [] connection (connection.transmit payload).2 := by
  have decoder : (connection.framer.write payload).2.decoder = connection.framer.decoder := rfl
  unfold transmit
  rcases written : connection.framer.write payload with ⟨outcome, framer⟩
  rw [written] at decoder
  have offered : Sends [] connection { connection with framer } :=
    .quiet rfl rfl decoder rfl rfl rfl
  refine (offered.then (sends_record _ _ ?_)).then (sends_takeArrivals _)
  cases outcome with
  | ok accepted =>
      rfl
  | error failure =>
      rfl

/-! ## Sends -/

theorem sends_openMailbox
    (id : MessageId) (sink : Sink app) (connection : Connection app ω) :
    Sends [] connection (openMailbox id sink connection) := by
  cases sink with
  | mailbox schema =>
      exact .quiet rfl rfl rfl rfl rfl rfl
  | callback react =>
      exact .refl connection

/-- A send gives out the next number with the request that it puts into the inbox, or nothing. -/
theorem sends_request
    (method : String) (params : Params) (options : Options) (sink : Sink app)
    (connection : Connection app ω) :
    Sends (connection.request method params options sink).1.toOption.toList connection
      (connection.request method params options sink).2 := by
  unfold request
  cases params with
  | error fault =>
      exact .refl connection
  | ok encoded =>
      by_cases isRunning : connection.running = true
      · simp only [if_pos isRunning]
        refine Sends.then ?_ (sends_openMailbox _ sink _)
        simp only [enqueue, if_pos isRunning]
        refine ⟨rfl, rfl, rfl, rfl, rfl, rfl,
          [.request (.new (numberedId connection.nextNumber) method encoded) options sink],
          rfl, rfl, ?_⟩
        intro stopped
        rw [isRunning] at stopped
        contradiction
      · simp only [if_neg isRunning]
        exact .refl connection

theorem sends_notify
    (method : String) (params : Params) (connection : Connection app ω) :
    Sends [] connection (connection.notify method params).2 := by
  unfold notify
  cases params with
  | error fault =>
      exact .refl connection
  | ok encoded =>
      by_cases isRunning : connection.running = true
      · simp only [if_pos isRunning]
        exact sends_enqueue (.notification (.new method encoded) none) connection rfl
      · simp only [if_neg isRunning]
        exact .refl connection

theorem sends_notifyWithReceipt
    (method : String) (params : Params) (connection : Connection app ω) :
    Sends [] connection (connection.notifyWithReceipt method params).2 := by
  unfold notifyWithReceipt
  cases params with
  | error fault =>
      exact .refl connection
  | ok encoded =>
      by_cases isRunning : connection.running = true
      · simp only [if_pos isRunning]
        refine (sends_enqueue (.notification (.new method encoded)
          (some connection.nextReceipt)) connection rfl).then ?_
        exact .quiet rfl rfl rfl rfl rfl rfl
      · simp only [if_neg isRunning]
        exact .refl connection

theorem sends_reportFate
    (receipt : Option Nat) (fate : Except Failure Unit) (connection : Connection app ω) :
    Sends [] connection (connection.reportFate receipt fate) := by
  cases receipt with
  | none =>
      exact .refl connection
  | some number =>
      exact .quiet rfl rfl rfl rfl rfl rfl

/-! ## Mailboxes, tokens and answers -/

theorem sends_fillMailbox
    (id : MessageId) (outcome : Except Failure Json.Value) (connection : Connection app ω) :
    Sends [] connection (connection.fillMailbox id outcome) := by
  unfold fillMailbox
  split
  · exact .quiet rfl rfl rfl rfl rfl rfl
  · exact .refl connection

theorem sends_takeOutcome (id : MessageId) (connection : Connection app ω) :
    Sends [] connection (connection.takeOutcome id).2 := by
  unfold takeOutcome
  split
  · exact .refl connection
  · exact .quiet rfl rfl rfl rfl rfl rfl
  · exact .refl connection
  · exact .refl connection

theorem sends_setOff (connection : Connection app ω) (hook : Hook) :
    Sends [] connection (connection.setOff hook) := by
  unfold setOff
  split
  · exact sends_enqueue _ connection rfl
  · exact .quiet rfl rfl rfl rfl rfl rfl

theorem sends_settleTicket
    (ticket : Ticket) (outcome : Except ResponseError Json.Value)
    (connection : Connection app ω) :
    Sends [] connection (connection.settleTicket ticket outcome) := by
  refine Sends.then ?_ (sends_enqueue (.reply (.ofOutcome ticket.id outcome)) _ rfl)
  exact .quiet rfl rfl rfl rfl rfl rfl

theorem sends_answer
    (number : TicketNumber) (outcome : Except ResponseError Json.Value)
    (connection : Connection app ω) :
    Sends [] connection (connection.answer number outcome).2 := by
  unfold answer
  split
  · exact sends_settleTicket _ _ connection
  · exact .refl connection

theorem sends_discard (number : TicketNumber) (connection : Connection app ω) :
    Sends [] connection (connection.discard number).2 := by
  unfold discard
  split
  · exact sends_settleTicket _ _ connection
  · exact .refl connection

theorem sends_keep (number : TicketNumber) (connection : Connection app ω) :
    Sends [] connection (connection.keep number).2 := by
  unfold keep
  split
  · exact .quiet rfl rfl rfl rfl rfl rfl
  · exact .refl connection

theorem sends_releaseTicket (number : TicketNumber) (connection : Connection app ω) :
    Sends [] connection (connection.releaseTicket number) := by
  unfold releaseTicket
  split
  · split
    · exact .refl connection
    · exact sends_discard number connection
  · exact .refl connection

/-! ## The worker -/

theorem sends_unhook (entry : PendingRequest app) (connection : Connection app ω) :
    Sends [] connection (connection.unhook entry) := by
  unfold unhook
  split
  · exact .quiet rfl rfl rfl rfl rfl rfl
  · exact .refl connection

theorem sends_watch
    (id : MessageId) (token : Option Token) (connection : Connection app ω) :
    Sends [] connection (connection.watch id token).2 := by
  unfold watch
  split
  · exact .refl connection
  · split
    · exact .quiet rfl rfl rfl rfl rfl rfl
    · exact sends_enqueue (.order (.cancel id)) connection rfl

theorem sends_writeNotification [Wire ω]
    (message : Notification) (receipt : Option Nat) (connection : Connection app ω) :
    Sends [] connection (connection.writeNotification message receipt) := by
  have transmitted := sends_transmit message.toValue.encode connection
  unfold writeNotification
  split
  · exact sends_reportFate receipt _ connection
  · split
    · rename_i sent written
      rw [written] at transmitted
      have counted : Sends [] sent { sent with
          stats := { sent.stats with
            notificationsSent := sent.stats.notificationsSent + 1 } } :=
        .quiet rfl rfl rfl rfl rfl rfl
      exact (transmitted.then counted).then (sends_reportFate receipt _ _)
    · rename_i failure refused written
      rw [written] at transmitted
      exact transmitted.then (sends_reportFate receipt _ _)

/-- What is lost when the worker leaves its loop concerns mailboxes and receipts only. -/
theorem sends_halt (connection : Connection app ω) :
    Sends [] { connection with running := false, inbox := [] } connection.halt := by
  refine Sends.foldl ?_ connection.inbox _
  intro before command
  cases command with
  | request message options sink =>
      cases sink with
      | mailbox schema =>
          exact .quiet rfl rfl rfl rfl rfl rfl
      | callback react =>
          exact .refl before
  | notification message receipt =>
      exact sends_reportFate receipt _ before
  | reply response =>
      exact .refl before
  | received chunk =>
      exact .refl before
  | order wanted =>
      exact .refl before

/-- Callbacks only send. -/
theorem sends_advance (reaction : Reaction app) (connection : Connection app ω) :
    Sends (reaction.advance connection).accepted connection
      (reaction.advance connection).connection := by
  cases reaction with
  | note entry next =>
      exact sends_record _ connection rfl
  | remember memory next =>
      exact .quiet rfl rfl rfl rfl rfl rfl
  | request method params options sink next =>
      exact sends_request method params options sink connection
  | notify method params next =>
      exact sends_notify method params connection
  | order wanted next =>
      exact sends_enqueue _ connection rfl
  | cancelToken token next =>
      exact .quiet rfl rfl rfl rfl rfl rfl
  | answer ticket outcome next =>
      exact sends_answer ticket outcome connection
  | discard ticket next =>
      exact sends_discard ticket connection
  | keep ticket next =>
      exact sends_keep ticket connection
  | _ =>
      exact .refl connection

/-- Other threads only send. -/
theorem sends_apply [Wire ω] (act : Act app ω) (connection : Connection app ω) :
    Sends (act.apply connection).accepted connection (act.apply connection).connection := by
  cases act with
  | request method params options sink =>
      exact sends_request method params options sink connection
  | notify method params =>
      exact sends_notify method params connection
  | notifyWithReceipt method params =>
      exact sends_notifyWithReceipt method params connection
  | order wanted =>
      exact sends_enqueue _ connection rfl
  | answer ticket outcome =>
      exact sends_answer ticket outcome connection
  | discard ticket =>
      exact sends_discard ticket connection
  | takeOutcome id =>
      exact sends_takeOutcome id connection
  | dropMailbox id =>
      exact .quiet rfl rfl rfl rfl rfl rfl
  | arrive arrival =>
      exact sends_accept connection arrival
  | gather =>
      exact sends_takeArrivals connection
  | disturb change =>
      exact .quiet rfl rfl rfl rfl rfl rfl
  | attach token hook =>
      exact .quiet rfl rfl rfl rfl rfl rfl
  | detach attachment =>
      exact .quiet rfl rfl rfl rfl rfl rfl
  | remember memory =>
      exact .quiet rfl rfl rfl rfl rfl rfl

end Connection

end RpcEndpoint
