import Mathlib.Data.List.Nodup
import RpcEndpoint.Proofs.Schedule.Machine

/-!
# Requests of the peer and their replies

A request of the peer opens a ticket, and a ticket that is settled is gone and has put a reply into
the inbox. `Serves` says of two connections which requests have come in between, which tickets were
settled and which frames the wire was offered; one lemma for each operation.
-/

namespace RpcEndpoint

open Json (Value)

variable {app : Application} {ω : Type}

/-! ## Tickets that were settled -/

/-- A request of the peer, under the number of its ticket. -/
structure Inquiry where
  number : TicketNumber
  id : MessageId
  method : String
deriving DecidableEq

/-- The request that a ticket was opened for. -/
def Ticket.inquiry (ticket : Ticket) : Inquiry :=
  ⟨ticket.number, ticket.id, ticket.method⟩

/-- What has become of a ticket. -/
inductive Fate where
  | answered (outcome : Except ResponseError Value)
  /-- It was given up without an answer. -/
  | dropped
  /-- No handler was there to take it. -/
  | unhandled

/-- What the peer is told at the end of a request. -/
def Fate.outcome (method : String) : Fate → Except ResponseError Value
  | .answered outcome => outcome
  | .dropped => .error (Connection.unanswered method)
  | .unhandled => .error (.methodNotFound method)

/-- A request of the peer that has come to its end. -/
structure Settlement where
  inquiry : Inquiry
  ending : Fate

/-- The reply that a settlement sends. -/
def Settlement.reply (settlement : Settlement) : Response :=
  .ofOutcome settlement.inquiry.id (settlement.ending.outcome settlement.inquiry.method)

/-- The requests that were settled. -/
def inquiriesOf (settled : List Settlement) : List Inquiry :=
  settled.map (·.inquiry)

theorem inquiriesOf_append (left right : List Settlement) :
    inquiriesOf (left ++ right) = inquiriesOf left ++ inquiriesOf right :=
  List.map_append

/-- The replies of settlements. -/
def repliesOf (settled : List Settlement) : List Response :=
  settled.map (·.reply)

/-- The reply that a command writes. -/
def Command.reply? : Command app → Option Response
  | .reply response => some response
  | _ => none

/-- The replies among commands. -/
def repliesIn (commands : List (Command app)) : List Response :=
  commands.filterMap Command.reply?

theorem repliesIn_append (left right : List (Command app)) :
    repliesIn (left ++ right) = repliesIn left ++ repliesIn right :=
  List.filterMap_append

/-- The frame that the wire was offered. -/
def Occurrence.frame? : Occurrence app → Option Bytes
  | .wrote frame | .refused frame => some frame
  | _ => none

namespace Connection

/-- The frames that the wire was offered. -/
def offered (connection : Connection app ω) : List Bytes :=
  connection.log.filterMap Occurrence.frame?

/-- The frames that the wire has accepted. -/
def written (connection : Connection app ω) : List Bytes :=
  connection.log.filterMap fun
    | .wrote frame => some frame
    | _ => none

/-- The frames that the wire has refused. -/
def refused (connection : Connection app ω) : List Bytes :=
  connection.log.filterMap fun
    | .refused frame => some frame
    | _ => none

/-- The requests of the peer whose tickets are open. -/
def open? (connection : Connection app ω) : List Inquiry :=
  connection.tickets.map Ticket.inquiry

/-! ## What operations do for the peer -/

/-- These requests have come in, these settlements were made and these frames offered. Nothing else
has changed that the peer can tell, and a ticket that is not kept was open before or is new. -/
structure Serves (asked : List Inquiry) (settled : List Settlement) (frames : List Bytes)
    (before after : Connection app ω) : Prop where
  running : after.running = before.running
  nextTicket : after.nextTicket = before.nextTicket + asked.length
  tickets : (inquiriesOf settled ++ after.open?).Perm (before.open? ++ asked)
  loose : ∀ ticket ∈ after.tickets, ticket.kept = false →
    ticket ∈ before.tickets ∨ ticket.inquiry ∈ asked
  inbox : ∃ commands,
    after.inbox = before.inbox ++ commands ∧
      (after.running = false → commands = []) ∧
      (after.running = true → repliesIn commands = repliesOf settled)
  offered : after.offered = before.offered ++ frames

/-- Nothing has changed that the peer can tell. -/
abbrev Minds (before after : Connection app ω) : Prop :=
  Serves [] [] [] before after

theorem Serves.quiet
    {before after : Connection app ω}
    (running : after.running = before.running) (nextTicket : after.nextTicket = before.nextTicket)
    (tickets : after.tickets = before.tickets) (inbox : after.inbox = before.inbox)
    (offered : after.offered = before.offered) : Minds before after := by
  refine ⟨running, nextTicket, ?_, ?_, ⟨[], ?_, fun _ => rfl, fun _ => rfl⟩, ?_⟩
  · rw [Connection.open?, tickets, List.append_nil]
    exact .refl _
  · intro ticket isOpen _
    rw [tickets] at isOpen
    exact .inl isOpen
  · rw [inbox, List.append_nil]
  · rw [offered, List.append_nil]

theorem Serves.refl (connection : Connection app ω) : Minds connection connection :=
  .quiet rfl rfl rfl rfl rfl

theorem Serves.trans
    {first second third : Connection app ω}
    {askedEarlier askedLater : List Inquiry} {settledEarlier settledLater : List Settlement}
    {framesEarlier framesLater : List Bytes}
    (earlier : Serves askedEarlier settledEarlier framesEarlier first second)
    (later : Serves askedLater settledLater framesLater second third) :
    Serves (askedEarlier ++ askedLater) (settledEarlier ++ settledLater)
      (framesEarlier ++ framesLater) first third := by
  obtain ⟨commandsEarlier, inboxEarlier, stoppedEarlier, repliesEarlier⟩ := earlier.inbox
  obtain ⟨commandsLater, inboxLater, stoppedLater, repliesLater⟩ := later.inbox
  refine ⟨later.running.trans earlier.running, ?_, ?_, ?_,
    ⟨commandsEarlier ++ commandsLater, ?_, ?_, ?_⟩, ?_⟩
  · rw [later.nextTicket, earlier.nextTicket, List.length_append, Nat.add_assoc]
  · have laterTickets := later.tickets.append_left (inquiriesOf settledEarlier)
    have earlierTickets := earlier.tickets.append_right askedLater
    rw [← List.append_assoc] at laterTickets
    rw [List.append_assoc, List.append_assoc] at earlierTickets
    rw [inquiriesOf_append]
    exact laterTickets.trans earlierTickets
  · intro ticket isOpen isLoose
    rcases later.loose ticket isOpen isLoose with wasOpen | isNew
    · refine (earlier.loose ticket wasOpen isLoose).imp id fun isNew => ?_
      exact List.mem_append_left askedLater isNew
    · exact .inr (List.mem_append_right askedEarlier isNew)
  · rw [inboxLater, inboxEarlier, List.append_assoc]
  · intro stopped
    rw [stoppedEarlier (later.running.symm.trans stopped), stoppedLater stopped]
    rfl
  · intro isRunning
    rw [repliesIn_append, repliesEarlier (later.running.symm.trans isRunning),
      repliesLater isRunning]
    exact List.map_append.symm
  · rw [later.offered, earlier.offered, List.append_assoc]

theorem Serves.then
    {first second third : Connection app ω}
    {asked : List Inquiry} {settled : List Settlement} {frames : List Bytes}
    (earlier : Serves asked settled frames first second) (later : Minds second third) :
    Serves asked settled frames first third := by
  have both := earlier.trans later
  rwa [List.append_nil, List.append_nil, List.append_nil] at both

theorem Serves.foldl {α : Type}
    {step : Connection app ω → α → Connection app ω}
    (minds : ∀ connection item, Minds connection (step connection item))
    (items : List α) (connection : Connection app ω) :
    Minds connection (items.foldl step connection) := by
  induction items generalizing connection with
  | nil =>
      exact .refl connection
  | cons item rest inductionHypothesis =>
      exact (minds connection item).then (inductionHypothesis _)

/-! ## Operations that the peer cannot tell -/

theorem minds_record
    (occurrence : Occurrence app) (connection : Connection app ω)
    (other : occurrence.frame? = none) : Minds connection (connection.record occurrence) := by
  refine .quiet rfl rfl rfl rfl ?_
  rw [Connection.offered, record, List.filterMap_append, List.filterMap_cons_none other]
  exact List.append_nil _

/-- What is put into the inbox is lost once the worker has stopped. -/
theorem enqueue_eq (command : Command app) (connection : Connection app ω) :
    connection.enqueue command =
      { connection with
        inbox := connection.inbox ++ if connection.running then [command] else [] } := by
  unfold enqueue
  split
  · rfl
  · rw [List.append_nil]

theorem minds_enqueue
    (command : Command app) (connection : Connection app ω) (other : command.reply? = none) :
    Minds connection (connection.enqueue command) := by
  rw [enqueue_eq]
  refine ⟨rfl, rfl, ?_, fun ticket isOpen _ => .inl isOpen, ⟨_, rfl, ?_, ?_⟩, ?_⟩
  · exact .of_eq (List.append_nil _).symm
  · intro stopped
    exact if_neg (Bool.eq_false_iff.mp stopped)
  · intro isRunning
    rw [if_pos (show connection.running = true from isRunning), repliesIn,
      List.filterMap_cons_none other]
    rfl
  · exact (List.append_nil _).symm

theorem minds_accept (connection : Connection app ω) (arrival : Arrival) :
    Minds connection (connection.accept arrival) := by
  cases arrival with
  | chunk bytes =>
      exact minds_enqueue (.received bytes) connection rfl
  | lost =>
      exact minds_enqueue (.order (.close .unavailable)) connection rfl

theorem minds_takeArrivals [Wire ω] (connection : Connection app ω) :
    Minds connection connection.takeArrivals := by
  unfold takeArrivals
  refine Serves.then (.quiet ?_ ?_ ?_ ?_ ?_) (Serves.foldl minds_accept _ _)
  all_goals rfl

theorem minds_openMailbox (id : MessageId) (sink : Sink app) (connection : Connection app ω) :
    Minds connection (openMailbox id sink connection) := by
  cases sink with
  | mailbox schema =>
      exact .quiet rfl rfl rfl rfl rfl
  | callback react =>
      exact .refl connection

theorem minds_request
    (method : String) (params : Params) (options : Options) (sink : Sink app)
    (connection : Connection app ω) :
    Minds connection (connection.request method params options sink).2 := by
  unfold request
  cases params with
  | error fault =>
      exact .refl connection
  | ok encoded =>
      dsimp only
      split
      · have enqueued := minds_enqueue
          (.request (.new (numberedId connection.nextNumber) method encoded) options sink)
          connection rfl
        refine (enqueued.then ?_).then (minds_openMailbox _ sink _)
        exact .quiet rfl rfl rfl rfl rfl
      · exact .refl connection

theorem minds_notify (method : String) (params : Params) (connection : Connection app ω) :
    Minds connection (connection.notify method params).2 := by
  unfold notify
  cases params with
  | error fault =>
      exact .refl connection
  | ok encoded =>
      dsimp only
      split
      · exact minds_enqueue (.notification (.new method encoded) none) connection rfl
      · exact .refl connection

theorem minds_notifyWithReceipt
    (method : String) (params : Params) (connection : Connection app ω) :
    Minds connection (connection.notifyWithReceipt method params).2 := by
  unfold notifyWithReceipt
  cases params with
  | error fault =>
      exact .refl connection
  | ok encoded =>
      dsimp only
      split
      · have enqueued := minds_enqueue
          (.notification (.new method encoded) (some connection.nextReceipt)) connection rfl
        exact enqueued.then (.quiet rfl rfl rfl rfl rfl)
      · exact .refl connection

theorem minds_reportFate
    (receipt : Option Nat) (fate : Except Failure Unit) (connection : Connection app ω) :
    Minds connection (connection.reportFate receipt fate) := by
  cases receipt with
  | some number =>
      exact .quiet rfl rfl rfl rfl rfl
  | none =>
      exact .refl connection

theorem minds_fillMailbox
    (id : MessageId) (outcome : Except Failure Value) (connection : Connection app ω) :
    Minds connection (connection.fillMailbox id outcome) := by
  unfold fillMailbox
  split
  · exact .quiet rfl rfl rfl rfl rfl
  · exact .refl connection

theorem minds_takeOutcome (id : MessageId) (connection : Connection app ω) :
    Minds connection (connection.takeOutcome id).2 := by
  unfold takeOutcome
  split
  · exact .refl connection
  · exact .quiet rfl rfl rfl rfl rfl
  · exact .refl connection
  · exact .refl connection

theorem minds_setOff (connection : Connection app ω) (hook : Hook) :
    Minds connection (connection.setOff hook) := by
  unfold setOff
  split
  · exact minds_enqueue (.order (.cancel hook.id)) connection rfl
  · exact .quiet rfl rfl rfl rfl rfl

theorem minds_unhook (entry : PendingRequest app) (connection : Connection app ω) :
    Minds connection (connection.unhook entry) := by
  unfold unhook
  split
  · exact .quiet rfl rfl rfl rfl rfl
  · exact .refl connection

theorem minds_watch (id : MessageId) (token : Option Token) (connection : Connection app ω) :
    Minds connection (connection.watch id token).2 := by
  unfold watch
  split
  · exact .refl connection
  · split
    · exact .quiet rfl rfl rfl rfl rfl
    · exact minds_enqueue (.order (.cancel id)) connection rfl

/-! ## Offers to the wire -/

theorem serves_transmit [Wire ω] (payload : Bytes) (connection : Connection app ω) :
    Serves [] [] [Framing.encodeFrame payload] connection (connection.transmit payload).2 := by
  unfold transmit
  rcases written : connection.framer.write payload with ⟨outcome, framer⟩
  refine Serves.then ?_ (minds_takeArrivals _)
  refine ⟨rfl, rfl, ?_, fun ticket isOpen _ => .inl isOpen,
    ⟨[], ?_, fun _ => rfl, fun _ => rfl⟩, ?_⟩
  · exact .of_eq (List.append_nil _).symm
  · exact (List.append_nil _).symm
  · cases outcome with
    | ok done =>
        exact List.filterMap_append
    | error failure =>
        exact List.filterMap_append

/-! ## Tickets -/

/-- No two tickets have one number, and the next one will have a new number. -/
structure Numbered (connection : Connection app ω) : Prop where
  distinct : (connection.tickets.map (·.number)).Nodup
  fresh : ∀ ticket ∈ connection.tickets, ticket.number < connection.nextTicket

private theorem perm_cons_filter_number
    {tickets : List Ticket} (distinct : (tickets.map (·.number)).Nodup)
    {ticket : Ticket} (isOpen : ticket ∈ tickets) :
    tickets.Perm (ticket :: tickets.filter fun held => held.number ≠ ticket.number) := by
  induction tickets with
  | nil =>
      contradiction
  | cons head rest inductionHypothesis =>
      obtain ⟨headIsNew, restDistinct⟩ := List.nodup_cons.mp distinct
      rcases List.mem_cons.mp isOpen with rfl | isLater
      · have restStays :
            rest.filter (fun held => held.number ≠ ticket.number) = rest := by
          refine List.filter_eq_self.mpr fun held isHeld => decide_eq_true ?_
          intro sameNumber
          exact headIsNew (List.mem_map.mpr ⟨held, isHeld, sameNumber⟩)
        rw [List.filter_cons_of_neg (by simp), restStays]
      · have otherNumber : head.number ≠ ticket.number := by
          intro sameNumber
          exact headIsNew (List.mem_map.mpr ⟨ticket, isLater, sameNumber.symm⟩)
        rw [List.filter_cons, if_pos (decide_eq_true otherNumber)]
        exact ((inductionHypothesis restDistinct isLater).cons head).trans (.swap ..)

theorem mem_of_ticket?
    {connection : Connection app ω} {number : TicketNumber} {ticket : Ticket}
    (found : connection.ticket? number = some ticket) :
    ticket ∈ connection.tickets ∧ ticket.number = number :=
  ⟨List.mem_of_find?_eq_some found, of_decide_eq_true (List.find?_some found :)⟩

/-- What it amounts to that the ticket of a number comes to this end. -/
def settlement (number : TicketNumber) (ending : Fate) (connection : Connection app ω) :
    List Settlement :=
  (connection.ticket? number).toList.map fun ticket => ⟨ticket.inquiry, ending⟩

theorem serves_settleTicket
    {connection : Connection app ω} (numbered : connection.Numbered)
    {ticket : Ticket} (isOpen : ticket ∈ connection.tickets) (ending : Fate) :
    Serves [] [⟨ticket.inquiry, ending⟩] [] connection
      (connection.settleTicket ticket (ending.outcome ticket.method)) := by
  unfold settleTicket
  rw [enqueue_eq]
  refine ⟨rfl, rfl, ?_, ?_, ⟨_, rfl, ?_, ?_⟩, ?_⟩
  · have parted := (perm_cons_filter_number numbered.distinct isOpen).map Ticket.inquiry
    rw [List.append_nil]
    exact parted.symm
  · intro held isHeld _
    exact .inl (List.mem_of_mem_filter isHeld)
  · intro stopped
    exact if_neg (Bool.eq_false_iff.mp stopped)
  · intro isRunning
    rw [if_pos (show connection.running = true from isRunning)]
    rfl
  · exact (List.append_nil _).symm

theorem serves_answer
    {connection : Connection app ω} (numbered : connection.Numbered)
    (number : TicketNumber) (outcome : Except ResponseError Value) :
    Serves [] (connection.settlement number (.answered outcome)) [] connection
      (connection.answer number outcome).2 := by
  unfold answer settlement
  cases found : connection.ticket? number with
  | some ticket =>
      exact serves_settleTicket numbered (mem_of_ticket? found).1 (.answered outcome)
  | none =>
      exact .refl connection

theorem serves_discard
    {connection : Connection app ω} (numbered : connection.Numbered) (number : TicketNumber) :
    Serves [] (connection.settlement number .dropped) [] connection
      (connection.discard number).2 := by
  unfold discard settlement
  cases found : connection.ticket? number with
  | some ticket =>
      exact serves_settleTicket numbered (mem_of_ticket? found).1 .dropped
  | none =>
      exact .refl connection

theorem minds_keep (number : TicketNumber) (connection : Connection app ω) :
    Minds connection (connection.keep number).2 := by
  unfold keep
  split
  · refine ⟨rfl, rfl, ?_, ?_, ⟨[], ?_, fun _ => rfl, fun _ => rfl⟩, ?_⟩
    · refine .of_eq ?_
      rw [List.append_nil]
      refine (List.map_map).trans (List.map_congr_left fun held _ => ?_)
      rw [Function.comp_apply]
      split <;> rfl
    · intro ticket isOpen isLoose
      obtain ⟨held, isHeld, rfl⟩ := List.mem_map.mp isOpen
      split at isLoose
      · contradiction
      · rename_i otherNumber
        rw [if_neg otherNumber]
        exact .inl isHeld
    · exact (List.append_nil _).symm
    · exact (List.append_nil _).symm
  · exact .refl connection

/-- The request for which the next ticket would be opened. -/
def inquiry (request : IncomingRequest) (connection : Connection app ω) : Inquiry :=
  ⟨connection.nextTicket, request.id, request.method⟩

theorem serves_openTicket (request : IncomingRequest) (connection : Connection app ω) :
    Serves [connection.inquiry request] [] [] connection (connection.openTicket request).2 := by
  refine ⟨rfl, rfl, ?_, ?_, ⟨[], ?_, fun _ => rfl, fun _ => rfl⟩, ?_⟩
  · exact (List.perm_append_singleton _ _).symm
  · intro ticket isOpen _
    rcases List.mem_cons.mp isOpen with rfl | wasOpen
    · exact .inr List.mem_cons_self
    · exact .inl wasOpen
  · exact (List.append_nil _).symm
  · exact (List.append_nil _).symm

theorem Numbered.openTicket
    {connection : Connection app ω} (numbered : connection.Numbered)
    (request : IncomingRequest) : (connection.openTicket request).2.Numbered := by
  refine ⟨?_, ?_⟩
  · refine List.nodup_cons.mpr ⟨?_, numbered.distinct⟩
    intro isTaken
    obtain ⟨ticket, isOpen, sameNumber⟩ := List.mem_map.mp isTaken
    exact Nat.ne_of_lt (numbered.fresh ticket isOpen) sameNumber
  · intro ticket isOpen
    rcases List.mem_cons.mp isOpen with rfl | wasOpen
    · exact Nat.lt_succ_self _
    · exact Nat.lt_succ_of_lt (numbered.fresh ticket wasOpen)

theorem ticket?_openTicket (request : IncomingRequest) (connection : Connection app ω) :
    (connection.openTicket request).2.ticket? connection.nextTicket =
      some ⟨connection.nextTicket, request.id, request.method, false⟩ :=
  List.find?_cons_of_pos (by simp)

/-- The ticket of a request can be answered right after it was opened. -/
theorem answer_openTicket
    (request : IncomingRequest) (outcome : Except ResponseError Value)
    (connection : Connection app ω) :
    ((connection.openTicket request).2.answer connection.nextTicket outcome).2 =
      (connection.openTicket request).2.settleTicket
        ⟨connection.nextTicket, request.id, request.method, false⟩ outcome := by
  rw [answer, ticket?_openTicket]

end Connection

end RpcEndpoint
