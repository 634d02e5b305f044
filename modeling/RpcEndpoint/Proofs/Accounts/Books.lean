import RpcEndpoint.Proofs.Replies.Service

/-!
# The books of a connection

The table, the callbacks, the counts, the decoder, the receipts and what the log tells of requests
and payloads change on the worker only, and there only where one expects it. `Connection.books`
takes them together; one equation for each operation says what becomes of them.
-/

namespace RpcEndpoint

variable {app : Application} {ω : Type}

/-- Whether an occurrence tells of a request or a payload, and is no frame and no note. -/
def Occurrence.isMark : Occurrence app → Bool
  | .wrote _ | .refused _ | .noted _ => false
  | .emitted _ | .completed _ _ | .notified _ | .asked _ | .puzzled _ => true

/-- A notification whose fate somebody waits for. -/
structure Slip where
  receipt : Nat
  message : Notification

/-- The slip that comes with a command. -/
def Command.slip? : Command app → Option Slip
  | .notification message receipt => receipt.map (⟨·, message⟩)
  | _ => none

/-- What a connection keeps book of. -/
structure Books (app : Application) where
  pending : PendingTable app
  handlers : Handlers app
  closed : Option Failure
  stats : Stats
  decoder : Framing.Decoder
  running : Bool
  /-- The notifications in the inbox whose fates somebody waits for. -/
  slips : List Slip
  receipts : List (Nat × Except Failure Unit)
  nextReceipt : Nat
  marks : List (Occurrence app)

namespace Connection

/-- What the log tells of requests and payloads. -/
def marks (connection : Connection app ω) : List (Occurrence app) :=
  connection.log.filter Occurrence.isMark

/-- The notifications in the inbox whose fates somebody waits for. -/
def slips (connection : Connection app ω) : List Slip :=
  connection.inbox.filterMap Command.slip?

/-- What is selected of the log can be selected of the marks, if only marks are selected. -/
theorem filterMap_marks {α : Type}
    {select : Occurrence app → Option α}
    (silent : ∀ occurrence, occurrence.isMark = false → select occurrence = none)
    (connection : Connection app ω) :
    connection.marks.filterMap select = connection.log.filterMap select := by
  rw [marks, List.filterMap_filter]
  refine List.filterMap_congr fun occurrence _ => ?_
  cases isMark : occurrence.isMark with
  | true =>
      rfl
  | false =>
      exact (silent occurrence isMark).symm

def books (connection : Connection app ω) : Books app :=
  ⟨connection.pending, connection.handlers, connection.closed, connection.stats,
    connection.framer.decoder, connection.running, connection.slips, connection.receipts,
    connection.nextReceipt, connection.marks⟩

/-! ## Records and commands -/

theorem books_record (occurrence : Occurrence app) (connection : Connection app ω) :
    (connection.record occurrence).books =
      { connection.books with
        marks := connection.marks ++ [occurrence].filter Occurrence.isMark } := by
  simp [books, marks, record, slips]

theorem books_unmarked
    {occurrence : Occurrence app} (unmarked : occurrence.isMark = false)
    (connection : Connection app ω) :
    (connection.record occurrence).books = connection.books := by
  have noMark : [occurrence].filter Occurrence.isMark = [] := by simp [unmarked]
  rw [books_record, noMark, List.append_nil]
  rfl

theorem books_enqueue
    {command : Command app} (noSlip : command.slip? = none) (connection : Connection app ω) :
    (connection.enqueue command).books = connection.books := by
  rw [enqueue_eq]
  by_cases isRunning : connection.running = true
  · simp [books, marks, slips, isRunning, noSlip]
  · simp [books, marks, slips, isRunning]

/-- What is gone through without a change to the books leaves them alone. -/
theorem books_foldl {α : Type}
    {step : Connection app ω → α → Connection app ω}
    (same : ∀ connection item, (step connection item).books = connection.books)
    (items : List α) (connection : Connection app ω) :
    (items.foldl step connection).books = connection.books := by
  induction items generalizing connection with
  | nil =>
      rfl
  | cons item rest inductionHypothesis =>
      rw [List.foldl_cons, inductionHypothesis, same]

theorem books_accept (connection : Connection app ω) (arrival : Arrival) :
    (connection.accept arrival).books = connection.books := by
  cases arrival with
  | chunk bytes =>
      exact books_enqueue rfl connection
  | lost =>
      exact books_enqueue rfl connection

theorem books_takeArrivals [Wire ω] (connection : Connection app ω) :
    connection.takeArrivals.books = connection.books := by
  unfold takeArrivals
  exact books_foldl books_accept _ _

theorem books_transmit [Wire ω] (payload : Bytes) (connection : Connection app ω) :
    (connection.transmit payload).2.books = connection.books := by
  unfold transmit
  rcases isWritten : connection.framer.write payload with ⟨outcome, framer⟩
  have sameDecoder : framer.decoder = connection.framer.decoder :=
    (congrArg (fun written => written.2.decoder) isWritten).symm
  have offered : { connection with framer }.books = connection.books := by
    simp [books, marks, slips, sameDecoder]
  rw [books_takeArrivals, books_unmarked, offered]
  cases outcome with
  | ok done =>
      rfl
  | error failure =>
      rfl

/-! ## Sends -/

theorem books_openMailbox (id : MessageId) (sink : Sink app) (connection : Connection app ω) :
    (openMailbox id sink connection).books = connection.books := by
  cases sink with
  | mailbox schema =>
      rfl
  | callback react =>
      rfl

theorem books_request
    (method : String) (params : Params) (options : Options) (sink : Sink app)
    (connection : Connection app ω) :
    (connection.request method params options sink).2.books = connection.books := by
  unfold request
  cases params with
  | error fault =>
      rfl
  | ok encoded =>
      dsimp only
      split
      · rw [books_openMailbox]
        exact books_enqueue rfl connection
      · rfl

theorem books_notify (method : String) (params : Params) (connection : Connection app ω) :
    (connection.notify method params).2.books = connection.books := by
  unfold notify
  cases params with
  | error fault =>
      rfl
  | ok encoded =>
      dsimp only
      split
      · exact books_enqueue rfl connection
      · rfl

/-- A slip comes to the inbox, under a number of its own. -/
theorem books_notifyWithReceipt
    {connection : Connection app ω} (isRunning : connection.running = true)
    (method : String) (encoded : Option Json.Value) :
    (connection.notifyWithReceipt method (.ok encoded)).2.books =
      { connection.books with
        slips := connection.slips ++ [⟨connection.nextReceipt, .new method encoded⟩]
        nextReceipt := connection.nextReceipt + 1 } := by
  simp [notifyWithReceipt, enqueue_eq, books, marks, slips, isRunning, Command.slip?]

/-! ## Mailboxes, tokens and answers -/

theorem books_fillMailbox
    (id : MessageId) (outcome : Except Failure Json.Value) (connection : Connection app ω) :
    (connection.fillMailbox id outcome).books = connection.books := by
  unfold fillMailbox
  split <;> rfl

theorem books_takeOutcome (id : MessageId) (connection : Connection app ω) :
    (connection.takeOutcome id).2.books = connection.books := by
  unfold takeOutcome
  split <;> rfl

theorem books_setOff (connection : Connection app ω) (hook : Hook) :
    (connection.setOff hook).books = connection.books := by
  unfold setOff
  split
  · exact books_enqueue rfl connection
  · rfl

theorem books_settleTicket
    (ticket : Ticket) (outcome : Except ResponseError Json.Value)
    (connection : Connection app ω) :
    (connection.settleTicket ticket outcome).books = connection.books := by
  unfold settleTicket
  rw [books_enqueue rfl]
  rfl

theorem books_answer
    (number : TicketNumber) (outcome : Except ResponseError Json.Value)
    (connection : Connection app ω) :
    (connection.answer number outcome).2.books = connection.books := by
  unfold answer
  split
  · exact books_settleTicket _ _ connection
  · rfl

theorem books_discard (number : TicketNumber) (connection : Connection app ω) :
    (connection.discard number).2.books = connection.books := by
  unfold discard
  split
  · exact books_settleTicket _ _ connection
  · rfl

theorem books_keep (number : TicketNumber) (connection : Connection app ω) :
    (connection.keep number).2.books = connection.books := by
  unfold keep
  split <;> rfl

theorem books_releaseTicket (number : TicketNumber) (connection : Connection app ω) :
    (connection.releaseTicket number).books = connection.books := by
  unfold releaseTicket
  split
  · split
    · rfl
    · exact books_discard number connection
  · rfl

theorem books_unhook (entry : PendingRequest app) (connection : Connection app ω) :
    (connection.unhook entry).books = connection.books := by
  unfold unhook
  split <;> rfl

theorem books_watch (id : MessageId) (token : Option Token) (connection : Connection app ω) :
    (connection.watch id token).2.books = connection.books := by
  unfold watch
  split
  · rfl
  · split
    · rfl
    · exact books_enqueue rfl connection

theorem books_reportFate
    (receipt : Option Nat) (fate : Except Failure Unit) (connection : Connection app ω) :
    (connection.reportFate receipt fate).books =
      { connection.books with
        receipts := (receipt.map (·, fate)).toList ++ connection.receipts } := by
  cases receipt with
  | some number =>
      rfl
  | none =>
      rfl

/-! ## The end of the worker -/

/-- The receipts when these notifications are lost. -/
def loseSlips (slips : List Slip) (receipts : List (Nat × Except Failure Unit)) :
    List (Nat × Except Failure Unit) :=
  slips.foldl (fun reported slip => (slip.receipt, .error .closed) :: reported) receipts

theorem loseSlips_eq (slips : List Slip) (receipts : List (Nat × Except Failure Unit)) :
    loseSlips slips receipts =
      (slips.map fun slip => (slip.receipt, .error .closed)).reverse ++ receipts :=
  List.foldl_flip_cons_eq_append

theorem books_lose (connection : Connection app ω) (command : Command app) :
    (connection.lose command).books =
      { connection.books with
        receipts := loseSlips command.slip?.toList connection.receipts } := by
  cases command with
  | request message options sink =>
      cases sink with
      | mailbox schema =>
          rfl
      | callback react =>
          rfl
  | notification message receipt =>
      cases receipt with
      | some number =>
          rfl
      | none =>
          rfl
  | reply | received | order =>
      rfl

/-- When the worker stops, the slips in the inbox are told that the connection is closed. -/
theorem books_halt (connection : Connection app ω) :
    connection.halt.books =
      { connection.books with
        running := false
        slips := []
        receipts := loseSlips connection.slips connection.receipts } := by
  have lost : ∀ (commands : List (Command app)) (before : Connection app ω),
      (commands.foldl lose before).books =
        { before.books with
          receipts := loseSlips (commands.filterMap Command.slip?) before.receipts } := by
    intro commands
    induction commands with
    | nil =>
        intro before
        rfl
    | cons command rest inductionHypothesis =>
        intro before
        have sameReceipts : (before.lose command).receipts =
            loseSlips command.slip?.toList before.receipts :=
          congrArg Books.receipts (books_lose before command)
        rw [List.foldl_cons, inductionHypothesis, books_lose, sameReceipts]
        cases found : command.slip? with
        | none =>
            rw [List.filterMap_cons_none found]
            rfl
        | some slip =>
            rw [List.filterMap_cons_some found]
            rfl
  exact lost connection.inbox _

end Connection

/-! ## Callbacks and other threads -/

open Connection

/-- Callbacks leave the books alone. -/
theorem books_advance (reaction : Reaction app) (connection : Connection app ω) :
    (reaction.advance connection).connection.books = connection.books := by
  cases reaction with
  | note entry next =>
      exact books_unmarked rfl connection
  | request method params options sink next =>
      exact books_request method params options sink connection
  | notify method params next =>
      exact books_notify method params connection
  | order wanted next =>
      exact books_enqueue rfl connection
  | answer ticket outcome next =>
      exact books_answer ticket outcome connection
  | discard ticket next =>
      exact books_discard ticket connection
  | keep ticket next =>
      exact books_keep ticket connection
  | done | «recall» | remember | cancelToken =>
      rfl

/-- So do the other threads, but for a notification whose fate somebody waits for. -/
theorem Act.books [Wire ω]
    {act : Act app ω} (silent : ∀ method params, act ≠ .notifyWithReceipt method params)
    (connection : Connection app ω) :
    (act.apply connection).connection.books = connection.books := by
  cases act with
  | request method params options sink =>
      exact books_request method params options sink connection
  | notify method params =>
      exact books_notify method params connection
  | notifyWithReceipt method params =>
      exact absurd rfl (silent method params)
  | order wanted =>
      exact books_enqueue rfl connection
  | answer number outcome =>
      exact books_answer number outcome connection
  | discard number =>
      exact books_discard number connection
  | takeOutcome id =>
      exact books_takeOutcome id connection
  | arrive arrival =>
      exact books_accept connection arrival
  | gather =>
      exact books_takeArrivals connection
  | dropMailbox | disturb | attach | detach | remember =>
      rfl

end RpcEndpoint
