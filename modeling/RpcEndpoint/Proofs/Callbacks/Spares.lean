import RpcEndpoint.Proofs.Schedule.Job

/-!
# What callbacks leave alone

A callback asks for things, and what it asks for goes to the inbox. The framer, the table, the
handlers and the counts of its connection stay as they are until the worker comes to that.
-/

namespace RpcEndpoint.Connection

variable {app : Application} {ω : Type}

/-- What only the worker changes is as it was. -/
structure Spares (before after : Connection app ω) : Prop where
  framer : after.framer = before.framer
  pending : after.pending = before.pending
  handlers : after.handlers = before.handlers
  closed : after.closed = before.closed
  stats : after.stats = before.stats
  running : after.running = before.running

theorem Spares.refl (connection : Connection app ω) : Spares connection connection :=
  ⟨rfl, rfl, rfl, rfl, rfl, rfl⟩

theorem Spares.trans
    {first second third : Connection app ω}
    (left : Spares first second) (right : Spares second third) : Spares first third :=
  ⟨right.framer.trans left.framer, right.pending.trans left.pending,
    right.handlers.trans left.handlers, right.closed.trans left.closed,
    right.stats.trans left.stats, right.running.trans left.running⟩

theorem Spares.foldl {α : Type}
    {step : Connection app ω → α → Connection app ω}
    (spares : ∀ connection item, Spares connection (step connection item))
    (items : List α) (connection : Connection app ω) :
    Spares connection (items.foldl step connection) := by
  induction items generalizing connection with
  | nil =>
      exact .refl connection
  | cons item rest inductionHypothesis =>
      exact (spares connection item).trans (inductionHypothesis _)

/-! ## Single steps -/

theorem spares_record (occurrence : Occurrence app) (connection : Connection app ω) :
    Spares connection (connection.record occurrence) :=
  ⟨rfl, rfl, rfl, rfl, rfl, rfl⟩

theorem spares_enqueue (command : Command app) (connection : Connection app ω) :
    Spares connection (connection.enqueue command) := by
  unfold enqueue
  split
  · exact ⟨rfl, rfl, rfl, rfl, rfl, rfl⟩
  · exact .refl connection

theorem spares_openMailbox (id : MessageId) (sink : Sink app) (connection : Connection app ω) :
    Spares connection (openMailbox id sink connection) := by
  cases sink with
  | mailbox schema =>
      exact ⟨rfl, rfl, rfl, rfl, rfl, rfl⟩
  | callback react =>
      exact .refl connection

theorem spares_request
    (method : String) (params : Params) (options : Options) (sink : Sink app)
    (connection : Connection app ω) :
    Spares connection (connection.request method params options sink).2 := by
  unfold request
  cases params with
  | error fault =>
      exact .refl connection
  | ok encoded =>
      dsimp only
      split
      · have numbered : Spares
            (connection.enqueue
              (.request (.new (numberedId connection.nextNumber) method encoded) options sink))
            { connection.enqueue
              (.request (.new (numberedId connection.nextNumber) method encoded) options sink) with
              nextNumber := connection.nextNumber + 1 } :=
          ⟨rfl, rfl, rfl, rfl, rfl, rfl⟩
        exact ((spares_enqueue _ connection).trans numbered).trans (spares_openMailbox _ _ _)
      · exact .refl connection

theorem spares_notify (method : String) (params : Params) (connection : Connection app ω) :
    Spares connection (connection.notify method params).2 := by
  unfold notify
  cases params with
  | error fault =>
      exact .refl connection
  | ok encoded =>
      dsimp only
      split
      · exact spares_enqueue _ connection
      · exact .refl connection

theorem spares_setOff (connection : Connection app ω) (hook : Hook) :
    Spares connection (connection.setOff hook) := by
  unfold setOff
  split
  · exact spares_enqueue _ connection
  · exact ⟨rfl, rfl, rfl, rfl, rfl, rfl⟩

theorem spares_settleTicket
    (ticket : Ticket) (outcome : Except ResponseError Json.Value)
    (connection : Connection app ω) :
    Spares connection (connection.settleTicket ticket outcome) := by
  refine Spares.trans ?_ (spares_enqueue (.reply (.ofOutcome ticket.id outcome)) _)
  exact ⟨rfl, rfl, rfl, rfl, rfl, rfl⟩

theorem spares_answer
    (number : TicketNumber) (outcome : Except ResponseError Json.Value)
    (connection : Connection app ω) :
    Spares connection (connection.answer number outcome).2 := by
  unfold answer
  split
  · exact spares_settleTicket _ _ connection
  · exact .refl connection

theorem spares_discard (number : TicketNumber) (connection : Connection app ω) :
    Spares connection (connection.discard number).2 := by
  unfold discard
  split
  · exact spares_settleTicket _ _ connection
  · exact .refl connection

theorem spares_keep (number : TicketNumber) (connection : Connection app ω) :
    Spares connection (connection.keep number).2 := by
  unfold keep
  split
  · exact ⟨rfl, rfl, rfl, rfl, rfl, rfl⟩
  · exact .refl connection

theorem spares_releaseTicket (number : TicketNumber) (connection : Connection app ω) :
    Spares connection (connection.releaseTicket number) := by
  unfold releaseTicket
  split
  · split
    · exact .refl connection
    · exact spares_discard number connection
  · exact .refl connection

theorem spares_unhook (entry : PendingRequest app) (connection : Connection app ω) :
    Spares connection (connection.unhook entry) := by
  unfold unhook
  split
  · exact ⟨rfl, rfl, rfl, rfl, rfl, rfl⟩
  · exact .refl connection

theorem spares_fillMailbox
    (id : MessageId) (outcome : Except Failure Json.Value) (connection : Connection app ω) :
    Spares connection (connection.fillMailbox id outcome) := by
  unfold fillMailbox
  split
  · exact ⟨rfl, rfl, rfl, rfl, rfl, rfl⟩
  · exact .refl connection

/-! ## Whole callbacks -/

theorem spares_advance (reaction : Reaction app) (connection : Connection app ω) :
    Spares connection (reaction.advance connection).connection := by
  cases reaction with
  | note entry next =>
      exact spares_record (.noted entry) connection
  | remember memory next =>
      exact ⟨rfl, rfl, rfl, rfl, rfl, rfl⟩
  | request method params options sink next =>
      exact spares_request method params options sink connection
  | notify method params next =>
      exact spares_notify method params connection
  | order wanted next =>
      exact spares_enqueue (.order wanted) connection
  | cancelToken token next =>
      exact ⟨rfl, rfl, rfl, rfl, rfl, rfl⟩
  | answer ticket outcome next =>
      exact spares_answer ticket outcome connection
  | discard ticket next =>
      exact spares_discard ticket connection
  | keep ticket next =>
      exact spares_keep ticket connection
  | done | «recall» =>
      exact .refl connection

/-- What holds between the ends of every step of a reaction holds between its own ends. -/
theorem run_of_advance
    {related : Connection app ω → Connection app ω → Prop}
    (refl : ∀ connection, related connection connection)
    (trans : ∀ {first second third},
      related first second → related second third → related first third)
    (setOff : ∀ connection hook, related connection (connection.setOff hook))
    (advance : ∀ reaction connection,
      related connection (Reaction.advance connection reaction).connection)
    (reaction : Reaction app) (connection : Connection app ω) :
    related connection (reaction.run connection) := by
  have setOffAll : ∀ (hooks : List Hook) (before : Connection app ω),
      related before (hooks.foldl Connection.setOff before) := by
    intro hooks
    induction hooks with
    | nil =>
        exact refl
    | cons hook rest inductionHypothesis =>
        intro before
        exact trans (setOff before hook) (inductionHypothesis _)
  induction reaction, connection using Reaction.run.induct with
  | case1 connection =>
      exact refl connection
  | case2 entry next connection inductionHypothesis =>
      exact trans (advance (.note entry next) connection) inductionHypothesis
  | case3 next connection inductionHypothesis =>
      exact inductionHypothesis
  | case4 memory next connection inductionHypothesis =>
      exact trans (advance (.remember memory next) connection) inductionHypothesis
  | case5 method params options sink next connection outcome sent requested
      inductionHypothesis =>
      have first := advance (.request method params options sink next) connection
      simp only [Reaction.advance, requested] at first
      rw [Reaction.run, requested]
      exact trans first inductionHypothesis
  | case6 method params next connection outcome sent notified inductionHypothesis =>
      have first := advance (.notify method params next) connection
      simp only [Reaction.advance, notified] at first
      rw [Reaction.run, notified]
      exact trans first inductionHypothesis
  | case7 wanted next connection inductionHypothesis =>
      exact trans (advance (.order wanted next) connection) inductionHypothesis
  | case8 token next connection inductionHypothesis =>
      have first := advance (.cancelToken token next) connection
      exact trans (trans first (setOffAll _ _)) inductionHypothesis
  | case9 ticket outcome next connection wasOpen answered isAnswer inductionHypothesis =>
      have first := advance (.answer ticket outcome next) connection
      simp only [Reaction.advance, isAnswer] at first
      rw [Reaction.run, isAnswer]
      exact trans first inductionHypothesis
  | case10 ticket next connection wasOpen discarded isDiscard inductionHypothesis =>
      have first := advance (.discard ticket next) connection
      simp only [Reaction.advance, isDiscard] at first
      rw [Reaction.run, isDiscard]
      exact trans first inductionHypothesis
  | case11 ticket next connection wasOpen kept isKept inductionHypothesis =>
      have first := advance (.keep ticket next) connection
      simp only [Reaction.advance, isKept] at first
      rw [Reaction.run, isKept]
      exact trans first inductionHypothesis

theorem spares_run (reaction : Reaction app) (connection : Connection app ω) :
    Spares connection (reaction.run connection) :=
  run_of_advance Spares.refl Spares.trans spares_setOff spares_advance reaction connection

theorem spares_deliver
    (id : MessageId) (sink : Sink app) (outcome : Except Failure Bytes)
    (connection : Connection app ω) :
    Spares connection (connection.deliver id sink outcome) := by
  have recorded := spares_record (.completed id outcome) connection
  unfold deliver
  cases sink with
  | mailbox schema =>
      exact recorded.trans (spares_fillMailbox id _ _)
  | callback react =>
      exact recorded.trans (spares_run (react outcome) _)

theorem spares_finish
    (entry : PendingRequest app) (outcome : Except Failure Bytes)
    (connection : Connection app ω) :
    Spares connection (connection.finish entry outcome) :=
  (spares_unhook entry connection).trans (spares_deliver entry.id entry.sink outcome _)

/-- To tell an event changes the counts and nothing else that only the worker changes. -/
theorem spares_emit (event : Event) (connection : Connection app ω) :
    Spares { connection with stats := connection.stats.count event } (connection.emit event) := by
  refine (spares_record (.emitted event) _).trans ?_
  exact .foldl (fun told react => spares_run (react event) told) connection.handlers.observers _

end RpcEndpoint.Connection
