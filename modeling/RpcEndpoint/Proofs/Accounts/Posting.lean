import RpcEndpoint.Proofs.Accounts.Books
import RpcEndpoint.Proofs.Requests.Table
import RpcEndpoint.Proofs.Writes.Verdicts

/-!
# Postings

What the first step of a job does to the books, and which jobs come of it: `Posting` has one case
for each thing that can happen. What is to be known of the books is read off these cases.
-/

namespace RpcEndpoint

open Connection

variable {app : Application} {ω : Type}

/-! ## Kinds of jobs -/

namespace Job

/-- Whether a job belongs to a callback that is underway. -/
def runs : Job app → Bool
  | .react _ | .signal _ | .release _ => true
  | _ => false

/-- Whether a job may change nothing in the books. -/
def mayIdle : Job app → Bool
  | .carryOut (.reply _) | .carryOut (.order (.cancel _)) | .sweep => true
  | job => job.runs

/-- What holds of each kind of job that a callback brings holds of all that it brings. -/
theorem of_runs
    {property : Job app → Prop} (react : ∀ reaction, property (.react reaction))
    (signal : ∀ hooks, property (.signal hooks)) (release : ∀ ticket, property (.release ticket))
    {jobs : List (Job app)} (running : ∀ job ∈ jobs, job.runs = true) :
    ∀ job ∈ jobs, property job := by
  intro job isJob
  have runs := running job isJob
  cases job with
  | react reaction =>
      exact react reaction
  | signal hooks =>
      exact signal hooks
  | release ticket =>
      exact release ticket
  | _ =>
      contradiction

end Job

namespace Command

/-- The failure with which a command ends all pending requests at once. -/
def fells : Command app → Option Failure
  | .order (.failPending failure) | .order (.close failure) => some failure
  | .order .shutdown => some .closed
  | _ => none

/-- What comes after the pending requests have failed. -/
def closing : Command app → List (Job app)
  | .order (.close failure) => [.shut failure]
  | .order .shutdown => [.halt]
  | _ => []

end Command

/-! ## Rulings -/

/-- What the sender of a notification is told. -/
def Ruling.fate : Ruling → Except Failure Unit
  | .accepted => .ok ()
  | .refused failure => .error (.wire failure)
  | .dropped failure => .error failure

/-- How many messages were written. -/
def Ruling.count : Ruling → Nat
  | .accepted => 1
  | .refused _ | .dropped _ => 0

/-- What becomes of a notification that the worker has come to. -/
def Connection.rule [Wire ω] (message : Notification) (connection : Connection app ω) : Ruling :=
  match connection.closed with
  | some failure => .dropped failure
  | none => (connection.judge (.notification message)).ruling

/-- A message that was offered to the wire was not dropped. -/
theorem Connection.not_dropped_of_judge [Wire ω]
    (message : Outgoing) (connection : Connection app ω) (failure : Failure) :
    (connection.judge message).ruling ≠ .dropped failure := by
  unfold judge
  dsimp only
  split <;> simp

/-- A notification is dropped for the reason for which the connection is closed. -/
theorem Connection.rule_eq_dropped_iff [Wire ω]
    {message : Notification} {connection : Connection app ω} {failure : Failure} :
    connection.rule message = .dropped failure ↔ connection.closed = some failure := by
  unfold rule
  cases connection.closed with
  | some reason =>
      simp
  | none =>
      simpa using not_dropped_of_judge (.notification message) connection failure

theorem Job.verdict_notification [Wire ω]
    (message : Notification) (receipt : Option Nat) (connection : Connection app ω) :
    Job.verdict connection (.carryOut (.notification message receipt)) =
      some ⟨.notification message, connection.rule message⟩ := by
  unfold Job.verdict Connection.rule
  cases connection.closed <;> rfl

/-! ## Postings -/

/-- What the first step of a job may do to the books. -/
inductive Posting [Wire ω] (before : Connection app ω) (progress : Progress app ω) :
    Job app → Prop where
  | idle {job : Job app}
      (isIdle : job.mayIdle = true)
      (jobs : ∀ next ∈ progress.jobs, next.runs = true)
      (books : progress.connection.books = before.books) :
      Posting before progress job
  | rejected {message : Request} {options : Options} {sink : Sink app} (failure : Failure)
      (refusal : before.refusal? options = some failure)
      (jobs : progress.jobs = [.deliver ⟨message.id, sink⟩ (.error failure)])
      (books : progress.connection.books = before.books) :
      Posting before progress (.carryOut (.request message options sink))
  | admitted {message : Request} {options : Options} {sink : Sink app}
      (refusal : before.refusal? options = none)
      (jobs : progress.jobs = [.launch message options sink])
      (books : progress.connection.books = before.books) :
      Posting before progress (.carryOut (.request message options sink))
  /-- A notification gets its ruling. -/
  | ruled {message : Notification} {receipt : Option Nat}
      (jobs : progress.jobs = [])
      (books : progress.connection.books =
        { before.books with
          stats := { before.stats with
            notificationsSent := before.stats.notificationsSent + (before.rule message).count }
          receipts := (receipt.map (·, (before.rule message).fate)).toList ++ before.receipts }) :
      Posting before progress (.carryOut (.notification message receipt))
  | fed {chunk : Bytes}
      (jobs : progress.jobs =
        (before.framer.decoder.push chunk).1.fault.toList.map
            (fun fault => .emit (.malformedHeader fault)) ++
          (before.framer.decoder.push chunk).1.payloads.map .route)
      (books : progress.connection.books =
        { before.books with decoder := (before.framer.decoder.push chunk).2 }) :
      Posting before progress (.carryOut (.received chunk))
  | registered {registration : Registration app}
      (jobs : progress.jobs = [])
      (books : progress.connection.books =
        { before.books with handlers := before.handlers.register registration }) :
      Posting before progress (.carryOut (.order (.register registration)))
  | emptied
      (jobs : progress.jobs = [])
      (books : progress.connection.books =
        { before.books with decoder := before.framer.decoder.reset }) :
      Posting before progress (.carryOut (.order .resetFramer))
  | expelled {id : MessageId} (entry : PendingRequest app)
      (found : before.pending.find id = some entry)
      (jobs : progress.jobs =
        [.emit (.requestCancelled id entry.method), .finish entry (.error .cancelled)])
      (books : progress.connection.books =
        { before.books with
          pending := before.pending.remove id
          stats := { before.stats with pending := (before.pending.remove id).length } }) :
      Posting before progress (.carryOut (.order (.cancel id)))
  | drained {command : Command app} (failure : Failure) (count : Nat)
      (fells : command.fells = some failure)
      (jobs : progress.jobs =
        before.pending.inOrder.map (fun entry => .finish entry (.error failure)) ++
          command.closing)
      (counted : count = if before.pending = [] then before.stats.pending else 0)
      (books : progress.connection.books =
        { before.books with pending := [], stats := { before.stats with pending := count } }) :
      Posting before progress (.carryOut command)
  | launched {message : Request} {options : Options} {sink : Sink app}
      (entry : PendingRequest app)
      (promise : entry.promise = ⟨message.id, sink⟩)
      (jobs : progress.jobs = [.send message])
      (books : progress.connection.books =
        { before.books with pending := before.pending.insert entry }) :
      Posting before progress (.launch message options sink)
  | sent {message : Request}
      (jobs : progress.jobs = [])
      (books : progress.connection.books =
        { before.books with
          stats := { before.stats with
            requestsSent := before.stats.requestsSent + 1
            pending := before.pending.length } }) :
      Posting before progress (.send message)
  /-- A request that the wire has refused is taken back. -/
  | withdrawn {message : Request} (failure : WireFailure)
      (jobs : progress.jobs = (before.pending.find message.id).toList.map
        fun entry => .finish entry (.error (.wire failure)))
      (books : progress.connection.books =
        { before.books with
          pending := before.pending.remove message.id
          stats := { before.stats with pending := (before.pending.remove message.id).length } }) :
      Posting before progress (.send message)
  | honoured {promise : Promise app} {outcome : Except Failure Bytes}
      (jobs : ∀ next ∈ progress.jobs, next.runs = true)
      (books : progress.connection.books =
        { before.books with marks := before.marks ++ [.completed promise.id outcome] }) :
      Posting before progress (.deliver promise outcome)
  | finished {entry : PendingRequest app} {outcome : Except Failure Bytes}
      (jobs : progress.jobs = [.deliver entry.promise outcome])
      (books : progress.connection.books = before.books) :
      Posting before progress (.finish entry outcome)
  | late {entry : PendingRequest app}
      (jobs : progress.jobs =
        [.emit (.requestTimedOut entry.id entry.method),
          .finish entry (.error entry.lateness)])
      (books : progress.connection.books = before.books) :
      Posting before progress (.timeOut entry)
  | announced {event : Event}
      (jobs : ∀ next ∈ progress.jobs, next.runs = true)
      (books : progress.connection.books =
        { before.books with
          stats := before.stats.count event
          marks := before.marks ++ [.emitted event] }) :
      Posting before progress (.emit event)
  | matched {payload : Bytes} {response : Response} (entry : PendingRequest app)
      (classified : Incoming.classify payload = .response response)
      (found : before.pending.find response.id = some entry)
      (jobs : progress.jobs = [.finish entry (.ok payload)])
      (books : progress.connection.books =
        { before.books with
          pending := before.pending.remove response.id
          stats := { before.stats with
            responsesMatched := before.stats.responsesMatched + 1
            pending := (before.pending.remove response.id).length } }) :
      Posting before progress (.route payload)
  | unmatched {payload : Bytes} {response : Response}
      (classified : Incoming.classify payload = .response response)
      (absent : before.pending.find response.id = none)
      (jobs : progress.jobs = [.emit (.unmatchedResponse response.id)])
      (books : progress.connection.books = before.books) :
      Posting before progress (.route payload)
  | notified {payload : Bytes} {message : Notification}
      (react : IncomingNotification → Reaction app)
      (classified : Incoming.classify payload = .notification message)
      (handler : before.handlers.forNotification message.method = some react)
      (jobs : progress.jobs = [.react (react ⟨message.method, message.params, payload⟩)])
      (books : progress.connection.books =
        { before.books with
          stats := { before.stats with
            incomingNotifications := before.stats.incomingNotifications + 1 }
          marks := before.marks ++ [.notified ⟨message.method, message.params, payload⟩] }) :
      Posting before progress (.route payload)
  | unhandled {payload : Bytes} {message : Notification}
      (classified : Incoming.classify payload = .notification message)
      (handler : before.handlers.forNotification message.method = none)
      (jobs : progress.jobs = [.emit (.unhandledNotification message.method)])
      (books : progress.connection.books =
        { before.books with
          stats := { before.stats with
            incomingNotifications := before.stats.incomingNotifications + 1 } }) :
      Posting before progress (.route payload)
  | asked {payload : Bytes} {message : Request}
      (react : IncomingRequest → TicketNumber → Reaction app)
      (classified : Incoming.classify payload = .request message)
      (handler : before.handlers.forRequest message.method = some react)
      (jobs : progress.jobs =
        [.react (react ⟨message.id, message.method, message.params, payload⟩ before.nextTicket),
          .release before.nextTicket])
      (books : progress.connection.books =
        { before.books with
          stats := { before.stats with incomingRequests := before.stats.incomingRequests + 1 }
          marks := before.marks ++
            [.asked ⟨message.id, message.method, message.params, payload⟩] }) :
      Posting before progress (.route payload)
  | turnedAway {payload : Bytes} {message : Request}
      (classified : Incoming.classify payload = .request message)
      (handler : before.handlers.forRequest message.method = none)
      (jobs : progress.jobs = [])
      (books : progress.connection.books =
        { before.books with
          stats := { before.stats with
            incomingRequests := before.stats.incomingRequests + 1 } }) :
      Posting before progress (.route payload)
  | wondered {payload : Bytes} (reason : Unrecognized)
      (classified : Incoming.classify payload = .unrecognized reason)
      (jobs : progress.jobs =
        .emit (.undecodablePayload payload.length reason) ::
          before.handlers.undecodable.toList.map fun react => .puzzle payload (react payload))
      (books : progress.connection.books = before.books) :
      Posting before progress (.route payload)
  | puzzled {payload : Bytes} {reaction : Reaction app}
      (jobs : progress.jobs = [.react reaction])
      (books : progress.connection.books =
        { before.books with marks := before.marks ++ [.puzzled payload] }) :
      Posting before progress (.puzzle payload reaction)
  | shut {failure : Failure}
      (jobs : progress.jobs = [])
      (books : progress.connection.books = { before.books with closed := some failure }) :
      Posting before progress (.shut failure)
  | halted
      (jobs : progress.jobs = [])
      (books : progress.connection.books =
        { before.books with
          running := false
          slips := []
          receipts := loseSlips before.slips before.receipts }) :
      Posting before progress .halt
  | swept (now : Instant)
      (jobs : progress.jobs = (before.pending.due now).map .timeOut)
      (books : progress.connection.books =
        { before.books with
          pending := before.pending.notDue now
          stats := { before.stats with pending := (before.pending.notDue now).length } }) :
      Posting before progress .sweep

theorem PendingTable.inOrder_eq_nil_iff {table : PendingTable app} :
    table.inOrder = [] ↔ table = [] := by
  have sameLength := table.perm_inOrder.length_eq
  rw [← List.length_eq_zero_iff, ← sameLength, List.length_eq_zero_iff]

/-! ## Messages -/

namespace Connection

/-- A notification is reported as it was ruled. -/
private theorem books_writeNotification [Wire ω]
    (message : Notification) (receipt : Option Nat) (connection : Connection app ω) :
    (connection.writeNotification message receipt).books =
      { connection.books with
        stats := { connection.stats with
          notificationsSent :=
            connection.stats.notificationsSent + (connection.rule message).count }
        receipts :=
          (receipt.map (·, (connection.rule message).fate)).toList ++ connection.receipts } := by
  unfold writeNotification rule
  cases connection.closed with
  | some failure =>
      exact books_reportFate receipt _ connection
  | none =>
      have sameBooks := books_transmit message.toValue.encode connection
      have sameOutcome : (connection.transmit message.toValue.encode).1 =
          (Wire.write (Framing.encodeFrame message.toValue.encode) connection.framer.wire).1 := rfl
      dsimp only [judge, Outgoing.frame]
      rw [← sameOutcome]
      rcases written : connection.transmit message.toValue.encode with ⟨outcome, sent⟩
      rw [written] at sameBooks
      have sameStats : sent.stats = connection.stats := congrArg Books.stats sameBooks
      have sameReceipts : sent.receipts = connection.receipts := congrArg Books.receipts sameBooks
      rw [← sameBooks, ← sameStats, ← sameReceipts]
      cases outcome with
      | ok done =>
          exact books_reportFate receipt _ _
      | error failure =>
          exact books_reportFate receipt _ sent

private theorem posting_launch [Wire ω]
    (now : Instant) (message : Request) (options : Options) (sink : Sink app)
    (connection : Connection app ω) :
    Posting connection ((Job.launch message options sink).step now connection)
      (.launch message options sink) := by
  have watched := books_watch message.id options.token connection
  change Posting connection
    { jobs := [.send message]
      connection := (connection.watch message.id options.token).2.enter now message
        options.timeout sink (connection.watch message.id options.token).1 }
    (.launch message options sink)
  rcases watching : connection.watch message.id options.token with ⟨attachment, hung⟩
  rw [watching] at watched
  have samePending : hung.pending = connection.pending := congrArg Books.pending watched
  let deadline := (options.timeout.or hung.defaultTimeout).bind (Deadline.after? now)
  refine .launched ⟨message.id, message.method, sink, deadline, attachment⟩ rfl rfl ?_
  rw [← watched, ← samePending]
  rfl

private theorem posting_offer [Wire ω]
    (message : Request) (connection : Connection app ω) :
    Posting connection (connection.offer message) (.send message) := by
  have sameBooks := books_transmit message.toValue.encode connection
  unfold offer
  rcases written : connection.transmit message.toValue.encode with ⟨outcome, sent⟩
  rw [written] at sameBooks
  have samePending : sent.pending = connection.pending := congrArg Books.pending sameBooks
  have sameStats : sent.stats = connection.stats := congrArg Books.stats sameBooks
  cases outcome with
  | ok done =>
      refine .sent rfl ?_
      rw [← sameBooks, ← sameStats, ← samePending]
      rfl
  | error failure =>
      refine .withdrawn failure ?_ ?_
      · rw [← samePending]
      · rw [← sameBooks, ← sameStats, ← samePending]
        rfl

/-! ## Early ends -/

private theorem posting_drain [Wire ω]
    (command : Command app) {failure : Failure} (fells : command.fells = some failure)
    (connection : Connection app ω) :
    Posting connection
      { connection.drain failure with
        jobs := (connection.drain failure).jobs ++ command.closing } (.carryOut command) := by
  unfold drain
  split
  · rename_i nothing
    have isEmpty := PendingTable.inOrder_eq_nil_iff.mp nothing
    refine .drained failure connection.stats.pending fells ?_ (if_pos isEmpty).symm ?_
    · rw [nothing]
      rfl
    · rw [← isEmpty]
      rfl
  · rename_i first rest isOrder
    have notEmpty : connection.pending ≠ [] := by
      intro isEmpty
      rw [PendingTable.inOrder_eq_nil_iff.mpr isEmpty] at isOrder
      contradiction
    refine .drained failure 0 fells ?_ (if_neg notEmpty).symm rfl
    rw [isOrder]

private theorem posting_expel [Wire ω] (id : MessageId) (connection : Connection app ω) :
    Posting connection (connection.expel id) (.carryOut (.order (.cancel id))) := by
  unfold expel
  split
  · rename_i entry found
    exact .expelled entry found rfl rfl
  · exact .idle rfl (by simp) rfl

private theorem posting_sweep [Wire ω] (now : Instant) (connection : Connection app ω) :
    Posting connection (Job.sweep.step now connection) .sweep := by
  unfold Job.step
  dsimp only
  split
  · unfold sweep
    split
    · exact .idle rfl (by simp) rfl
    · rename_i first rest isDue
      refine .swept now ?_ rfl
      rw [isDue]
  · exact .idle rfl (by simp) rfl

private theorem posting_heed [Wire ω] (order : Order app) (connection : Connection app ω) :
    Posting connection (connection.heed order) (.carryOut (.order order)) := by
  cases order with
  | register registration =>
      exact .registered rfl rfl
  | cancel id =>
      exact posting_expel id connection
  | failPending failure =>
      have posted := posting_drain (.order (.failPending failure)) rfl connection
      have nothing : Command.closing (.order (.failPending failure) : Command app) = [] := rfl
      rwa [nothing, List.append_nil] at posted
  | close failure =>
      exact posting_drain (.order (.close failure)) rfl connection
  | resetFramer =>
      exact .emptied rfl rfl
  | shutdown =>
      exact posting_drain (.order .shutdown) rfl connection

private theorem posting_begin [Wire ω] (command : Command app) (connection : Connection app ω) :
    Posting connection (connection.begin command) (.carryOut command) := by
  cases command with
  | request message options sink =>
      unfold Connection.begin weigh
      dsimp only
      split
      · rename_i failure refusal
        exact .rejected failure refusal rfl rfl
      · rename_i refusal
        exact .admitted refusal rfl rfl
  | notification message receipt =>
      exact .ruled rfl (books_writeNotification message receipt connection)
  | reply response =>
      exact .idle rfl (by simp [Connection.begin]) (books_transmit _ connection)
  | received chunk =>
      exact .fed rfl rfl
  | order order =>
      exact posting_heed order connection

/-! ## Payloads -/

private theorem posting_sort [Wire ω] (payload : Bytes) (connection : Connection app ω) :
    Posting connection (connection.sort payload) (.route payload) := by
  unfold sort
  cases classified : Incoming.classify payload with
  | response response =>
      dsimp only
      unfold pair
      split
      · rename_i entry found
        exact .matched entry classified found rfl rfl
      · rename_i absent
        exact .unmatched classified absent rfl rfl
  | notification message =>
      dsimp only
      unfold notice
      dsimp only
      split
      · rename_i react handler
        exact .notified react classified handler rfl (books_record _ _)
      · rename_i handler
        exact .unhandled classified handler rfl rfl
  | request message =>
      dsimp only
      unfold consider openTicket
      dsimp only
      split
      · rename_i react handler
        exact .asked react classified handler rfl (books_record _ _)
      · rename_i handler
        exact .turnedAway classified handler rfl (books_answer _ _ _)
  | unrecognized reason =>
      exact .wondered reason classified rfl rfl

/-! ## Outcomes and callbacks -/

private theorem posting_honour [Wire ω]
    (promise : Promise app) (outcome : Except Failure Bytes) (connection : Connection app ω) :
    Posting connection (connection.honour promise outcome) (.deliver promise outcome) := by
  have recorded := books_record (.completed promise.id outcome) connection
  unfold honour
  split
  · exact .honoured (by simp) ((books_fillMailbox _ _ _).trans recorded)
  · exact .honoured (by simp [Job.runs]) recorded

private theorem runs_advance (reaction : Reaction app) (connection : Connection app ω) :
    ∀ next ∈ (reaction.advance connection).jobs, next.runs = true := by
  cases reaction <;> simp [Reaction.advance, Job.runs]

end Connection

/-- Whatever the worker does first for a job, it posts it in one of these ways. -/
theorem Job.posting [Wire ω] (now : Instant) (job : Job app) (connection : Connection app ω) :
    Posting connection (job.step now connection) job := by
  cases job with
  | carryOut command =>
      exact posting_begin command connection
  | launch message options sink =>
      exact posting_launch now message options sink connection
  | send message =>
      exact posting_offer message connection
  | deliver promise outcome =>
      exact posting_honour promise outcome connection
  | finish entry outcome =>
      exact .finished rfl (books_unhook entry connection)
  | timeOut entry =>
      exact .late rfl rfl
  | emit event =>
      refine .announced ?_ (books_record _ _)
      intro next isNext
      obtain ⟨react, -, rfl⟩ := List.mem_map.mp isNext
      rfl
  | route payload =>
      exact posting_sort payload connection
  | puzzle payload reaction =>
      exact .puzzled rfl (books_record _ _)
  | release ticket =>
      exact .idle rfl (by simp [Job.step]) (books_releaseTicket ticket connection)
  | react reaction =>
      exact .idle rfl (runs_advance reaction connection) (books_advance reaction connection)
  | signal hooks =>
      cases hooks with
      | nil =>
          exact .idle rfl (by simp [Job.step]) rfl
      | cons hook rest =>
          exact .idle rfl (by simp [Job.step, Job.runs]) (books_setOff connection hook)
  | shut failure =>
      exact .shut rfl rfl
  | halt =>
      exact .halted rfl (books_halt connection)
  | sweep =>
      exact posting_sweep now connection

end RpcEndpoint
