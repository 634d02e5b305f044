import RpcEndpoint.Proofs.Arrival.Consumption
import RpcEndpoint.Proofs.Closing.Rejections

/-!
# A close is final

From the close on, no request and no notification goes out, each is rejected with the reason of the
last order to close, and no response finds a request. The peer is still heard and still answered.
-/

namespace RpcEndpoint

open Connection

variable {app : Application} {ω : Type}

/-! ## After the close -/

/-- What has become of requests, notifications and payloads since a machine was left whose
connection was closed. -/
structure Sealed (reason : Failure) (base : Machine app ω) (rejected : List (Rejection app))
    (verdicts : List Verdict) (receptions : List Reception) (machine : Machine app ω) : Prop where
  empty : machine.connection.books.pending = []
  fresh : machine.agenda.any Job.pursues = false
  reasons : ∃ handled current, machine.taken = base.taken ++ handled ∧
    machine.connection.books.closed = some current ∧
    latestReason reason handled = (reasonsOf machine.agenda).getLastD current ∧
    rejections reason handled = rejected ++ machine.agenda.filterMap (Job.rejection? current)
  outcomes : machine.connection.books.marks.filterMap Occurrence.outcome? ++
      machine.agenda.filterMap Job.handout? =
    base.connection.books.marks.filterMap Occurrence.outcome? ++
      rejected.filterMap Rejection.outcome?
  receipts : ∀ held ∈ rejected.filterMap Rejection.receipt?,
    held ∈ machine.connection.books.receipts
  verdicts : verdicts.filter (fun verdict => verdict.message.reply?.isNone) =
    rejected.filterMap Rejection.verdict?
  unmatched : ∀ reception ∈ receptions, ∀ id, reception.course ≠ .matched id

private theorem rejections_of_uncarried
    {jobs : List (Job app)} (uncarried : ∀ command, .carryOut command ∉ jobs) (reason : Failure) :
    jobs.filterMap (Job.rejection? reason) = [] := by
  refine List.filterMap_eq_nil_iff.mpr fun job isJob => ?_
  cases job with
  | carryOut command =>
      exact absurd isJob (uncarried command)
  | _ =>
      rfl

/-- No response finds a request when nothing is pending. -/
private theorem course_of_empty
    {connection : Connection app ω} (isEmpty : connection.pending = []) (payload : Bytes)
    (id : MessageId) : connection.course payload ≠ .matched id := by
  unfold Connection.course
  rw [isEmpty]
  cases Incoming.classify payload with
  | response response =>
      exact Course.noConfusion
  | notification message =>
      dsimp only
      split <;> exact Course.noConfusion
  | request message =>
      dsimp only
      split <;> exact Course.noConfusion
  | unrecognized fault =>
      exact Course.noConfusion

namespace Sealed

variable {reason : Failure} {base before after : Machine app ω}
  {rejected : List (Rejection app)} {verdicts : List Verdict} {receptions : List Reception}

/-- What other threads do besides touches nothing of this. -/
private theorem beside
    (isSealed : Sealed reason base rejected verdicts receptions before)
    (agenda : after.agenda = before.agenda) (taken : after.taken = before.taken)
    (pending : after.connection.books.pending = before.connection.books.pending)
    (closed : after.connection.books.closed = before.connection.books.closed)
    (marks : after.connection.books.marks = before.connection.books.marks)
    (receipts : after.connection.books.receipts = before.connection.books.receipts) :
    Sealed reason base rejected verdicts receptions after := by
  obtain ⟨empty, fresh, reasons, outcomes, answered, isRejected, unmatched⟩ := isSealed
  rw [← agenda] at fresh reasons outcomes
  rw [← taken, ← closed] at reasons
  rw [← marks] at outcomes
  rw [← receipts] at answered
  exact ⟨pending.trans empty, fresh, reasons, outcomes, answered, isRejected, unmatched⟩

variable [Wire ω]

/-- The worker does the first step of a job. -/
private theorem worked
    (isSealed : Sealed reason base rejected verdicts receptions before) (orderly : Orderly before)
    {job : Job app} {rest : List (Job app)} (agenda : before.agenda = job :: rest) :
    Sealed reason base (rejected ++ job.rejected before.connection)
      (verdicts ++ (job.verdict before.connection).toList)
      (receptions ++ job.received before.connection)
      (before.absorb rest (job.step before.now before.connection)) := by
  have posting := job.posting before.now before.connection
  obtain ⟨empty, fresh, ⟨handled, current, taken, isClosed, latest, all⟩, outcomes, receipts,
    isRejected, unmatched⟩ := isSealed
  rw [agenda, List.any_cons, Bool.or_eq_false_iff] at fresh
  rw [agenda] at latest all outcomes
  have rejects := posting.rejects empty isClosed fresh.1
  have uncarried : ∀ command, .carryOut command ∉ rest := orderly.not_carried_later agenda
  refine ⟨?_, ?_, ?_, ?_, ?_, ?_, ?_⟩
  · refine posting.stays_empty empty ?_
    rintro message options sink rfl
    exact Bool.noConfusion fresh.1
  · change (_ ++ rest).any Job.pursues = false
    rw [List.any_append, rejects.fresh, fresh.2]
    rfl
  · change ∃ handled current, _ ∧ _ ∧ _ = (reasonsOf (_ ++ rest)).getLastD current ∧
      _ = _ ++ List.filterMap (Job.rejection? current) (_ ++ rest)
    have isRejection : (job.rejected before.connection) = (job.rejection? current).toList := by
      have sameClosed : before.connection.closed = some current := isClosed
      rw [Job.rejected, sameClosed]
      rfl
    rw [filterMap_cons_eq_append, rejections_of_uncarried uncarried, List.append_nil] at all
    rw [reasonsOf_cons] at latest
    rcases posting.reasons with ⟨sameClosed, jobs⟩ | ⟨failure, rfl, noJobs, isShut⟩
    · refine ⟨handled, current, taken, sameClosed.trans isClosed, ?_, ?_⟩
      · rw [reasonsOf_append, jobs]
        exact latest
      · rw [List.filterMap_append, rejections_of_uncarried posting.not_carried,
          rejections_of_uncarried uncarried, isRejection]
        exact all.trans (List.append_nil _).symm
    · refine ⟨handled, failure, taken, isShut, ?_, ?_⟩
      · rw [noJobs]
        exact latest.trans List.getLastD_cons
      · rw [noJobs, List.nil_append, rejections_of_uncarried uncarried, isRejection]
        exact all.trans (List.append_nil _).symm
  · -- A rejection comes with a command, and behind a command no outcome waits.
    have inOrder : (job.rejected before.connection).filterMap Rejection.outcome? ++
        rest.filterMap Job.handout? =
          rest.filterMap Job.handout? ++
            (job.rejected before.connection).filterMap Rejection.outcome? := by
      cases job with
      | carryOut command =>
          rw [(orderly.alone agenda).1]
          exact List.append_nil _
      | _ =>
          simp [Job.rejected, Job.rejection?]
    change _ ++ List.filterMap Job.handout? (_ ++ rest) = _
    rw [List.filterMap_append, ← List.append_assoc, List.filterMap_append, ← List.append_assoc,
      ← outcomes, filterMap_cons_eq_append]
    refine (congrArg (· ++ _) rejects.outcomes).trans ?_
    simp only [List.append_assoc, inOrder]
  · intro held isHeld
    rw [List.filterMap_append] at isHeld
    refine rejects.receipts held (List.mem_append.mpr ?_)
    exact (List.mem_append.mp isHeld).imp_left (receipts held)
  · rw [List.filter_append, isRejected, Job.verdict_of_closed isClosed fresh.1,
      List.filterMap_append]
  · intro reception isReception id
    rcases List.mem_append.mp isReception with wasReceived | isReceived
    · exact unmatched reception wasReceived id
    · cases job with
      | route payload =>
          rw [List.mem_singleton.mp isReceived]
          exact course_of_empty empty payload id
      | _ =>
          contradiction

theorem next
    (isSealed : Sealed reason base rejected verdicts receptions before) (orderly : Orderly before)
    {choice : Choice app ω} (booked : Booked before choice after) :
    Sealed reason base (rejected ++ before.jotted Job.rejected choice)
      (verdicts ++ before.jotted (fun connection job => (job.verdict connection).toList) choice)
      (receptions ++ before.jotted Job.received choice) after := by
  have quiet {reached : Machine app ω}
      (still : Sealed reason base rejected verdicts receptions reached) :
      Sealed reason base (rejected ++ []) (verdicts ++ []) (receptions ++ []) reached := by
    simpa only [List.append_nil] using still
  cases booked with
  | @worked job rest agenda =>
      rw [Machine.jotted_work _ agenda, Machine.jotted_work _ agenda, Machine.jotted_work _ agenda]
      exact isSealed.worked orderly agenda
  | @taken command rest agenda isRunning inbox =>
      refine quiet ?_
      obtain ⟨empty, fresh, ⟨handled, current, taken, isClosed, latest, all⟩, outcomes, receipts,
        isRejected, unmatched⟩ := isSealed
      rw [agenda] at latest all outcomes
      have sameReason : latestReason reason handled = current := latest
      refine ⟨empty, rfl, ⟨handled ++ [command], current, ?_, isClosed, ?_, ?_⟩, outcomes, receipts,
        isRejected, unmatched⟩
      · rw [taken, List.append_assoc]
      · have ahead : reasonsOf [.carryOut command, .sweep] = reasonsIn [command] := rfl
        rw [latestReason_append, sameReason, ahead]
        rfl
      · have ahead : [(.carryOut command : Job app), .sweep].filterMap (Job.rejection? current) =
            rejections current [command] := by
          simp only [rejections, List.filterMap_cons, Job.rejection?, List.filterMap_nil,
            List.append_nil]
          cases command.rejection? current <;> rfl
        rw [rejections_append, sameReason, all, ahead, List.append_assoc]
        rfl
  | woken agenda isRunning =>
      refine quiet ?_
      obtain ⟨empty, fresh, reasons, outcomes, receipts, isRejected, unmatched⟩ := isSealed
      rw [agenda] at reasons outcomes
      exact ⟨empty, rfl, reasons, outcomes, receipts, isRejected, unmatched⟩
  | reordered agenda =>
      refine quiet ?_
      obtain ⟨empty, fresh, reasons, outcomes, receipts, isRejected, unmatched⟩ := isSealed
      rw [agenda] at fresh reasons outcomes
      exact ⟨empty, fresh, reasons, outcomes, receipts, isRejected, unmatched⟩
  | called isRunning agenda taken history books =>
      apply quiet
      apply isSealed.beside agenda taken <;> rw [books]
  | beside unworked silent agenda taken history books =>
      rw [Machine.jotted_of_unworked unworked, Machine.jotted_of_unworked unworked,
        Machine.jotted_of_unworked unworked]
      apply quiet
      apply isSealed.beside agenda taken <;> rw [books]

end Sealed

theorem sealed_run [Wire ω]
    {base : Machine app ω} (reachable : base.Reachable) (idle : base.agenda = [])
    {reason : Failure} (isClosed : base.connection.closed = some reason)
    (schedule : List (Choice app ω)) :
    Sealed reason base (base.rejected schedule) (base.verdicts schedule)
      (base.receptions schedule) (base.run schedule) := by
  refine reachable.schedule_induction
    (fun schedule reached => Sealed reason base (base.rejected schedule) (base.verdicts schedule)
      (base.receptions schedule) reached) ?_ ?_ schedule
  · have isSealed : base.connection.books.closed ≠ none := by
      intro isOpen
      rw [show base.connection.books.closed = some reason from isClosed] at isOpen
      contradiction
    have empty := ((sealing_of_reachable reachable).settled (.inl isSealed)).1
    refine ⟨empty, ?_, ⟨[], reason, (List.append_nil _).symm, isClosed, ?_, ?_⟩, ?_, ?_, rfl, ?_⟩
    · rw [idle]
      rfl
    · rw [idle]
      rfl
    · rw [idle]
      rfl
    · rw [idle]
      rfl
    · exact fun held isHeld => absurd isHeld List.not_mem_nil
    · exact fun reception isReception => absurd isReception List.not_mem_nil
  · intro schedule choice orderly booked isSealed
    have further := isSealed.next orderly booked
    rw [Machine.verdicts_eq_jottings] at further ⊢
    rw [Machine.rejected, Machine.receptions, Machine.jottings_snoc, Machine.jottings_snoc,
      Machine.jottings_snoc]
    exact further

/-! ## Since a machine was left -/

section Since

variable [Wire ω] {base : Machine app ω}

/-- What was put out since then are the messages that were accepted since then. -/
theorem output_since (reachable : base.Reachable) (later : List (Choice app ω)) :
    (base.run later).connection.output View.nothing =
      (acceptedAmong (base.verdicts later)).foldl (Output.add (View.nothing : View ω Unit))
        (base.connection.output View.nothing) := by
  obtain ⟨wire, memory, defaultTimeout, earlier, rfl⟩ := reachable
  have before := (judged_nothing wire memory defaultTimeout earlier).output
  have after := (judged_nothing wire memory defaultTimeout (earlier ++ later)).output
  rw [Machine.run_append, Machine.verdicts_append, acceptedAmong, List.filterMap_append,
    List.foldl_append] at after
  rw [before]
  exact after

/-- Between two commands, each message that was taken since then has its verdict. -/
theorem messages_since
    (reachable : base.Reachable) (idle : base.agenda = []) {later : List (Choice app ω)}
    (idleAgain : (base.run later).agenda = []) {handled : List (Command app)}
    (taken : (base.run later).taken = base.taken ++ handled) :
    (base.verdicts later).map (·.message) = messagesIn handled := by
  obtain ⟨wire, memory, defaultTimeout, earlier, rfl⟩ := reachable
  have before := (judged_nothing wire memory defaultTimeout earlier).messages
  have after := (judged_nothing wire memory defaultTimeout (earlier ++ later)).messages
  have nothing : outgoingOf ([] : List (Job app)) = [] := rfl
  have parted (left right : List (Command app)) :
      messagesIn (left ++ right) = messagesIn left ++ messagesIn right := List.filterMap_append
  rw [idle, nothing, List.append_nil] at before
  rw [Machine.run_append, idleAgain, nothing, List.append_nil, Machine.verdicts_append,
    List.map_append, taken, parted, before] at after
  exact List.append_cancel_left after

/-- Between two commands, the payloads that have come in since then were received, and the log tells
so. -/
theorem receptions_since
    (reachable : base.Reachable) (idle : base.agenda = []) {later : List (Choice app ω)}
    (idleAgain : (base.run later).agenda = []) {handled : List (Command app)}
    (taken : (base.run later).taken = base.taken ++ handled) :
    (base.receptions later).map (·.payload) =
        (extract base.connection.framer.decoder handled).1 ∧
      (base.run later).connection.traces =
        base.connection.traces ++ (base.receptions later).flatMap Reception.traces := by
  have inbound : extract .empty base.taken = _ := inbound_of_reachable reachable
  have inboundAgain := inbound_of_reachable (reachable.run later)
  rw [idle] at inbound
  have allRouted := (inbound_of_reachable reachable).routedIn_eq idle
  have allRoutedAgain := inboundAgain.routedIn_eq idleAgain
  obtain ⟨wire, memory, defaultTimeout, earlier, rfl⟩ := reachable
  have before := consumed_run wire memory defaultTimeout earlier
  have after := consumed_run wire memory defaultTimeout (earlier ++ later)
  dsimp only at before after
  rw [Machine.run_append, Machine.receptions, Machine.jottings_append] at after
  refine ⟨?_, ?_⟩
  · have payloads := after.payloads.trans allRoutedAgain
    have payloadsBefore := before.payloads.trans allRouted
    rw [Machine.receptions] at payloadsBefore
    rw [taken, extract_append, List.map_append, payloadsBefore] at payloads
    have received := List.append_cancel_left payloads
    rw [inbound] at received
    exact received
  · have traces := after.traces
    have tracesBefore := before.traces
    rw [idleAgain, List.flatMap_append] at traces
    rw [idle, Machine.receptions] at tracesBefore
    rw [← tracesBefore] at traces
    rw [Connection.traces_eq, Connection.traces_eq]
    simp only [List.flatMap_nil, List.append_nil] at traces
    exact traces

end Since

/-! ## The close -/

theorem Connection.outcomes_eq (connection : Connection app ω) :
    connection.outcomes = connection.marks.filterMap Occurrence.outcome? := by
  refine (filterMap_marks (fun occurrence unmarked => ?_) connection).symm
  cases occurrence <;> first | rfl | contradiction

theorem Connection.course_response
    {payload : Bytes} {response : Response}
    (classified : Incoming.classify payload = .response response) (connection : Connection app ω) :
    connection.course payload = .matched response.id ∨
      connection.course payload = .unmatched response.id := by
  unfold course
  rw [classified]
  dsimp only
  split
  · exact .inl rfl
  · exact .inr rfl

private theorem eq_map_reply
    {messages : List Outgoing}
    (areReplies : ∀ message ∈ messages, ∃ response, message = .reply response) :
    messages = (repliesAmong messages).map .reply := by
  induction messages with
  | nil =>
      rfl
  | cons message rest inductionHypothesis =>
      obtain ⟨response, rfl⟩ := areReplies message List.mem_cons_self
      have later := inductionHypothesis fun other isOther =>
        areReplies other (List.mem_cons_of_mem _ isOther)
      exact congrArg (_ :: ·) later

/-- Messages that are not replies are not accepted, when each of them is dropped. -/
private theorem accepted_eq_replies
    {verdicts : List Verdict} {rejected : List (Rejection app)}
    (isRejected : verdicts.filter (fun verdict => verdict.message.reply?.isNone) =
      rejected.filterMap Rejection.verdict?) :
    acceptedAmong verdicts = (repliesAmong (acceptedAmong verdicts)).map .reply := by
  refine eq_map_reply fun message isAccepted => ?_
  obtain ⟨verdict, isVerdict, accepts⟩ := List.mem_filterMap.mp isAccepted
  have isMessage : message = verdict.message ∧ verdict.ruling = .accepted := by
    unfold Verdict.accepted? at accepts
    split at accepts
    · rename_i isRuling
      exact ⟨(Option.some.inj accepts).symm, isRuling⟩
    · contradiction
  rw [isMessage.1]
  cases found : verdict.message.reply? with
  | some response =>
      refine ⟨response, ?_⟩
      cases isReply : verdict.message <;> simp_all [Outgoing.reply?]
  | none =>
      have isDropped : verdict ∈ rejected.filterMap Rejection.verdict? := by
        rw [← isRejected]
        refine List.mem_filter.mpr ⟨isVerdict, ?_⟩
        rw [found]
        rfl
      obtain ⟨rejection, -, isRuled⟩ := List.mem_filterMap.mp isDropped
      obtain ⟨other, -, rfl⟩ := Option.map_eq_some_iff.mp isRuled
      exact absurd isMessage.2 Ruling.noConfusion

/-- Let the worker have carried out an order to close, and perhaps others, and let it be between two
commands. Whatever happens then, nothing is pending, and nothing goes out but replies, each of which
is offered to the wire; the two counts stay as they are. Every response is unmatched. When the
worker is between two commands again, each request and each notification that it has come to since
then was rejected with the reason of the last order to close, whether its token was triggered or
not: the request has come to this failure, the notification was not offered, and its sender was told
so. The other payloads were received, and the replies were offered, like before. -/
theorem close_is_final [Wire ω]
    {closed : Machine app ω} (reachable : closed.Reachable) (idle : closed.agenda = [])
    {reason : Failure} (isClosed : (reasonsIn closed.taken).getLast? = some reason)
    (later : List (Choice app ω)) :
    let reached := closed.run later
    let verdicts := closed.verdicts later
    let receptions := closed.receptions later
    let replies := repliesAmong (acceptedAmong verdicts)
    (reached.connection.pending = [] ∧
      reached.connection.stats.requestsSent = closed.connection.stats.requestsSent ∧
      reached.connection.stats.notificationsSent = closed.connection.stats.notificationsSent ∧
      reached.connection.written =
        closed.connection.written ++ replies.map fun reply => Outgoing.frame (.reply reply)) ∧
    (∀ verdict ∈ verdicts, verdict.message.reply?.isSome = true →
      ∀ failure, verdict.ruling ≠ .dropped failure) ∧
    (∀ reception ∈ receptions, ∀ response,
      Incoming.classify reception.payload = .response response →
        reception.course = .unmatched response.id) ∧
    (reached.agenda = [] → ∃ handled, reached.taken = closed.taken ++ handled ∧
      let rejected := rejections reason handled
      reached.connection.outcomes =
          closed.connection.outcomes ++ rejected.filterMap Rejection.outcome? ∧
        verdicts.filter (fun verdict => verdict.message.reply?.isNone) =
          rejected.filterMap Rejection.verdict? ∧
        (∀ held ∈ rejected.filterMap Rejection.receipt?, held ∈ reached.connection.receipts) ∧
        verdicts.map (·.message) = messagesIn handled ∧
        receptions.map (·.payload) = (extract closed.connection.framer.decoder handled).1 ∧
        reached.connection.traces =
          closed.connection.traces ++ receptions.flatMap Reception.traces) := by
  intro reached verdicts receptions replies
  have hasReason : closed.connection.closed = some reason := by
    obtain ⟨past, isTaken, isLast⟩ := (sealing_of_reachable reachable).reasons
    rw [idle] at isTaken
    rw [isTaken] at isClosed
    exact isLast.trans ((congrArg _ (List.append_nil past)).symm.trans isClosed)
  have isSealed := sealed_run reachable idle hasReason later
  have output := output_since reachable later
  have onlyReplies : acceptedAmong verdicts = replies.map .reply :=
    accepted_eq_replies isSealed.verdicts
  change _ = (acceptedAmong verdicts).foldl _ _ at output
  rw [onlyReplies] at output
  have noRequest : requestsAmong (replies.map .reply) = [] := by
    simp [requestsAmong, Outgoing.request?]
  have noNotification : notificationsAmong (replies.map .reply) = [] := by
    simp [notificationsAmong, Outgoing.notification?]
  refine ⟨⟨isSealed.empty, ?_, ?_, ?_⟩, ?_, ?_, ?_⟩
  · have counted := congrArg Output.requestsSent output
    rw [Output.requestsSent_foldl, noRequest] at counted
    exact counted
  · have counted := congrArg Output.notificationsSent output
    rw [Output.notificationsSent_foldl, noNotification] at counted
    exact counted
  · have put := congrArg Output.written output
    rw [Output.written_foldl, List.map_map] at put
    exact put
  · intro verdict isVerdict isReply failure
    change verdict ∈ closed.verdicts later at isVerdict
    rw [Machine.verdicts_eq_jottings] at isVerdict
    obtain ⟨connection, job, isJudged⟩ := Machine.mem_jottings isVerdict
    exact Job.offers_reply (Option.mem_toList.mp isJudged) isReply failure
  · intro reception isReception response classified
    obtain ⟨connection, job, isReceived⟩ := Machine.mem_jottings isReception
    cases job with
    | route payload =>
        have unmatched := isSealed.unmatched reception isReception response.id
        rw [List.mem_singleton.mp isReceived] at classified unmatched ⊢
        exact (course_response classified connection).resolve_left unmatched
    | _ =>
        contradiction
  · intro idleAgain
    obtain ⟨handled, current, taken, -, -, all⟩ := isSealed.reasons
    have outcomes := isSealed.outcomes
    rw [idleAgain] at all outcomes
    have isRejected : rejections reason handled = closed.rejected later :=
      all.trans (List.append_nil _)
    refine ⟨handled, taken, ?_⟩
    rw [isRejected]
    obtain ⟨payloads, traces⟩ := receptions_since reachable idle idleAgain taken
    refine ⟨?_, isSealed.verdicts, isSealed.receipts,
      messages_since reachable idle idleAgain taken, payloads, traces⟩
    rw [Connection.outcomes_eq, Connection.outcomes_eq]
    exact (List.append_nil _).symm.trans outcomes

/-- A request waits, whose callback asks again when it fails, and the connection is closed. -/
def askAndClose : List (Choice bare (MemoryWire Unit)) :=
  .act (.request "ask" (.ok none) .none (.callback fun _ =>
      .request "again" (.ok none) .none (.callback fun _ => .done) fun _ => .done)) ::
    .take :: List.replicate 4 .work ++
    .act (.order (.close .unavailable)) :: .take :: List.replicate 8 .work

/-- The machine after that schedule. The second request is in the inbox. -/
def afterAskAndClose : Machine bare (MemoryWire Unit) :=
  (Machine.start .new () none).run askAndClose

/-- A request whose token was triggered, a notification, and a request of the peer. -/
def lateComers : List (Choice bare (MemoryWire Unit)) :=
  .trigger 0 :: .act (.request "late" (.ok none) ⟨none, some 0⟩ (.callback fun _ => .done)) ::
    .act (.notifyWithReceipt "late" (.ok none)) ::
    .act (.arrive (.chunk (requestOf "1" "other"))) :: workOff

/-- Both requests and the notification are rejected for the same reason, and the peer has its
answer. -/
theorem late_comers_are_rejected :
    let reached := afterAskAndClose.run lateComers
    afterAskAndClose.Reachable ∧ afterAskAndClose.agenda.isEmpty = true ∧
      reached.connection.pending = [] ∧ reached.connection.stats.requestsSent = 1 ∧
      (repliesAmong (acceptedAmong (afterAskAndClose.verdicts lateComers))).length = 1 ∧
      ∃ reason handled, reason.message = "language server is unavailable" ∧
        reached.taken = afterAskAndClose.taken ++ handled ∧
        ((rejections reason handled).filterMap Rejection.verdict?).length = 3 ∧
        reached.connection.outcomes = afterAskAndClose.connection.outcomes ++
          (rejections reason handled).filterMap Rejection.outcome? := by
  intro reached
  have reachable : afterAskAndClose.Reachable := ⟨.new, (), none, askAndClose, rfl⟩
  have atClose : afterAskAndClose.agenda.isEmpty = true ∧
      (reasonsIn afterAskAndClose.taken).getLast?.map Failure.message =
        some "language server is unavailable" ∧
      afterAskAndClose.connection.stats.requestsSent = 1 := by
    decide +kernel
  have afterwards : reached.agenda.isEmpty = true ∧
      (repliesAmong (acceptedAmong (afterAskAndClose.verdicts lateComers))).length = 1 ∧
      ((afterAskAndClose.verdicts lateComers).filter
        fun verdict => verdict.message.reply?.isNone).length = 3 := by
    decide +kernel
  obtain ⟨isIdle, isLast, sent⟩ := atClose
  obtain ⟨isIdleAgain, replied, dropped⟩ := afterwards
  obtain ⟨reason, isReason, isMessage⟩ := Option.map_eq_some_iff.mp isLast
  have final := close_is_final reachable (List.isEmpty_iff.mp isIdle) isReason lateComers
  have isReached : afterAskAndClose.run lateComers = reached := rfl
  dsimp only at final
  rw [isReached] at final
  clear_value reached
  obtain ⟨⟨noPending, sameSent, -, -⟩, -, -, settled⟩ := final
  obtain ⟨handled, taken, outcomes, isRejected, -⟩ := settled (List.isEmpty_iff.mp isIdleAgain)
  refine ⟨reachable, isIdle, noPending, sameSent.trans sent, replied, reason, handled, isMessage,
    taken, ?_, outcomes⟩
  rw [← isRejected, dropped]

end RpcEndpoint
