import RpcEndpoint.Proofs.Replies.Service
import RpcEndpoint.Proofs.Requests.Inbound

/-!
# The worker and the requests of the peer

What one job does for the peer: the route of a request opens a ticket, a callback or the end of a
handler may settle one, and the commands that write offer their frames in the order in which they
were taken.
-/

namespace RpcEndpoint

open Connection Json

variable {app : Application} {ω : Type}

/-! ## What settles a ticket -/

/-- The tickets that the first step of a reaction settles. -/
def Reaction.settles (connection : Connection app ω) : Reaction app → List Settlement
  | .answer number outcome _ => connection.settlement number (.answered outcome)
  | .discard number _ => connection.settlement number .dropped
  | _ => []

/-- The request that a payload from the peer is. -/
def inquiry? (payload : Bytes) : Option IncomingRequest :=
  match Incoming.classify payload with
  | .request message => some ⟨message.id, message.method, message.params, payload⟩
  | _ => none

/-- The requests of the peer that a job brings to light. -/
def Job.requests : Job app → List IncomingRequest
  | .route payload => (inquiry? payload).toList
  | _ => []

/-- The tickets that the first step of a job opens. -/
def Job.asks (connection : Connection app ω) (job : Job app) : List Inquiry :=
  job.requests.map fun request => connection.inquiry request

/-- The request is settled at once when no handler takes it. -/
def Connection.turnAway (connection : Connection app ω) (request : IncomingRequest) :
    List Settlement :=
  match connection.handlers.forRequest request.method with
  | some _ => []
  | none => [⟨connection.inquiry request, .unhandled⟩]

/-- The tickets that the first step of a job settles. A handler that ends gives up its ticket unless
it is kept. -/
def Job.settles (connection : Connection app ω) : Job app → List Settlement
  | .route payload => (Job.route payload : Job app).requests.flatMap connection.turnAway
  | .react reaction => reaction.settles connection
  | .release number =>
    ((connection.ticket? number).filter fun ticket => !ticket.kept).toList.map
      fun ticket => ⟨ticket.inquiry, .dropped⟩
  | _ => []

/-- The tickets that an act of another thread settles. -/
def Act.settles (connection : Connection app ω) : Act app ω → List Settlement
  | .answer number outcome => connection.settlement number (.answered outcome)
  | .discard number => connection.settlement number .dropped
  | _ => []

/-! ## Messages on their way to the wire -/

/-- A message of this side. -/
inductive Outgoing where
  | request (message : Request)
  | notification (message : Notification)
  | reply (response : Response)

namespace Outgoing

/-- The frame that goes to the wire. -/
def frame : Outgoing → Bytes
  | .request message => Framing.encodeFrame message.toValue.encode
  | .notification message => Framing.encodeFrame message.toValue.encode
  | .reply response => Framing.encodeFrame response.toValue.encode

def reply? : Outgoing → Option Response
  | .reply response => some response
  | _ => none

end Outgoing

/-- The message that a command is to write. -/
def Command.outgoing? : Command app → Option Outgoing
  | .request message _ _ => some (.request message)
  | .notification message _ => some (.notification message)
  | .reply response => some (.reply response)
  | _ => none

/-- The message that a job is to write. -/
def Job.outgoing? : Job app → Option Outgoing
  | .carryOut command => command.outgoing?
  | .launch message _ _ | .send message => some (.request message)
  | _ => none

/-- The messages that jobs are to write. -/
def outgoingOf (jobs : List (Job app)) : List Outgoing :=
  jobs.filterMap Job.outgoing?

/-- The replies among messages. -/
def repliesAmong (messages : List Outgoing) : List Response :=
  messages.filterMap Outgoing.reply?

theorem repliesAmong_append (left right : List Outgoing) :
    repliesAmong (left ++ right) = repliesAmong left ++ repliesAmong right :=
  List.filterMap_append

/-! ## The first step of a job -/

/-- What the first step of a job does for the peer. -/
structure Handles (before : Connection app ω) (progress : Progress app ω) (job : Job app)
    (offered : List Outgoing) : Prop where
  serves : Serves (job.asks before) (job.settles before) (offered.map Outgoing.frame) before
    progress.connection
  /-- The message of the job is offered to the wire, left to a later job or dropped. -/
  passedOn : (offered ++ outgoingOf progress.jobs).Sublist job.outgoing?.toList
  /-- No reply is dropped. -/
  replies : repliesAmong (offered ++ outgoingOf progress.jobs) =
    repliesAmong job.outgoing?.toList
  /-- A ticket that was opened will be given up. -/
  releases : ∀ inquiry ∈ job.asks before, inquiry ∉ inquiriesOf (job.settles before) →
    .release inquiry.number ∈ progress.jobs
  /-- A ticket that was given up is not open unless it is kept. -/
  released : ∀ number, job = .release number →
    ∀ ticket ∈ progress.connection.tickets, ticket.number = number → ticket.kept = true
  routed : (routedIn progress.deeds).filterMap inquiry? = job.requests

/-- A job that has nothing to do with the peer. -/
theorem Handles.aside
    {before : Connection app ω} {progress : Progress app ω} {job : Job app}
    (minds : Minds before progress.connection)
    (noAsks : job.requests = []) (noSettlements : job.settles before = [])
    (noJobs : outgoingOf progress.jobs = []) (noReplies : repliesAmong job.outgoing?.toList = [])
    (noRelease : ∀ number, job ≠ .release number)
    (noInquiry : (routedIn progress.deeds).filterMap inquiry? = []) :
    Handles before progress job [] := by
  have nothingAsked : job.asks before = [] := by
    rw [Job.asks, noAsks]
    rfl
  refine ⟨?_, ?_, ?_, ?_, ?_, ?_⟩
  · rw [nothingAsked, noSettlements]
    exact minds
  · rw [noJobs]
    exact List.nil_sublist _
  · rw [noJobs, noReplies]
    rfl
  · intro inquiry isAsked
    rw [nothingAsked] at isAsked
    contradiction
  · intro number isRelease
    exact absurd isRelease (noRelease number)
  · rw [noInquiry, noAsks]

/-- A job that offers its message to the wire. -/
theorem Handles.offering
    {before : Connection app ω} {progress : Progress app ω} {job : Job app} {message : Outgoing}
    (isMessage : job.outgoing? = some message)
    (serves : Serves [] [] [message.frame] before progress.connection)
    (noAsks : job.requests = []) (noSettlements : job.settles before = [])
    (noJobs : outgoingOf progress.jobs = []) (noRelease : ∀ number, job ≠ .release number)
    (noDeeds : routedIn progress.deeds = []) :
    Handles before progress job [message] := by
  have nothingAsked : job.asks before = [] := by
    rw [Job.asks, noAsks]
    rfl
  refine ⟨?_, ?_, ?_, ?_, ?_, ?_⟩
  · rw [nothingAsked, noSettlements]
    exact serves
  · rw [noJobs, isMessage]
    exact List.Sublist.refl _
  · rw [noJobs, isMessage]
    rfl
  · intro inquiry isAsked
    rw [nothingAsked] at isAsked
    contradiction
  · intro number isRelease
    exact absurd isRelease (noRelease number)
  · rw [noDeeds, noAsks]
    rfl

/-! ## Commands -/

private theorem outgoingOf_finish
    (entries : List (PendingRequest app)) (outcome : Except Failure Bytes)
    (last : List (Job app)) :
    outgoingOf (entries.map (fun entry => .finish entry outcome) ++ last) = outgoingOf last := by
  rw [outgoingOf, List.filterMap_append, List.filterMap_eq_nil_iff.mpr]
  · rfl
  · intro job isJob
    obtain ⟨entry, -, rfl⟩ := List.mem_map.mp isJob
    rfl

private theorem minds_drain (failure : Failure) (connection : Connection app ω) :
    Minds connection (connection.drain failure).connection := by
  unfold drain
  split
  · exact .refl connection
  · exact .quiet rfl rfl rfl rfl rfl

private theorem outgoingOf_drain
    (failure : Failure) (connection : Connection app ω) (last : List (Job app)) :
    outgoingOf ((connection.drain failure).jobs ++ last) = outgoingOf last := by
  unfold drain
  split
  · rfl
  · exact outgoingOf_finish _ _ last

private theorem handles_weigh [Wire ω]
    (message : Request) (options : Options) (sink : Sink app) (before : Connection app ω) :
    Handles before (before.weigh message options sink)
      (.carryOut (.request message options sink)) [] := by
  unfold weigh
  split
  · exact .aside (.refl before) rfl rfl rfl rfl (by simp) rfl
  · refine ⟨.refl before, List.Sublist.refl _, rfl, ?_, ?_, rfl⟩
    · intro inquiry isAsked
      contradiction
    · intro number isRelease
      contradiction

private theorem handles_writeNotification [Wire ω]
    (message : Notification) (receipt : Option Nat) (before : Connection app ω) :
    ∃ offered, Handles before { jobs := [], connection := before.writeNotification message receipt }
      (.carryOut (.notification message receipt)) offered := by
  unfold writeNotification
  cases before.closed with
  | some failure =>
      exact ⟨[], .aside (minds_reportFate receipt _ before) rfl rfl rfl rfl (by simp) rfl⟩
  | none =>
      have transmitted := serves_transmit message.toValue.encode before
      rcases written : before.transmit message.toValue.encode with ⟨outcome, sent⟩
      rw [written] at transmitted
      refine ⟨[.notification message], .offering rfl ?_ rfl rfl rfl (by simp) rfl⟩
      cases outcome with
      | ok done =>
          have counted : Minds sent { sent with
              stats := { sent.stats with
                notificationsSent := sent.stats.notificationsSent + 1 } } :=
            .quiet rfl rfl rfl rfl rfl
          exact (transmitted.then counted).then (minds_reportFate receipt _ _)
      | error failure =>
          exact transmitted.then (minds_reportFate receipt _ _)

private theorem handles_split
    (chunk : Bytes) (before : Connection app ω) :
    Handles before (before.split chunk) (.carryOut (.received chunk)) [] := by
  refine .aside (.quiet rfl rfl rfl rfl rfl) rfl rfl ?_ rfl (by simp) rfl
  refine List.filterMap_eq_nil_iff.mpr fun job isJob => ?_
  rcases List.mem_append.mp isJob with isFault | isPayload
  · obtain ⟨fault, -, rfl⟩ := List.mem_map.mp isFault
    rfl
  · obtain ⟨payload, -, rfl⟩ := List.mem_map.mp isPayload
    rfl

private theorem handles_heed
    (order : Order app) (before : Connection app ω) :
    Handles before (before.heed order) (.carryOut (.order order)) [] := by
  cases order with
  | register registration =>
      exact .aside (.quiet rfl rfl rfl rfl rfl) rfl rfl rfl rfl (by simp) rfl
  | resetFramer =>
      exact .aside (.quiet rfl rfl rfl rfl rfl) rfl rfl rfl rfl (by simp) rfl
  | cancel id =>
      unfold heed expel
      dsimp only
      split
      · exact .aside (.quiet rfl rfl rfl rfl rfl) rfl rfl rfl rfl (by simp) rfl
      · exact .aside (.refl before) rfl rfl rfl rfl (by simp) rfl
  | failPending failure =>
      have noJobs := outgoingOf_drain failure before []
      rw [List.append_nil] at noJobs
      refine .aside (minds_drain failure before) rfl rfl noJobs rfl (by simp) ?_
      unfold heed drain
      dsimp only
      split <;> rfl
  | close failure =>
      refine .aside (minds_drain failure before) rfl rfl
        (outgoingOf_drain failure before [.shut failure]) rfl (by simp) ?_
      unfold heed drain
      dsimp only
      split <;> rfl
  | shutdown =>
      refine .aside (minds_drain .closed before) rfl rfl
        (outgoingOf_drain .closed before [.halt]) rfl (by simp) ?_
      unfold heed drain
      dsimp only
      split <;> rfl

private theorem handles_begin [Wire ω]
    (command : Command app) (before : Connection app ω) :
    ∃ offered, Handles before (before.begin command) (.carryOut command) offered := by
  cases command with
  | request message options sink =>
      exact ⟨[], handles_weigh message options sink before⟩
  | notification message receipt =>
      exact handles_writeNotification message receipt before
  | reply response =>
      exact ⟨[.reply response],
        .offering rfl (serves_transmit response.toValue.encode before) rfl rfl rfl (by simp) rfl⟩
  | received chunk =>
      exact ⟨[], handles_split chunk before⟩
  | order order =>
      exact ⟨[], handles_heed order before⟩

/-! ## Requests of this side -/

private theorem handles_launch [Wire ω]
    (now : Instant) (message : Request) (options : Options) (sink : Sink app)
    (before : Connection app ω) :
    Handles before ((Job.launch message options sink).step now before)
      (.launch message options sink) [] := by
  have watched := minds_watch message.id options.token before
  refine ⟨?_, List.Sublist.refl _, rfl, ?_, ?_, rfl⟩
  · exact watched.then (.quiet rfl rfl rfl rfl rfl)
  · intro inquiry isAsked
    contradiction
  · intro number isRelease
    contradiction

private theorem handles_offer [Wire ω]
    (message : Request) (before : Connection app ω) :
    Handles before (before.offer message) (.send message) [.request message] := by
  have transmitted := serves_transmit message.toValue.encode before
  unfold offer
  rcases written : before.transmit message.toValue.encode with ⟨outcome, sent⟩
  rw [written] at transmitted
  cases outcome with
  | ok done =>
      have confirmed : Minds sent sent.confirm := .quiet rfl rfl rfl rfl rfl
      exact .offering rfl (transmitted.then confirmed) rfl rfl rfl (by simp) rfl
  | error failure =>
      have withdrawn : Minds sent
          { sent with pending := sent.pending.remove message.id }.countPending :=
        .quiet rfl rfl rfl rfl rfl
      refine .offering rfl (transmitted.then withdrawn) rfl rfl ?_ (by simp) rfl
      have noJobs := outgoingOf_finish (sent.pending.find message.id).toList
        (.error (.wire failure)) ([] : List (Job app))
      rwa [List.append_nil] at noJobs

private theorem handles_honour
    (promise : Promise app) (outcome : Except Failure Bytes) (before : Connection app ω) :
    Handles before (before.honour promise outcome) (.deliver promise outcome) [] := by
  have recorded := minds_record (.completed promise.id outcome) before rfl
  unfold honour
  cases promise.sink with
  | mailbox schema =>
      exact .aside (recorded.then (minds_fillMailbox _ _ _)) rfl rfl rfl rfl (by simp) rfl
  | callback react =>
      exact .aside recorded rfl rfl rfl rfl (by simp) rfl

private theorem handles_sweep
    (now : Instant) (before : Connection app ω) :
    Handles before
      (if before.running then before.sweep now else { jobs := [], connection := before })
      .sweep [] := by
  split
  · unfold Connection.sweep
    split
    · exact .aside (.refl before) rfl rfl rfl rfl (by simp) rfl
    · refine .aside (.quiet rfl rfl rfl rfl rfl) rfl rfl ?_ rfl (by simp) rfl
      refine List.filterMap_eq_nil_iff.mpr fun job isJob => ?_
      obtain ⟨entry, -, rfl⟩ := List.mem_map.mp isJob
      rfl
  · exact .aside (.refl before) rfl rfl rfl rfl (by simp) rfl

/-! ## Callbacks -/

private theorem handles_advance
    {before : Connection app ω} (numbered : before.Numbered) (reaction : Reaction app) :
    Handles before (reaction.advance before) (.react reaction) [] := by
  refine ⟨?_, ?_, ?_, ?_, ?_, ?_⟩
  · cases reaction with
    | note entry next =>
        exact minds_record (.noted entry) before rfl
    | remember memory next =>
        exact .quiet rfl rfl rfl rfl rfl
    | request method params options sink next =>
        exact minds_request method params options sink before
    | notify method params next =>
        exact minds_notify method params before
    | order wanted next =>
        exact minds_enqueue (.order wanted) before rfl
    | cancelToken token next =>
        exact .quiet rfl rfl rfl rfl rfl
    | answer number outcome next =>
        exact serves_answer numbered number outcome
    | discard number next =>
        exact serves_discard numbered number
    | keep number next =>
        exact minds_keep number before
    | done | «recall» =>
        exact .refl before
  · cases reaction <;> exact List.nil_sublist _
  · cases reaction <;> rfl
  · intro inquiry isAsked
    contradiction
  · intro number isRelease
    contradiction
  · cases reaction <;> rfl

/-- The end of a handler gives up the ticket of its number, unless it is kept. -/
private theorem serves_releaseTicket
    {before : Connection app ω} (numbered : before.Numbered) (number : TicketNumber) :
    Serves [] (Job.settles before (.release number : Job app)) [] before
        (before.releaseTicket number) ∧
      ∀ ticket ∈ (before.releaseTicket number).tickets,
        ticket.number = number → ticket.kept = true := by
  cases found : before.ticket? number with
  | none =>
      have nothing : before.releaseTicket number = before := by
        rw [releaseTicket, found]
      have noSettlements : Job.settles before (.release number : Job app) = [] := by
        rw [Job.settles, found]
        rfl
      rw [nothing, noSettlements]
      refine ⟨.refl before, fun ticket isOpen isNumber => ?_⟩
      exact absurd (decide_eq_true isNumber) (List.find?_eq_none.mp found ticket isOpen)
  | some held =>
      obtain ⟨isHeld, heldNumber⟩ := mem_of_ticket? found
      cases isKept : held.kept with
      | true =>
          have nothing : before.releaseTicket number = before := by
            rw [releaseTicket, found]
            exact if_pos isKept
          have noSettlements : Job.settles before (.release number : Job app) = [] := by
            rw [Job.settles, found, Option.filter_some, isKept]
            rfl
          rw [nothing, noSettlements]
          refine ⟨.refl before, fun ticket isOpen isNumber => ?_⟩
          have sameTicket : ticket = held :=
            List.inj_on_of_nodup_map numbered.distinct isOpen isHeld
              (isNumber.trans heldNumber.symm)
          rw [sameTicket, isKept]
      | false =>
          have discarded : before.releaseTicket number =
              before.settleTicket held (Fate.dropped.outcome held.method) := by
            rw [releaseTicket, found]
            dsimp only
            rw [if_neg (Bool.eq_false_iff.mp isKept), Connection.discard, found]
            rfl
          have settles : Job.settles before (.release number : Job app) =
              [⟨held.inquiry, .dropped⟩] := by
            rw [Job.settles, found, Option.filter_some, isKept]
            rfl
          rw [discarded, settles]
          refine ⟨serves_settleTicket numbered isHeld .dropped, fun ticket isOpen isNumber => ?_⟩
          unfold settleTicket at isOpen
          rw [enqueue_eq] at isOpen
          have otherNumber := of_decide_eq_true (List.mem_filter.mp isOpen).2
          exact absurd (isNumber.trans heldNumber.symm) otherNumber

private theorem handles_release
    {before : Connection app ω} (numbered : before.Numbered) (number : TicketNumber) :
    Handles before { jobs := [], connection := before.releaseTicket number } (.release number)
      [] := by
  obtain ⟨serves, isKept⟩ := serves_releaseTicket numbered number
  refine ⟨serves, List.nil_sublist _, rfl, ?_, ?_, rfl⟩
  · intro inquiry isAsked
    contradiction
  · intro other isRelease
    cases isRelease
    exact isKept

/-! ## Payloads -/

private theorem routedIn_sort (payload : Bytes) (before : Connection app ω) :
    (routedIn (before.sort payload).deeds).filterMap inquiry? =
      (Job.route payload : Job app).requests := by
  change [payload].filterMap inquiry? = (inquiry? payload).toList
  cases found : inquiry? payload with
  | none =>
      exact List.filterMap_cons_none found
  | some request =>
      exact List.filterMap_cons_some found

/-- A payload that is no request has nothing to do with the peer's requests. -/
private theorem handles_other
    {payload : Bytes} {before : Connection app ω} (other : inquiry? payload = none)
    (minds : Minds before (before.sort payload).connection)
    (noJobs : outgoingOf (before.sort payload).jobs = []) :
    Handles before (before.sort payload) (.route payload) [] := by
  have noRequest : (Job.route payload : Job app).requests = [] := by
    rw [Job.requests, other]
    rfl
  refine .aside minds noRequest ?_ noJobs rfl (by simp) ?_
  · rw [Job.settles, noRequest]
    rfl
  · rw [routedIn_sort, noRequest]

private theorem handles_request
    {payload : Bytes} {before : Connection app ω} (numbered : before.Numbered)
    {request : IncomingRequest} (isRequest : inquiry? payload = some request)
    (isSorted : before.sort payload =
      { before.consider request with deeds := (before.sort payload).deeds }) :
    Handles before (before.sort payload) (.route payload) [] := by
  have requests : (Job.route payload : Job app).requests = [request] := by
    rw [Job.requests, isRequest]
    rfl
  have asks : Job.asks before (.route payload : Job app) = [before.inquiry request] := by
    rw [Job.asks, requests]
    rfl
  have settles : Job.settles before (.route payload : Job app) = before.turnAway request := by
    rw [Job.settles, requests]
    exact List.append_nil _
  let counted := { before with
    stats := { before.stats with incomingRequests := before.stats.incomingRequests + 1 } }
  have minds : Minds before counted := .quiet rfl rfl rfl rfl rfl
  have opened : Serves [before.inquiry request] [] [] before (counted.openTicket request).2 :=
    minds.trans (serves_openTicket request counted)
  unfold Connection.consider at isSorted
  have routed := routedIn_sort payload before
  cases handler : before.handlers.forRequest request.method with
  | some react =>
      rw [handler] at isSorted
      have noSettlements : before.turnAway request = [] := by
        rw [turnAway, handler]
      rw [noSettlements] at settles
      rw [isSorted]
      refine ⟨?_, List.nil_sublist _, rfl, ?_, ?_, routed⟩
      · rw [asks, settles]
        exact opened.then (minds_record _ _ rfl)
      · intro inquiry isAsked _
        rw [asks, List.mem_singleton] at isAsked
        rw [isAsked]
        exact List.mem_cons_of_mem _ List.mem_cons_self
      · intro number isRelease
        contradiction
  | none =>
      rw [handler] at isSorted
      have turnedAway : before.turnAway request = [⟨before.inquiry request, .unhandled⟩] := by
        rw [turnAway, handler]
      rw [turnedAway] at settles
      rw [isSorted]
      refine ⟨?_, List.nil_sublist _, rfl, ?_, ?_, routed⟩
      · rw [asks, settles]
        have wasNumbered : counted.Numbered := ⟨numbered.distinct, numbered.fresh⟩
        have answered := opened.trans (serves_settleTicket (wasNumbered.openTicket request)
          List.mem_cons_self (.unhandled))
        rw [Fate.outcome, ← answer_openTicket request _ counted] at answered
        exact answered
      · intro inquiry isAsked isLeft
        rw [asks] at isAsked
        rw [settles] at isLeft
        exact absurd isAsked isLeft
      · intro number isRelease
        contradiction

private theorem handles_sort
    {before : Connection app ω} (numbered : before.Numbered) (payload : Bytes) :
    Handles before (before.sort payload) (.route payload) [] := by
  cases isRead : Incoming.classify payload with
  | response response =>
      refine handles_other (by rw [inquiry?, isRead]) ?_ ?_
      all_goals
        rw [sort, isRead]
        unfold pair
        dsimp only
        split
      · exact .quiet rfl rfl rfl rfl rfl
      · exact .refl before
      · rfl
      · rfl
  | notification message =>
      refine handles_other (by rw [inquiry?, isRead]) ?_ ?_
      all_goals
        rw [sort, isRead]
        unfold notice
        dsimp only
        split
      · have counted : Minds before { before with
            stats := { before.stats with
              incomingNotifications := before.stats.incomingNotifications + 1 } } :=
          .quiet rfl rfl rfl rfl rfl
        exact counted.then (minds_record _ _ rfl)
      · exact .quiet rfl rfl rfl rfl rfl
      · rfl
      · rfl
  | unrecognized reason =>
      refine handles_other (by rw [inquiry?, isRead]) ?_ ?_
      all_goals rw [sort, isRead]
      · exact .refl before
      · unfold wonder
        cases before.handlers.undecodable <;> rfl
  | request message =>
      have isRequest : inquiry? payload =
          some ⟨message.id, message.method, message.params, payload⟩ := by
        rw [inquiry?, isRead]
      refine handles_request numbered isRequest ?_
      rw [sort, isRead]

/-- The first step of every job but the last one. -/
theorem Job.handles [Wire ω]
    (now : Instant) {before : Connection app ω} (numbered : before.Numbered) (job : Job app)
    (goesOn : job ≠ .halt) :
    ∃ offered, Handles before (job.step now before) job offered := by
  cases job with
  | carryOut command =>
      exact handles_begin command before
  | launch message options sink =>
      exact ⟨[], handles_launch now message options sink before⟩
  | send message =>
      exact ⟨[.request message], handles_offer message before⟩
  | deliver promise outcome =>
      exact ⟨[], handles_honour promise outcome before⟩
  | finish entry outcome =>
      exact ⟨[], .aside (minds_unhook entry before) rfl rfl rfl rfl (by simp) rfl⟩
  | timeOut entry =>
      exact ⟨[], .aside (.refl before) rfl rfl rfl rfl (by simp) rfl⟩
  | emit event =>
      refine ⟨[], .aside ?_ rfl rfl ?_ rfl (by simp) rfl⟩
      · have counted : Minds before { before with stats := before.stats.count event } :=
          .quiet rfl rfl rfl rfl rfl
        exact counted.then (minds_record (.emitted event) _ rfl)
      · refine List.filterMap_eq_nil_iff.mpr fun job isJob => ?_
        obtain ⟨react, -, rfl⟩ := List.mem_map.mp isJob
        rfl
  | route payload =>
      exact ⟨[], handles_sort numbered payload⟩
  | puzzle payload reaction =>
      exact ⟨[], .aside (minds_record (.puzzled payload) before rfl) rfl rfl rfl rfl (by simp) rfl⟩
  | release number =>
      exact ⟨[], handles_release numbered number⟩
  | react reaction =>
      exact ⟨[], handles_advance numbered reaction⟩
  | signal hooks =>
      cases hooks with
      | nil =>
          exact ⟨[], .aside (.refl before) rfl rfl rfl rfl (by simp) rfl⟩
      | cons hook rest =>
          exact ⟨[], .aside (minds_setOff before hook) rfl rfl rfl rfl (by simp) rfl⟩
  | shut failure =>
      exact ⟨[], .aside (.quiet rfl rfl rfl rfl rfl) rfl rfl rfl rfl (by simp) rfl⟩
  | halt =>
      contradiction
  | sweep =>
      exact ⟨[], handles_sweep now before⟩

/-! ## Other threads -/

/-- What an act of another thread does for the peer. -/
theorem Act.serves [Wire ω]
    {before : Connection app ω} (numbered : before.Numbered) (act : Act app ω) :
    Serves [] (act.settles before) [] before (act.apply before).connection := by
  cases act with
  | request method params options sink =>
      exact minds_request method params options sink before
  | notify method params =>
      exact minds_notify method params before
  | notifyWithReceipt method params =>
      exact minds_notifyWithReceipt method params before
  | order wanted =>
      exact minds_enqueue (.order wanted) before rfl
  | answer number outcome =>
      exact serves_answer numbered number outcome
  | discard number =>
      exact serves_discard numbered number
  | takeOutcome id =>
      exact minds_takeOutcome id before
  | arrive arrival =>
      exact minds_accept before arrival
  | gather =>
      exact minds_takeArrivals before
  | dropMailbox | disturb | attach | detach | remember =>
      exact .quiet rfl rfl rfl rfl rfl

end RpcEndpoint
