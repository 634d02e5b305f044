import RpcEndpoint.Proofs.Link.Answering
import RpcEndpoint.Proofs.Link.Asking
import RpcEndpoint.Proofs.Message.Decodings

/-!
# Two machines on one line

What either machine writes comes to the other in order, in chunks of any lengths. `Wired` is kept by
every interleaving: the replies that have gone home are those of the first requests that have gone
out, and each machine has heard the beginning of what the other has written.
-/

namespace RpcEndpoint

open Connection Framing
open Json (Value nestingLimit)

variable {app asking answering : Application} {ρ : Type}

namespace Machine

/-- The bytes that the machine has written. -/
def written (machine : Machine app (MemoryWire ρ)) : Bytes :=
  machine.connection.framer.wire.written

/-- The bytes that have come to the machine. -/
def heard (machine : Machine app (MemoryWire ρ)) : Bytes :=
  (chunksIn machine.entered).flatten

/-- The bytes on their way from one machine to the other. -/
def underway (sender : Machine asking (MemoryWire ρ))
    (receiver : Machine answering (MemoryWire ρ)) : Bytes :=
  sender.written.drop receiver.heard.length

end Machine

/-- Two machines that are wired to each other. -/
structure Link (asking answering : Application) where
  asker : Machine asking (MemoryWire Unit)
  answerer : Machine answering (MemoryWire Unit)

namespace Link

/-- What happens next on a link. -/
inductive Choice (asking : Application) where
  /-- Another thread sends a request. -/
  | ask (method : String) (params : Option Value) (sink : Sink asking)
  | asker (stride : Stride)
  | answerer (stride : Stride)
  /-- The next bytes go out, at the most so many. -/
  | outward (count : Nat)
  /-- The next bytes come home, at the most so many. -/
  | homeward (count : Nat)

/-- The link after a choice. -/
def next (link : Link asking answering) : Choice asking → Link asking answering
  | .ask method params sink =>
    { link with asker := link.asker.next (.act (.request method (.ok params) .none sink)) }
  | .asker stride => { link with asker := link.asker.next stride.choice }
  | .answerer stride => { link with answerer := link.answerer.next stride.choice }
  | .outward count =>
    { link with
      answerer := link.answerer.next
        (.act (.arrive (.chunk ((link.asker.underway link.answerer).take count)))) }
  | .homeward count =>
    { link with
      asker := link.asker.next
        (.act (.arrive (.chunk ((link.answerer.underway link.asker).take count)))) }

/-- The link at the end of a schedule. -/
def run (link : Link asking answering) (schedule : List (Choice asking)) : Link asking answering :=
  schedule.foldl next link

/-- The requests that were sent. -/
def requests (link : Link asking answering) : List Request :=
  requestsIn link.asker.entered

end Link

/-! ## Requests and their replies -/

namespace Service

/-- The reply to a request. Its params are read from the wire. -/
def answer (service : Service) (request : Request) : Response :=
  .ofOutcome request.id (service request.method (Json.arrived request.params))

/-- The request and its reply can be sent: their numbers are integers, they are not nested too
deeply, and their lengths can be written. -/
structure Carries (service : Service) (request : Request) : Prop where
  plainRequest : request.toValue.plain nestingLimit = true
  plainReply : (service.answer request).toValue.plain nestingLimit = true
  shortRequest : request.toValue.encode.length < 2 ^ 63
  shortReply : (service.answer request).toValue.encode.length < 2 ^ 63

instance (service : Service) (request : Request) : Decidable (service.Carries request) :=
  decidable_of_iff
    ((request.toValue.plain nestingLimit = true ∧
        (service.answer request).toValue.plain nestingLimit = true) ∧
      request.toValue.encode.length < 2 ^ 63 ∧
        (service.answer request).toValue.encode.length < 2 ^ 63)
    ⟨fun ⟨⟨plainRequest, plainReply⟩, shortRequest, shortReply⟩ =>
        ⟨plainRequest, plainReply, shortRequest, shortReply⟩,
      fun carries =>
        ⟨⟨carries.plainRequest, carries.plainReply⟩, carries.shortRequest, carries.shortReply⟩⟩

variable {service : Service} {request : Request}

theorem Carries.classify_request (carries : service.Carries request) :
    Incoming.classify request.toValue.encode = .request request.arrived :=
  RpcEndpoint.classify_request request carries.plainRequest

theorem Carries.classify_reply (carries : service.Carries request) :
    Incoming.classify (service.answer request).toValue.encode =
      .response (service.answer request).arrived :=
  Response.classify_response request.id carries.plainReply

theorem Carries.answered?_eq (carries : service.Carries request) :
    answered? (service.answer request).toValue.encode = some request.id := by
  rw [answered?, carries.classify_reply]
  exact congrArg some (Response.arrived_ofOutcome request.id _).1

variable {requests : List Request}

theorem replies_payloads (carries : ∀ request ∈ requests, service.Carries request) :
    service.replies (requests.map (·.toValue.encode)) = requests.map service.answer := by
  rw [replies, List.filterMap_map, List.map_filterMap, ← List.filterMap_eq_map]
  refine List.filterMap_congr fun request isRequest => ?_
  rw [Function.comp_apply, inquiry?, (carries request isRequest).classify_request]
  rfl

theorem answered_payloads (carries : ∀ request ∈ requests, service.Carries request) :
    ((requests.map service.answer).map (·.toValue.encode)).filterMap answered? =
      requests.map (·.id) := by
  rw [List.map_map, List.filterMap_map, ← List.filterMap_eq_map]
  exact List.filterMap_congr fun request isRequest => (carries request isRequest).answered?_eq

theorem completions_payloads (carries : ∀ request ∈ requests, service.Carries request) :
    ((requests.map service.answer).map (·.toValue.encode)).filterMap completion? =
      requests.map fun request =>
        (request.id, .ok (service.answer request).toValue.encode) := by
  rw [List.map_map, List.filterMap_map, ← List.filterMap_eq_map]
  refine List.filterMap_congr fun request isRequest => ?_
  change (answered? (service.answer request).toValue.encode).map _ = _
  rw [(carries request isRequest).answered?_eq]
  rfl

end Service

/-! ## What goes over the line -/

/-- The commands of a machine that asks write its requests. -/
theorem AsksOnly.messagesIn_eq
    {machine : Machine app (MemoryWire ρ)} (asks : AsksOnly machine)
    (taken : machine.taken <+: machine.entered) :
    messagesIn machine.taken = (requestsIn machine.taken).map .request := by
  rw [messagesIn, requestsIn, List.map_filterMap]
  refine List.filterMap_congr fun command isTaken => ?_
  cases asks.inquires command (taken.subset isTaken) <;> rfl

/-- The commands of a machine that answers write its replies. -/
theorem AnswersOnly.messagesIn_eq
    {service : Service} {due : List Response} {machine : Machine app (MemoryWire ρ)}
    (answers : AnswersOnly service due machine) (taken : machine.taken <+: machine.entered) :
    messagesIn machine.taken = (repliesIn machine.taken).map .reply := by
  rw [messagesIn, repliesIn, List.map_filterMap]
  refine List.filterMap_congr fun command isTaken => ?_
  cases answers.passive command (taken.subset isTaken) <;> rfl

/-- The frames on the wire are those of the first messages, and of all of them when nothing is
left to be done. -/
theorem Steadily.writes_eq
    {machine : Machine app (MemoryWire ρ)} (steadily : Steadily machine)
    {α : Type} {messages : List α} {wrap : α → Outgoing}
    (taken : messagesIn machine.taken = messages.map wrap) :
    ∃ sent, sent <+: messages ∧
      machine.connection.framer.wire.writes = sent.map (Outgoing.frame ∘ wrap) ∧
      (machine.agenda = [] → sent = messages) := by
  have frames := steadily.frames
  rw [taken, List.map_map] at frames
  have isPrefix : machine.connection.framer.wire.writes <+:
      messages.map (Outgoing.frame ∘ wrap) := by
    rw [← frames]
    exact List.prefix_append _ _
  refine ⟨messages.take machine.connection.framer.wire.writes.length, List.take_prefix _ _, ?_, ?_⟩
  · rw [List.map_take]
    exact List.prefix_iff_eq_take.mp isPrefix
  · intro idle
    rw [idle] at frames
    have allWritten := congrArg List.length frames
    rw [List.length_append, List.length_map, List.length_map] at allWritten
    exact List.take_of_length_le (Nat.le_of_eq allWritten.symm)

theorem Ledger.entered_eq
    {machine : Machine app (MemoryWire ρ)} (ledger : Ledger machine)
    (isRunning : machine.connection.running = true) :
    machine.entered = machine.taken ++ machine.connection.inbox := by
  obtain ⟨waiting, entered, inbox⟩ := ledger.inbox
  rw [if_pos isRunning] at inbox
  rw [entered, inbox]

/-- What is known of a link at any moment. -/
structure Wired (service : Service) (link : Link asking answering) : Prop where
  asks : AsksOnly link.asker
  answers : ∃ due, AnswersOnly service due link.answerer
  askerLedger : Ledger link.asker
  answererLedger : Ledger link.answerer
  askerInbound : Inbound link.asker
  answererInbound : Inbound link.answerer
  outward : link.answerer.heard <+: link.asker.written
  homeward : link.asker.heard <+: link.answerer.written

/-- These requests have gone out and these replies have gone home. -/
structure Traffic (service : Service) (link : Link asking answering)
    (outward : List Request) (homeward : List Response) : Prop where
  sent : outward <+: requestsIn link.asker.taken
  carried : ∀ request ∈ outward, service.Carries request
  answered : homeward <+: outward.map service.answer
  askerWritten : link.asker.written = encodeFrames (outward.map (·.toValue.encode))
  answererWritten : link.answerer.written = encodeFrames (homeward.map (·.toValue.encode))
  answererHears : Hears (outward.map (·.toValue.encode)) link.answerer
  askerHears : Hears (homeward.map (·.toValue.encode)) link.asker
  allSent : link.asker.agenda = [] → outward = requestsIn link.asker.taken
  allReplied : link.answerer.agenda = [] → homeward = repliesIn link.answerer.taken

namespace Wired

variable {service : Service} {link : Link asking answering}

theorem traffic
    (wired : Wired service link) (carries : ∀ request ∈ link.requests, service.Carries request) :
    ∃ outward homeward, Traffic service link outward homeward := by
  obtain ⟨due, answers⟩ := wired.answers
  have askerEntered := wired.askerLedger.entered_eq wired.asks.steadily.steady.running
  have answererEntered := wired.answererLedger.entered_eq answers.steadily.steady.running
  have askerTaken : link.asker.taken <+: link.asker.entered := by
    rw [askerEntered]
    exact List.prefix_append _ _
  have answererTaken : link.answerer.taken <+: link.answerer.entered := by
    rw [answererEntered]
    exact List.prefix_append _ _
  obtain ⟨outward, sent, askerWrites, allSent⟩ :=
    wired.asks.steadily.writes_eq (wired.asks.messagesIn_eq askerTaken)
  obtain ⟨homeward, replied, answererWrites, allReplied⟩ :=
    answers.steadily.writes_eq (answers.messagesIn_eq answererTaken)
  have carriesOutward : ∀ request ∈ outward, service.Carries request := by
    intro request isSent
    exact carries request ((askerTaken.filterMap _).subset (sent.subset isSent))
  have askerWritten : link.asker.written = encodeFrames (outward.map (·.toValue.encode)) := by
    rw [Machine.written, MemoryWire.written, askerWrites, encodeFrames, List.flatMap_def,
      List.map_map]
    rfl
  have answererWritten :
      link.answerer.written = encodeFrames (homeward.map (·.toValue.encode)) := by
    rw [Machine.written, MemoryWire.written, answererWrites, encodeFrames, List.flatMap_def,
      List.map_map]
    rfl
  have answererHears : Hears (outward.map (·.toValue.encode)) link.answerer := by
    refine ⟨?_, ?_, ?_, answererEntered, wired.answererInbound⟩
    · intro payload isPayload
      obtain ⟨request, isSent, rfl⟩ := List.mem_map.mp isPayload
      exact (carriesOutward request isSent).shortRequest
    · rw [← askerWritten]
      exact wired.outward
    · intro isEntered
      cases answers.passive _ isEntered
  have answered : homeward <+: outward.map service.answer := by
    have routed : routedIn link.answerer.history <+: outward.map (·.toValue.encode) :=
      (List.prefix_append _ _).trans answererHears.routed_prefix
    have due : repliesIn link.answerer.entered <+:
        service.replies (routedIn link.answerer.history) := by
      rw [← answers.replies]
      exact List.prefix_append _ _
    rw [← Service.replies_payloads carriesOutward]
    exact (replied.trans (answererTaken.filterMap _)).trans
      (due.trans ((routed.filterMap inquiry?).map service.reply))
  have askerHears : Hears (homeward.map (·.toValue.encode)) link.asker := by
    refine ⟨?_, ?_, ?_, askerEntered, wired.askerInbound⟩
    · intro payload isPayload
      obtain ⟨reply, isReply, rfl⟩ := List.mem_map.mp isPayload
      obtain ⟨request, isSent, rfl⟩ := List.mem_map.mp (answered.subset isReply)
      exact (carriesOutward request isSent).shortReply
    · rw [← answererWritten]
      exact wired.homeward
    · intro isEntered
      cases wired.asks.inquires _ isEntered
  exact ⟨outward, homeward, sent, carriesOutward, answered, askerWritten, answererWritten,
    answererHears, askerHears, allSent, allReplied⟩

/-- The bookkeeping of one machine survives every choice. -/
private theorem bookkeeping
    {machine : Machine app (MemoryWire ρ)} (ledger : Ledger machine) (inbound : Inbound machine)
    (bound : (requestsIn machine.entered).length ≤ 2 ^ 64)
    (choice : RpcEndpoint.Choice app (MemoryWire ρ)) :
    Ledger (machine.next choice) ∧ Inbound (machine.next choice) := by
  have accepted : machine.accepted.length ≤ 2 ^ 64 := by
    rw [ledger.accepted_eq, List.length_map]
    exact bound
  have stroke := machine.stroke choice
  exact ⟨ledger.stroke accepted stroke, inbound.stroke (ledger.distinct accepted) stroke⟩

private theorem prefix_written
    {chunks : List Bytes} {before after : Machine app (MemoryWire ρ)}
    (goesOn : GoesOn chunks before after) : before.written <+: after.written := by
  obtain ⟨more, writes⟩ := goesOn.writes
  rw [Machine.written, Machine.written, MemoryWire.written, MemoryWire.written, ← writes,
    List.flatten_append]
  exact List.prefix_append _ _

private theorem heard_eq
    {chunks : List Bytes} {before after : Machine app (MemoryWire ρ)}
    (goesOn : GoesOn chunks before after) : after.heard = before.heard ++ chunks.flatten := by
  rw [Machine.heard, goesOn.chunks, List.flatten_append]
  rfl

/-- What is taken from the bytes on their way continues what was heard. -/
private theorem heard_append_underway
    {sender : Machine asking (MemoryWire ρ)} {receiver : Machine answering (MemoryWire ρ)}
    (heard : receiver.heard <+: sender.written) (count : Nat) :
    receiver.heard ++ [(sender.underway receiver).take count].flatten <+: sender.written := by
  obtain ⟨rest, written⟩ := heard
  rw [Machine.underway, ← written, List.drop_left, List.flatten_singleton]
  exact (List.prefix_append_right_inj _).mpr (List.take_prefix _ _)

private theorem asker_next
    (wired : Wired service link) (bound : link.requests.length ≤ 2 ^ 64)
    {chunks : List Bytes} {choice : RpcEndpoint.Choice asking (MemoryWire Unit)}
    (asks : AsksOnly (link.asker.next choice) ∧ GoesOn chunks link.asker (link.asker.next choice))
    (homeward : link.asker.heard ++ chunks.flatten <+: link.answerer.written) :
    Wired service { link with asker := link.asker.next choice } := by
  obtain ⟨ledger, inbound⟩ := bookkeeping wired.askerLedger wired.askerInbound bound choice
  refine ⟨asks.1, wired.answers, ledger, wired.answererLedger, inbound, wired.answererInbound,
    wired.outward.trans (prefix_written asks.2), ?_⟩
  rw [heard_eq asks.2]
  exact homeward

private theorem answerer_next
    (wired : Wired service link) {chunks : List Bytes}
    {choice : RpcEndpoint.Choice answering (MemoryWire Unit)}
    (answers : ∃ due, AnswersOnly service due (link.answerer.next choice) ∧
      GoesOn chunks link.answerer (link.answerer.next choice))
    (outward : link.answerer.heard ++ chunks.flatten <+: link.asker.written) :
    Wired service { link with answerer := link.answerer.next choice } := by
  obtain ⟨due, stillAnswers, goesOn⟩ := answers
  obtain ⟨before, answersBefore⟩ := wired.answers
  have noRequests : (requestsIn link.answerer.entered).length ≤ 2 ^ 64 := by
    have nothing : requestsIn link.answerer.entered = [] := by
      refine List.filterMap_eq_nil_iff.mpr fun command isEntered => ?_
      cases answersBefore.passive command isEntered <;> rfl
    rw [nothing]
    exact Nat.zero_le _
  obtain ⟨ledger, inbound⟩ :=
    bookkeeping wired.answererLedger wired.answererInbound noRequests choice
  refine ⟨wired.asks, ⟨due, stillAnswers⟩, wired.askerLedger, ledger, wired.askerInbound, inbound,
    ?_, wired.homeward.trans (prefix_written goesOn)⟩
  rw [heard_eq goesOn]
  exact outward

theorem next
    (wired : Wired service link) (bound : link.requests.length ≤ 2 ^ 64)
    (carries : ∀ request ∈ link.requests, service.Carries request)
    {choice : Link.Choice asking}
    (inquires : ∀ method params sink, choice = .ask method params sink → sink.Inquires) :
    Wired service (link.next choice) := by
  obtain ⟨outward, homeward, traffic⟩ := wired.traffic carries
  obtain ⟨due, answers⟩ := wired.answers
  have unchangedHome : link.asker.heard ++ ([] : List Bytes).flatten <+: link.answerer.written := by
    rw [List.flatten_nil, List.append_nil]
    exact wired.homeward
  have unchangedOut : link.answerer.heard ++ ([] : List Bytes).flatten <+: link.asker.written := by
    rw [List.flatten_nil, List.append_nil]
    exact wired.outward
  cases choice with
  | ask method params sink =>
      exact wired.asker_next bound (wired.asks.ask method params (inquires _ _ _ rfl))
        unchangedHome
  | asker stride =>
      refine wired.asker_next bound (wired.asks.next wired.askerLedger ?_ traffic.askerHears ?_ ?_
        stride) unchangedHome
      · rw [wired.askerLedger.accepted_eq, List.length_map]
        exact bound
      · intro payload isPayload
        obtain ⟨reply, isReply, rfl⟩ := List.mem_map.mp isPayload
        obtain ⟨request, isSent, rfl⟩ := List.mem_map.mp (traffic.answered.subset isReply)
        exact ⟨_, (traffic.carried request isSent).classify_reply⟩
      · have replies := (traffic.answered.map (·.toValue.encode)).filterMap answered?
        rw [Service.answered_payloads traffic.carried] at replies
        exact replies.trans (traffic.sent.map (·.id))
  | answerer stride =>
      refine wired.answerer_next (answers.next traffic.answererHears ?_ stride) unchangedOut
      intro payload isPayload
      obtain ⟨request, isSent, rfl⟩ := List.mem_map.mp isPayload
      exact ⟨request.arrived, (traffic.carried request isSent).classify_request⟩
  | outward count =>
      exact wired.answerer_next ⟨due, answers.arrive _⟩
        (heard_append_underway wired.outward count)
  | homeward count =>
      exact wired.asker_next bound (wired.asks.arrive _)
        (heard_append_underway wired.homeward count)

end Wired

end RpcEndpoint
