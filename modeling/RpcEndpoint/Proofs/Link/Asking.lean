import RpcEndpoint.Proofs.Link.Steady
import RpcEndpoint.Proofs.Requests.Ledger

/-!
# The side that asks

A machine on which nothing is done but to send requests. As long as responses come in the order of
its requests, the first pending request is the one that the next response answers, and the outcomes
are the responses that were routed.
-/

namespace RpcEndpoint

open Connection
open Json (Schema Value)

variable {app : Application} {ρ : Type}

/-! ## Callbacks that ask -/

mutual

/-- A reaction that sends requests, without limits and tokens, and is silent otherwise. -/
inductive Reaction.Inquires : Reaction app → Prop
  | done : Reaction.Inquires .done
  | note {entry : app.Note} {next : Reaction app} (later : Reaction.Inquires next) :
      Reaction.Inquires (.note entry next)
  | recall {next : app.Memory → Reaction app}
      (later : ∀ memory, Reaction.Inquires (next memory)) :
      Reaction.Inquires (.recall next)
  | remember {memory : app.Memory} {next : Reaction app} (later : Reaction.Inquires next) :
      Reaction.Inquires (.remember memory next)
  | request {method : String} {params : Option Value} {sink : Sink app}
      {next : Except Failure MessageId → Reaction app}
      (inquires : Sink.Inquires sink) (later : ∀ sent, Reaction.Inquires (next sent)) :
      Reaction.Inquires (.request method (.ok params) .none sink next)

/-- A sink that does no more with an outcome than to inquire further. -/
inductive Sink.Inquires : Sink app → Prop
  | mailbox (schema : Schema) : Sink.Inquires (.mailbox schema)
  | callback {react : Except Failure Bytes → Reaction app}
      (later : ∀ outcome, Reaction.Inquires (react outcome)) :
      Sink.Inquires (.callback react)

end

/-! ## What lies before the worker -/

/-- The request that a command writes. -/
def Command.request? : Command app → Option Request
  | .request message _ _ => some message
  | _ => none

/-- The requests among commands. -/
def requestsIn (commands : List (Command app)) : List Request :=
  commands.filterMap Command.request?

theorem requestsIn_append (left right : List (Command app)) :
    requestsIn (left ++ right) = requestsIn left ++ requestsIn right :=
  List.filterMap_append

/-- The identifiers of the requests are those of the promises. -/
theorem map_id_requestsIn (commands : List (Command app)) :
    (requestsIn commands).map (·.id) = (promisesIn commands).map (·.id) := by
  rw [requestsIn, promisesIn, List.map_filterMap, List.map_filterMap]
  refine List.filterMap_congr fun command _ => ?_
  cases command <;> rfl

theorem Ledger.accepted_eq
    {ω : Type} {machine : Machine app ω} (ledger : Ledger machine) :
    machine.accepted = (requestsIn machine.entered).map (·.id) := by
  rw [map_id_requestsIn, ledger.ids]

/-- A command that writes a request, without a limit or a token, or brings a chunk. -/
inductive Command.Inquires : Command app → Prop
  | request (message : Request) {sink : Sink app} (inquires : sink.Inquires) :
      Inquires (.request message .none sink)
  | received (chunk : Bytes) : Inquires (.received chunk)

/-- A pending request that only an answer can end. -/
structure PendingRequest.Patient (entry : PendingRequest app) : Prop where
  unlimited : entry.deadline = none
  unhooked : entry.attachment = none
  inquires : entry.sink.Inquires

/-- What the worker is occupied with on the way of a request or of an outcome. -/
inductive Job.Inquires : Job app → Prop
  | carryOut {command : Command app} (inquires : command.Inquires) :
      Inquires (.carryOut command)
  | launch (message : Request) {sink : Sink app} (inquires : sink.Inquires) :
      Inquires (.launch message .none sink)
  | send (message : Request) : Inquires (.send message)
  | finish {entry : PendingRequest app} (patient : entry.Patient) (payload : Bytes) :
      Inquires (.finish entry (.ok payload))
  | deliver {promise : Promise app} (inquires : promise.sink.Inquires) (payload : Bytes) :
      Inquires (.deliver promise (.ok payload))
  | react {reaction : Reaction app} (inquires : reaction.Inquires) : Inquires (.react reaction)

/-- At the most one job is begun, and the others wait for it. -/
inductive Errand : List (Job app) → Prop
  | free {agenda : List (Job app)} (later : ∀ job ∈ agenda, job.Later) : Errand agenda
  | begun {job : Job app} {rest : List (Job app)} (inquires : job.Inquires)
      (later : ∀ job ∈ rest, job.Later) : Errand (job :: rest)

/-- The request that a job will put into the table. -/
def Job.enters? : Job app → Option MessageId
  | .carryOut command => command.request?.map (·.id)
  | .launch message _ _ => some message.id
  | _ => none

/-- The outcome that a job hands out. -/
def Job.outcome? : Job app → Option (MessageId × Except Failure Bytes)
  | .finish entry outcome => some (entry.id, outcome)
  | .deliver promise outcome => some (promise.id, outcome)
  | _ => none

/-- The request that a payload answers. -/
def answered? (payload : Bytes) : Option MessageId :=
  match Incoming.classify payload with
  | .response response => some response.id
  | _ => none

/-- The outcome that a payload is. -/
def completion? (payload : Bytes) : Option (MessageId × Except Failure Bytes) :=
  (answered? payload).map fun id => (id, .ok payload)

/-- A machine that does nothing but ask. What was answered, what is pending and what is to be
entered are the requests that the worker has taken, in their order. -/
structure AsksOnly (machine : Machine app (MemoryWire ρ)) : Prop where
  steadily : Steadily machine
  inquires : ∀ command ∈ machine.entered, command.Inquires
  patient : ∀ entry ∈ machine.connection.pending, entry.Patient
  errand : Errand machine.agenda
  requests :
    (routedIn machine.history).filterMap answered? ++ machine.connection.pending.ids ++
        machine.agenda.filterMap Job.enters? =
      (requestsIn machine.taken).map (·.id)
  outcomes :
    outcomesIn machine.history ++ machine.agenda.filterMap Job.outcome? =
      (routedIn machine.history).filterMap completion?

/-- A machine goes on doing nothing but ask, and nothing comes to it. -/
def AsksOn (before after : Machine app (MemoryWire ρ)) : Prop :=
  AsksOnly after ∧ GoesOn [] before after

namespace AsksOnly

variable {machine : Machine app (MemoryWire ρ)}

private theorem absorb
    (asks : AsksOnly machine) (first : List (Job app))
    {rest : List (Job app)} (agenda : machine.agenda = first ++ rest)
    {progress : Progress app (MemoryWire ρ)}
    (commands : List (Command app))
    (steady : progress.connection.Steady)
    (inbox : progress.connection.inbox = machine.connection.inbox ++ commands)
    (inquires : ∀ command ∈ commands, command.Inquires)
    (patient : ∀ entry ∈ progress.connection.pending, entry.Patient)
    (frames :
      progress.connection.framer.wire.writes ++
          (outgoingOf progress.jobs).map Outgoing.frame =
        machine.connection.framer.wire.writes ++ (outgoingOf first).map Outgoing.frame)
    (writes : machine.connection.framer.wire.writes <+:
      progress.connection.framer.wire.writes)
    (errand : Errand (progress.jobs ++ rest))
    (requests :
      (routedIn progress.deeds).filterMap answered? ++ progress.connection.pending.ids ++
          progress.jobs.filterMap Job.enters? =
        machine.connection.pending.ids ++ first.filterMap Job.enters?)
    (outcomes :
      outcomesIn progress.deeds ++ (progress.jobs ++ rest).filterMap Job.outcome? =
        (first ++ rest).filterMap Job.outcome? ++
          (routedIn progress.deeds).filterMap completion?) :
    AsksOnly (machine.absorb rest progress) ∧
      GoesOn (chunksIn commands) machine (machine.absorb rest progress) := by
  have entered : (machine.absorb rest progress).entered = machine.entered ++ commands := by
    rw [Machine.absorb, inbox, List.drop_left]
  refine ⟨⟨asks.steadily.absorb agenda steady frames, ?_, patient, errand, ?_, ?_⟩,
    goesOn_absorb inbox writes rest⟩
  · intro command isEntered
    rw [entered] at isEntered
    exact (List.mem_append.mp isEntered).elim (asks.inquires command) (inquires command)
  · have before := asks.requests
    rw [agenda, List.filterMap_append, ← List.append_assoc,
      List.append_assoc _ _ (first.filterMap _),
      ← requests] at before
    change (routedIn (machine.history ++ progress.deeds)).filterMap answered? ++
      progress.connection.pending.ids ++ (progress.jobs ++ rest).filterMap Job.enters? = _
    rw [routedIn, List.filterMap_append, List.filterMap_append, List.filterMap_append]
    simp only [← List.append_assoc] at before ⊢
    exact before
  · have before := asks.outcomes
    rw [agenda] at before
    change outcomesIn (machine.history ++ progress.deeds) ++
      (progress.jobs ++ rest).filterMap Job.outcome? =
        (routedIn (machine.history ++ progress.deeds)).filterMap completion?
    rw [outcomesIn, List.filterMap_append, List.append_assoc]
    rw [outcomesIn] at outcomes before
    rw [outcomes, ← List.append_assoc, before, routedIn, routedIn, routedIn,
      ← List.filterMap_append, ← List.filterMap_append]

/-! ## Steps of the worker -/

variable {rest : List (Job app)}

private theorem later_outcomes (later : ∀ job ∈ rest, job.Later) :
    rest.filterMap Job.outcome? = [] := by
  refine List.filterMap_eq_nil_iff.mpr fun job isJob => ?_
  cases later job isJob <;> rfl

/-- A step that routes nothing and completes nothing. -/
private theorem onward
    (asks : AsksOnly machine) {job : Job app} (agenda : machine.agenda = job :: rest)
    {jobs : List (Job app)} {after : Connection app (MemoryWire ρ)}
    (steady : after.Steady)
    (inbox : after.inbox = machine.connection.inbox)
    (patient : ∀ entry ∈ after.pending, entry.Patient)
    (writes : after.framer.wire.writes = machine.connection.framer.wire.writes)
    (errand : Errand (jobs ++ rest))
    (messages : outgoingOf jobs = outgoingOf [job])
    (requests : after.pending.ids ++ jobs.filterMap Job.enters? =
      machine.connection.pending.ids ++ [job].filterMap Job.enters?)
    (outcomes : jobs.filterMap Job.outcome? = [job].filterMap Job.outcome?) :
    AsksOn machine (machine.absorb rest { jobs, connection := after }) := by
  refine asks.absorb [job] agenda [] steady (inbox.trans (List.append_nil _).symm)
    (by simp) patient ?_ ?_ errand requests ?_
  · change after.framer.wire.writes ++ (outgoingOf jobs).map Outgoing.frame = _
    rw [messages, writes]
  · exact writes ▸ List.prefix_rfl
  · change [] ++ (jobs ++ rest).filterMap Job.outcome? =
      ([job] ++ rest).filterMap Job.outcome? ++ []
    rw [List.nil_append, List.append_nil, List.filterMap_append, List.filterMap_append, outcomes]

private theorem work_request
    (asks : AsksOnly machine) {message : Request} {sink : Sink app}
    (agenda : machine.agenda = .carryOut (.request message .none sink) :: rest)
    (inquires : sink.Inquires) (later : ∀ job ∈ rest, job.Later) :
    AsksOn machine (machine.absorb rest (machine.connection.weigh message .none sink)) := by
  have steady := asks.steadily.steady
  have admitted : machine.connection.weigh message .none sink =
      { jobs := [.launch message .none sink], connection := machine.connection } := by
    rw [weigh, steady.refusal?_eq_none]
  rw [admitted]
  exact asks.onward agenda steady rfl asks.patient rfl (.begun (.launch message inquires) later)
    rfl rfl rfl

private theorem work_received
    (asks : AsksOnly machine) {chunk : Bytes}
    (agenda : machine.agenda = .carryOut (.received chunk) :: rest)
    (later : ∀ job ∈ rest, job.Later)
    (faultless : (machine.connection.framer.decoder.push chunk).1.fault = none) :
    AsksOn machine (machine.absorb rest (machine.connection.split chunk)) := by
  rw [split_eq faultless]
  refine asks.onward agenda { asks.steadily.steady with } rfl asks.patient rfl
    (.free (later_route later)) (outgoingOf_route _) ?_ ?_
  · change _ ++ (List.map Job.route _).filterMap Job.enters? = _ ++ []
    rw [List.filterMap_eq_nil_iff.mpr]
    intro job isJob
    obtain ⟨payload, -, rfl⟩ := List.mem_map.mp isJob
    rfl
  · change (List.map Job.route _).filterMap Job.outcome? = []
    refine List.filterMap_eq_nil_iff.mpr fun job isJob => ?_
    obtain ⟨payload, -, rfl⟩ := List.mem_map.mp isJob
    rfl

private theorem work_launch
    (asks : AsksOnly machine) {message : Request} {sink : Sink app}
    (agenda : machine.agenda = .launch message .none sink :: rest)
    (inquires : sink.Inquires) (later : ∀ job ∈ rest, job.Later)
    (isNew : message.id ∉ machine.connection.pending.ids) :
    AsksOn machine
      (machine.absorb rest
        ((Job.launch message .none sink).step machine.now machine.connection)) := by
  have steady := asks.steadily.steady
  let entry : PendingRequest app := ⟨message.id, message.method, sink, none, none⟩
  have entered :
      (Job.launch message .none sink).step machine.now machine.connection =
        { jobs := [.send message]
          connection := { machine.connection with
            pending := machine.connection.pending ++ [entry] } } := by
    have inserted :
        machine.connection.pending.insert entry = machine.connection.pending ++ [entry] :=
      PendingTable.insert_of_not_mem isNew
    rw [← inserted]
    change ({ jobs := [.send message]
              connection := machine.connection.enter machine.now message none sink none } :
            Progress app (MemoryWire ρ)) = _
    have unlimited : ((none : Option Duration).or machine.connection.defaultTimeout).bind
        (Deadline.after? machine.now) = none := by
      rw [steady.unlimited]
      rfl
    rw [enter, unlimited]
  rw [entered]
  refine asks.onward agenda { steady with } rfl ?_ rfl (.begun (.send message) later) rfl ?_ rfl
  · intro held isHeld
    rcases List.mem_append.mp isHeld with wasHeld | isEntry
    · exact asks.patient held wasHeld
    · rw [List.mem_singleton.mp isEntry]
      exact ⟨rfl, rfl, inquires⟩
  · change (machine.connection.pending ++ [entry]).ids ++ [] = _
    rw [List.append_nil, PendingTable.ids, List.map_append]
    rfl

private theorem work_send
    (asks : AsksOnly machine) {message : Request}
    (agenda : machine.agenda = .send message :: rest) (later : ∀ job ∈ rest, job.Later) :
    AsksOn machine (machine.absorb rest (machine.connection.offer message)) := by
  have steady := asks.steadily.steady
  have sent : machine.connection.offer message =
      { jobs := []
        connection :=
          (machine.connection.passOn (Framing.encodeFrame message.toValue.encode)).confirm
        deeds := [.sent message.id] } := by
    rw [offer, steady.transmit_eq]
  rw [sent]
  refine asks.absorb [.send message] agenda [] { steady.passOn _ with }
    (List.append_nil _).symm (by simp) asks.patient (List.append_nil _) (List.prefix_append _ _)
    (.free later) rfl ?_
  exact (List.append_nil _).symm

private theorem work_finish
    (asks : AsksOnly machine) {entry : PendingRequest app} {payload : Bytes}
    (agenda : machine.agenda = .finish entry (.ok payload) :: rest)
    (patient : entry.Patient) (later : ∀ job ∈ rest, job.Later) :
    AsksOn machine
      (machine.absorb rest
        { jobs := [.deliver entry.promise (.ok payload)]
          connection := machine.connection.unhook entry }) := by
  have unhooked : machine.connection.unhook entry = machine.connection := by
    rw [unhook, patient.unhooked]
  rw [unhooked]
  exact asks.onward agenda asks.steadily.steady rfl asks.patient rfl
    (.begun (.deliver patient.inquires payload) later) rfl rfl rfl

private theorem work_deliver
    (asks : AsksOnly machine) {promise : Promise app} {payload : Bytes}
    (agenda : machine.agenda = .deliver promise (.ok payload) :: rest)
    (inquires : promise.sink.Inquires) (later : ∀ job ∈ rest, job.Later) :
    AsksOn machine (machine.absorb rest (machine.connection.honour promise (.ok payload))) := by
  have steady := asks.steadily.steady
  obtain ⟨id, sink⟩ := promise
  cases inquires with
  | mailbox schema =>
      obtain ⟨mailboxes, filled⟩ := fillMailbox_eq id (decodeOutcome schema (.ok payload))
        (machine.connection.record (.completed id (.ok payload)))
      rw [honour]
      simp only [filled]
      exact asks.absorb [.deliver ⟨id, .mailbox schema⟩ (.ok payload)] agenda []
        { steady with } (List.append_nil _).symm (by simp) asks.patient rfl
        List.prefix_rfl (.free later) rfl (List.append_nil _).symm
  | callback inquiresLater =>
      rw [honour]
      exact asks.absorb [.deliver ⟨id, .callback _⟩ (.ok payload)] agenda []
        { steady with } (List.append_nil _).symm (by simp) asks.patient rfl
        List.prefix_rfl (.begun (.react (inquiresLater _)) later) rfl (List.append_nil _).symm

private theorem work_route
    (asks : AsksOnly machine) {payload : Bytes} (agenda : machine.agenda = .route payload :: rest)
    (later : ∀ job ∈ rest, job.Later) {response : Response}
    (isResponse : Incoming.classify payload = .response response)
    {entry : PendingRequest app} {others : PendingTable app}
    (pending : machine.connection.pending = entry :: others) (isAwaited : entry.id = response.id)
    (distinct : machine.connection.pending.Distinct) :
    AsksOn machine (machine.absorb rest (machine.connection.sort payload)) := by
  have steady := asks.steadily.steady
  have isAnswered : answered? payload = some entry.id := by
    rw [answered?, isResponse, isAwaited]
  have found : machine.connection.pending.find response.id = some entry := by
    rw [pending, PendingTable.find, ← isAwaited]
    exact List.find?_cons_of_pos (decide_eq_true rfl)
  have kept : machine.connection.pending.remove response.id = others := by
    rw [pending, PendingTable.Distinct, PendingTable.ids, List.map_cons] at distinct
    have noOther : response.id ∉ PendingTable.ids others := by
      rw [← isAwaited]
      exact (List.nodup_cons.mp distinct).1
    rw [pending, PendingTable.remove, List.filter_cons_of_neg (by simp [isAwaited])]
    exact PendingTable.remove_of_not_mem noOther
  have sorted : machine.connection.sort payload =
      { jobs := [.finish entry (.ok payload)]
        connection := { machine.connection with
          pending := others
          stats := { machine.connection.stats with
            responsesMatched := machine.connection.stats.responsesMatched + 1 } }.countPending
        deeds := [.routed payload (machine.connection.pending.map (·.id))] } := by
    rw [sort, isResponse]
    simp only [pair, found, kept]
  have patient : ∀ held ∈ entry :: others, held.Patient := by
    rw [← pending]
    exact asks.patient
  rw [sorted]
  refine asks.absorb [.route payload] agenda [] { steady with }
    (List.append_nil _).symm (by simp) (fun held isHeld => patient held (.tail entry isHeld)) rfl
    List.prefix_rfl (.begun (.finish (patient entry (.head _)) payload) later) ?_ ?_
  · change [payload].filterMap answered? ++ others.ids ++ [] = machine.connection.pending.ids ++ []
    rw [List.filterMap_cons_some isAnswered, pending]
    rfl
  · change [] ++ (entry.id, .ok payload) :: rest.filterMap Job.outcome? =
      rest.filterMap Job.outcome? ++ [payload].filterMap completion?
    have isCompletion : completion? payload = some (entry.id, .ok payload) := by
      rw [completion?, isAnswered]
      rfl
    rw [later_outcomes later, List.filterMap_cons_some isCompletion]
    rfl

private theorem work_react
    (asks : AsksOnly machine) {reaction : Reaction app}
    (agenda : machine.agenda = .react reaction :: rest)
    (inquires : reaction.Inquires) (later : ∀ job ∈ rest, job.Later) :
    AsksOn machine (machine.absorb rest (reaction.advance machine.connection)) := by
  have steady := asks.steadily.steady
  have reacts {next : Reaction app} (inquires : next.Inquires) :
      Errand ([.react next] ++ rest) :=
    .begun (.react inquires) later
  cases inquires with
  | done =>
      exact asks.onward agenda steady rfl asks.patient rfl (.free later) rfl rfl rfl
  | note inquiresLater =>
      exact asks.onward agenda { steady with } rfl asks.patient rfl (reacts inquiresLater)
        rfl rfl rfl
  | «recall» inquiresLater =>
      exact asks.onward agenda steady rfl asks.patient rfl (reacts (inquiresLater _)) rfl rfl rfl
  | remember inquiresLater =>
      exact asks.onward agenda { steady with } rfl asks.patient rfl (reacts inquiresLater)
        rfl rfl rfl
  | @request method params sink next sinkInquires inquiresLater =>
      let id := numberedId machine.connection.nextNumber
      let command : Command app := .request (.new id method params) .none sink
      obtain ⟨mailboxes, sent⟩ := steady.request_eq method params .none sink
      have advanced : (Reaction.request method (.ok params) .none sink next).advance
          machine.connection =
            { jobs := [.react (next (.ok id))]
              connection := { machine.connection with
                inbox := machine.connection.inbox ++ [command]
                nextNumber := machine.connection.nextNumber + 1
                mailboxes }
              accepted := [id] } := by
        rw [Reaction.advance, sent]
        rfl
      rw [advanced]
      refine asks.absorb [.react _] agenda [command] { steady with } rfl ?_ asks.patient rfl
        List.prefix_rfl (reacts (inquiresLater _)) rfl (List.append_nil _).symm
      intro other isRequest
      rw [List.mem_singleton.mp isRequest]
      exact .request _ sinkInquires

private theorem work_sweep
    (asks : AsksOnly machine) (agenda : machine.agenda = .sweep :: rest)
    (later : ∀ job ∈ rest, job.Later) :
    AsksOn machine (machine.absorb rest (Job.sweep.step machine.now machine.connection)) := by
  rw [sweep_eq fun entry isPending => (asks.patient entry isPending).unlimited]
  exact asks.onward agenda asks.steadily.steady rfl asks.patient rfl (.free later) rfl rfl rfl

/-- The payload that is routed next answers the first pending request. -/
private theorem pending_eq_cons
    (asks : AsksOnly machine) {payload : Bytes} (agenda : machine.agenda = .route payload :: rest)
    (later : ∀ job ∈ rest, job.Later) {payloads : List Bytes} (hears : Hears payloads machine)
    (inOrder : payloads.filterMap answered? <+: (requestsIn machine.taken).map (·.id))
    {response : Response} (isResponse : Incoming.classify payload = .response response) :
    ∃ entry others, machine.connection.pending = entry :: others ∧ entry.id = response.id := by
  have noEntry : machine.agenda.filterMap Job.enters? = [] := by
    rw [agenda]
    refine List.filterMap_eq_nil_iff.mpr fun job isJob => ?_
    rcases List.mem_cons.mp isJob with rfl | isLater
    · rfl
    · cases later job isLater <;> rfl
  have isAnswered : answered? payload = some response.id := by
    rw [answered?, isResponse]
  have answers : (routedIn machine.history).filterMap answered? ++ [response.id] <+:
      (requestsIn machine.taken).map (·.id) := by
    refine List.IsPrefix.trans ?_ inOrder
    have routed := (hears.route_prefix agenda).filterMap answered?
    rwa [List.filterMap_append, List.filterMap_cons_some isAnswered] at routed
  rw [← asks.requests, noEntry, List.append_nil, List.prefix_append_right_inj] at answers
  cases pending : machine.connection.pending with
  | nil =>
      rw [pending] at answers
      exact absurd (List.prefix_nil.mp answers) (List.cons_ne_nil _ _)
  | cons entry others =>
      rw [pending] at answers
      exact ⟨entry, others, rfl, (List.cons_prefix_cons.mp answers).1.symm⟩

private theorem work
    (asks : AsksOnly machine) (ledger : Ledger machine)
    (bound : machine.accepted.length ≤ 2 ^ 64)
    {payloads : List Bytes} (hears : Hears payloads machine)
    (responses : ∀ payload ∈ payloads, ∃ response, Incoming.classify payload = .response response)
    (inOrder : payloads.filterMap answered? <+: (requestsIn machine.taken).map (·.id)) :
    AsksOn machine (machine.next .work) := by
  cases agenda : machine.agenda with
  | nil =>
      rw [Machine.next, agenda]
      exact ⟨asks, .still rfl rfl⟩
  | cons job rest =>
      rw [Machine.next, agenda]
      have errand := asks.errand
      rw [agenda] at errand
      cases errand with
      | free later =>
          have restLater : ∀ next ∈ rest, next.Later :=
            fun next isNext => later next (List.mem_cons_of_mem job isNext)
          cases later job List.mem_cons_self with
          | route payload =>
              have isNext : payload ∈ payloads :=
                (hears.route_prefix agenda).subset (List.mem_append_right _ List.mem_cons_self)
              obtain ⟨response, isResponse⟩ := responses payload isNext
              obtain ⟨entry, others, pending, isAwaited⟩ :=
                asks.pending_eq_cons agenda restLater hears inOrder isResponse
              exact asks.work_route agenda restLater isResponse pending isAwaited
                (ledger.distinct bound)
          | sweep =>
              exact asks.work_sweep agenda restLater
      | begun inquires later =>
          cases inquires with
          | carryOut inquires =>
              cases inquires with
              | request message inquires =>
                  exact asks.work_request agenda inquires later
              | received chunk =>
                  exact asks.work_received agenda later (hears.fault_eq_none agenda later)
          | launch message inquires =>
              have distinct := ledger.nodup_head bound agenda
              rw [List.map_append, PendingTable.map_id_promises] at distinct
              exact asks.work_launch agenda inquires later (List.nodup_cons.mp distinct).1
          | send message =>
              exact asks.work_send agenda later
          | finish patient payload =>
              exact asks.work_finish agenda patient later
          | deliver inquires payload =>
              exact asks.work_deliver agenda inquires later
          | react inquires =>
              exact asks.work_react agenda inquires later

private theorem take
    (asks : AsksOnly machine)
    (taken : machine.entered = machine.taken ++ machine.connection.inbox) :
    AsksOn machine (machine.next .take) := by
  rw [Machine.next]
  split
  · rename_i command waiting idle isRunning inbox
    have isEntered : command ∈ machine.entered := by
      rw [taken, inbox]
      exact List.mem_append_right _ List.mem_cons_self
    have requests := asks.requests
    have outcomes := asks.outcomes
    rw [idle] at requests outcomes
    refine ⟨⟨asks.steadily.taken idle waiting, asks.inquires, asks.patient, ?_, ?_, outcomes⟩,
      .still rfl rfl⟩
    · exact .begun (.carryOut (asks.inquires command isEntered)) later_sweep
    · change _ ++ [Job.carryOut command, .sweep].filterMap Job.enters? =
        (requestsIn (machine.taken ++ [command])).map (·.id)
      rw [requestsIn_append, List.map_append, ← requests, List.filterMap_nil, List.append_nil]
      cases command <;> rfl
  · exact ⟨asks, .still rfl rfl⟩

private theorem wake (asks : AsksOnly machine) : AsksOn machine (machine.next .wake) := by
  rw [Machine.next]
  split
  · rename_i idle isRunning
    have requests := asks.requests
    have outcomes := asks.outcomes
    rw [idle] at requests outcomes
    exact ⟨⟨asks.steadily.woken idle, asks.inquires, asks.patient, .free later_sweep, requests,
      outcomes⟩, .still rfl rfl⟩
  · exact ⟨asks, .still rfl rfl⟩

/-! ## All steps -/

theorem equipped (memory : app.Memory) (handlers : Handlers app) :
    AsksOnly (Machine.equipped (.new : MemoryWire ρ) memory handlers) :=
  ⟨.equipped memory handlers, fun _ isEntered => absurd isEntered List.not_mem_nil,
    fun _ isPending => absurd isPending List.not_mem_nil,
    .free fun _ isJob => absurd isJob List.not_mem_nil, rfl, rfl⟩

/-- The worker goes on asking, as long as responses come in the order of its requests. -/
theorem next
    (asks : AsksOnly machine) (ledger : Ledger machine)
    (bound : machine.accepted.length ≤ 2 ^ 64)
    {payloads : List Bytes} (hears : Hears payloads machine)
    (responses : ∀ payload ∈ payloads, ∃ response, Incoming.classify payload = .response response)
    (inOrder : payloads.filterMap answered? <+: (requestsIn machine.taken).map (·.id))
    (stride : Stride) :
    AsksOn machine (machine.next stride.choice) := by
  cases stride with
  | take =>
      exact asks.take hears.taken
  | wake =>
      exact asks.wake
  | work =>
      exact asks.work ledger bound hears responses inOrder
  | pass instant =>
      exact ⟨⟨⟨asks.steadily.steady, asks.steadily.frames⟩, asks.inquires, asks.patient,
        asks.errand, asks.requests, asks.outcomes⟩, .still rfl rfl⟩

/-- A chunk comes in. -/
theorem arrive (asks : AsksOnly machine) (chunk : Bytes) :
    AsksOnly (machine.next (.act (.arrive (.chunk chunk)))) ∧
      GoesOn [chunk] machine (machine.next (.act (.arrive (.chunk chunk)))) := by
  have steady := asks.steadily.steady
  have accepted : machine.connection.accept (.chunk chunk) =
      { machine.connection with inbox := machine.connection.inbox ++ [.received chunk] } :=
    steady.enqueue_eq _
  rw [Machine.next, Act.apply, accepted]
  refine asks.absorb [] rfl [.received chunk] { steady with } rfl ?_ asks.patient rfl
    List.prefix_rfl asks.errand rfl (List.append_nil _).symm
  intro command isChunk
  rw [List.mem_singleton.mp isChunk]
  exact .received chunk

/-- Another thread asks. -/
theorem ask
    (asks : AsksOnly machine) (method : String) (params : Option Value) {sink : Sink app}
    (inquires : sink.Inquires) :
    AsksOn machine (machine.next (.act (.request method (.ok params) .none sink))) := by
  have steady := asks.steadily.steady
  let command : Command app :=
    .request (.new (numberedId machine.connection.nextNumber) method params) .none sink
  obtain ⟨mailboxes, sent⟩ := steady.request_eq method params .none sink
  rw [Machine.next, Act.apply, sent]
  refine asks.absorb [] rfl [command] { steady with } rfl ?_ asks.patient rfl
    List.prefix_rfl asks.errand rfl (List.append_nil _).symm
  intro other isRequest
  rw [List.mem_singleton.mp isRequest]
  exact .request _ inquires

end AsksOnly

end RpcEndpoint
