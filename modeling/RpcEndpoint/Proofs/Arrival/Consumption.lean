import RpcEndpoint.Proofs.Arrival.Receptions
import RpcEndpoint.Proofs.Replies.Answered

/-!
# Every payload is consumed once

The payloads that the decoder gives out are received one by one, in their order. What the log and
the counts tell of payloads, and what is told of malformed header blocks, is what these receptions
and the decoder account for.
-/

namespace RpcEndpoint

open Connection

variable {app : Application} {ω : Type}

/-! ## Receptions and deeds -/

theorem routedIn_append (left right : List (Deed app)) :
    routedIn (left ++ right) = routedIn left ++ routedIn right :=
  List.filterMap_append

/-- A payload is received when it is routed. -/
theorem Job.routedIn_step [Wire ω]
    (now : Instant) (job : Job app) (connection : Connection app ω) :
    routedIn (job.step now connection).deeds = (job.received connection).map (·.payload) := by
  cases job with
  | carryOut command =>
      cases command with
      | request message options sink =>
          simp only [step, Connection.begin, weigh]
          split <;> rfl
      | order order =>
          cases order with
          | cancel id =>
              simp only [step, Connection.begin, heed, expel]
              split <;> rfl
          | failPending failure | close failure | shutdown =>
              simp only [step, Connection.begin, heed, drain]
              split <;> rfl
          | register | resetFramer =>
              rfl
      | notification | reply | received =>
          rfl
  | send message =>
      simp only [step, offer]
      split <;> rfl
  | deliver promise outcome =>
      simp only [step, honour]
      split <;> rfl
  | react reaction =>
      cases reaction <;> rfl
  | signal hooks =>
      cases hooks <;> rfl
  | sweep =>
      simp only [step, Connection.sweep]
      split
      · split <;> rfl
      · rfl
  | _ =>
      rfl

/-! ## Replies -/

/-- A request that nobody handles is answered with the step that receives it. -/
theorem Connection.inbox_sort [Wire ω]
    {connection : Connection app ω} (isRunning : connection.running = true) (payload : Bytes) :
    (connection.sort payload).connection.inbox =
      connection.inbox ++ (connection.course payload).reply?.toList.map .reply := by
  unfold sort course
  cases Incoming.classify payload with
  | response response =>
      dsimp only
      unfold pair
      cases connection.pending.find response.id <;> exact (List.append_nil _).symm
  | notification message =>
      dsimp only
      unfold notice
      dsimp only
      cases connection.handlers.forNotification message.method <;> exact (List.append_nil _).symm
  | request message =>
      dsimp only
      unfold consider openTicket
      dsimp only
      cases connection.handlers.forRequest message.method with
      | some react =>
          exact (List.append_nil _).symm
      | none =>
          simp [answer, ticket?, settleTicket, enqueue, isRunning, Course.reply?]
  | unrecognized reason =>
      exact (List.append_nil _).symm

/-! ## The account of payloads -/

/-- What has become of the payloads so far. -/
structure Consumed (receptions : List Reception) (machine : Machine app ω) : Prop where
  payloads : receptions.map (·.payload) = routedIn machine.history
  /-- What the log does not tell yet is before the worker. -/
  traces : machine.connection.books.marks.filter Occurrence.isTrace ++
    machine.agenda.flatMap Job.traces = receptions.flatMap Reception.traces
  counted : machine.connection.books.stats.consumed + machine.agenda.countP Job.counts =
    receptions.length
  faults : machine.connection.books.marks.filterMap Occurrence.fault? ++
    machine.agenda.flatMap (Job.faults machine.connection.books.decoder) =
      stalls .empty machine.taken
  malformed : machine.connection.books.stats.malformedHeaders =
    (machine.connection.books.marks.filterMap Occurrence.fault?).length

namespace Consumed

variable [Wire ω] {receptions : List Reception} {before after : Machine app ω}

/-- The worker does the first step of a job. -/
private theorem worked
    (consumed : Consumed receptions before) (orderly : Orderly before)
    {job : Job app} {rest : List (Job app)} (agenda : before.agenda = job :: rest) :
    Consumed (receptions ++ job.received before.connection)
      (before.absorb rest (job.step before.now before.connection)) := by
  have posting := job.posting before.now before.connection
  refine ⟨?_, ?_, ?_, ?_, ?_⟩
  · rw [List.map_append, consumed.payloads, ← job.routedIn_step before.now]
    exact (routedIn_append before.history _).symm
  · have held := consumed.traces
    rw [agenda, List.flatMap_cons] at held
    -- What comes of a payload is told before anything that stands behind it.
    have inOrder : (job.received before.connection).flatMap Reception.traces ++
        (job.traces ++ rest.flatMap Job.traces) =
          job.traces ++ rest.flatMap Job.traces ++
            (job.received before.connection).flatMap Reception.traces := by
      by_cases isRoute : ∃ payload, job = .route payload
      · obtain ⟨payload, rfl⟩ := isRoute
        have order := orderly.order
        rw [agenda, List.pairwise_cons] at order
        have nothing : rest.flatMap Job.traces = [] :=
          List.flatMap_eq_nil_iff.mpr fun behind isBehind =>
            (order.1 behind isBehind).traces_eq_nil
        rw [nothing]
        simp [Job.traces]
      · have noReception : job.received before.connection = [] := by
          cases job with
          | route payload =>
              exact absurd ⟨payload, rfl⟩ isRoute
          | _ =>
              rfl
        rw [noReception]
        simp
    change _ ++ List.flatMap Job.traces (_ ++ rest) = _
    rw [List.flatMap_append, ← List.append_assoc]
    refine (congrArg (· ++ rest.flatMap Job.traces) posting.traces).trans ?_
    rw [List.flatMap_append, ← held]
    simp only [List.append_assoc] at inOrder ⊢
    rw [inOrder]
    rfl
  · have held := consumed.counted
    have added := posting.consumed
    rw [agenda, List.countP_cons] at held
    change _ + List.countP Job.counts (_ ++ rest) = _
    rw [List.countP_append, List.length_append]
    cases counts : job.counts with
    | true | false =>
        rw [counts] at held added
        change (job.step before.now before.connection).connection.books.stats.consumed + _ = _
        change before.connection.stats.consumed + _ = _ at held
        simp only [Bool.toNat_true, Bool.toNat_false, if_true, Bool.false_eq_true, if_false]
          at held added
        omega
  · have held := consumed.faults
    rw [agenda, List.flatMap_cons] at held
    have later : rest.flatMap
        (Job.faults (job.step before.now before.connection).connection.books.decoder) =
          rest.flatMap (Job.faults before.connection.books.decoder) := by
      refine List.flatMap_congr fun behind isBehind => Job.faults_eq ?_ _ _
      rintro command rfl
      exact orderly.not_carried_later agenda command isBehind
    change _ ++ List.flatMap (Job.faults _) (_ ++ rest) = stalls .empty before.taken
    rw [List.flatMap_append, ← List.append_assoc, ← held, ← List.append_assoc]
    exact (congrArg (_ ++ ·) later).trans (congrArg (· ++ _) posting.faults)
  · have held := consumed.malformed
    have added := posting.malformed
    change (job.step before.now before.connection).connection.books.stats.malformedHeaders = _
    change before.connection.stats.malformedHeaders =
      (before.connection.marks.filterMap Occurrence.fault?).length at held
    dsimp only at added
    rw [held, Nat.add_comm] at added
    exact Nat.add_left_cancel added

theorem next
    (consumed : Consumed receptions before) (orderly : Orderly before) (inbound : Inbound before)
    {choice : Choice app ω} (booked : Booked before choice after) :
    Consumed (receptions ++ before.jotted Job.received choice) after := by
  have unreceived {reached : Machine app ω} (nothing : Consumed receptions reached) :
      Consumed (receptions ++ []) reached :=
    (List.append_nil receptions).symm ▸ nothing
  obtain ⟨payloads, traces, counted, faults, malformed⟩ := consumed
  cases booked with
  | @taken command rest agenda isRunning inbox =>
      rw [agenda] at traces counted faults
      refine unreceived ⟨payloads, traces, counted, ?_, malformed⟩
      -- Between two commands the decoder is where the commands before have left it.
      have extracted : extract .empty before.taken = _ := inbound
      rw [agenda] at extracted
      have sameDecoder : (extract .empty before.taken).2 = before.connection.books.decoder :=
        congrArg Prod.snd extracted
      rw [stalls_append, sameDecoder, ← faults]
      simp [stalls, Job.faults, Connection.books]
      rfl
  | woken agenda isRunning =>
      rw [agenda] at traces counted faults
      exact unreceived ⟨payloads, traces, counted, faults, malformed⟩
  | @worked job rest agenda =>
      rw [Machine.jotted_work _ agenda]
      exact worked ⟨payloads, traces, counted, faults, malformed⟩ orderly agenda
  | reordered agenda =>
      rw [agenda] at traces counted faults
      exact unreceived ⟨payloads, traces, counted, faults, malformed⟩
  | called isRunning agenda taken history books =>
      refine unreceived ⟨?_, ?_, ?_, ?_, ?_⟩
      · rwa [history]
      · rwa [books, agenda]
      · rwa [books, agenda]
      · rwa [books, agenda, taken]
      · rwa [books]
  | beside unworked silent agenda taken history books =>
      rw [Machine.jotted_of_unworked unworked]
      refine unreceived ⟨?_, ?_, ?_, ?_, ?_⟩
      · rwa [history]
      · rwa [books, agenda]
      · rwa [books, agenda]
      · rwa [books, agenda, taken]
      · rwa [books]

end Consumed

theorem consumed_run [Wire ω]
    (wire : ω) (memory : app.Memory) (defaultTimeout : Option Duration)
    (schedule : List (Choice app ω)) :
    let start : Machine app ω := .start wire memory defaultTimeout
    Consumed (start.receptions schedule) (start.run schedule) := by
  intro start
  have reachable : start.Reachable := ⟨wire, memory, defaultTimeout, [], rfl⟩
  refine reachable.schedule_induction
    (fun schedule reached => Consumed (start.receptions schedule) reached)
    ⟨rfl, rfl, rfl, rfl, rfl⟩ ?_ schedule
  intro schedule choice orderly booked consumed
  have inbound := inbound_of_reachable (reachable.run schedule)
  rw [Machine.receptions, Machine.jottings_snoc]
  exact consumed.next orderly inbound booked

/-! ## Every schedule -/

/-- Every payload that the decoder gives out is received once, in their order, and as its form, the
table and the handlers want it. Whenever the worker is about to receive one, the log tells all of
the payloads before and nothing else of payloads; a request that nobody handles is answered with
this very step. Between two commands the receptions are those of all payloads so far: the log tells
them and nothing else, the five counts add up to their number, and observers were told the malformed
header blocks at which the decoder has stalled, which are counted too. Handlers are shown payloads
as they are. -/
theorem payloads_are_consumed_once [Wire ω]
    (wire : ω) (memory : app.Memory) (defaultTimeout : Option Duration)
    (schedule : List (Choice app ω)) :
    let start : Machine app ω := .start wire memory defaultTimeout
    let machine := start.run schedule
    let connection := machine.connection
    let receptions := start.receptions schedule
    let extracted := (extract .empty machine.taken).1
    (receptions.map (·.payload) <+: extracted ∧
      connection.traces <+: receptions.flatMap Reception.traces ∧
      ∀ reception ∈ receptions, ∀ shown,
        reception.course.shown? = some shown → shown = reception.payload) ∧
    (∀ payload rest, machine.agenda = .route payload :: rest →
      start.receptions (schedule ++ [.work]) =
          receptions ++ [⟨payload, connection.course payload⟩] ∧
        connection.traces = receptions.flatMap Reception.traces ∧
        (machine.next .work).entered =
          machine.entered ++ (connection.course payload).reply?.toList.map .reply) ∧
    (machine.agenda = [] →
      receptions.map (·.payload) = extracted ∧
        connection.traces = receptions.flatMap Reception.traces ∧
        connection.stats.consumed = extracted.length ∧
        connection.faults = stalls .empty machine.taken ∧
        connection.stats.malformedHeaders = (stalls .empty machine.taken).length) := by
  intro start machine connection receptions extracted
  have consumed : Consumed receptions machine :=
    consumed_run wire memory defaultTimeout schedule
  have reachable : machine.Reachable := ⟨wire, memory, defaultTimeout, schedule, rfl⟩
  have orderly := orderly_of_reachable reachable
  have inbound := inbound_of_reachable reachable
  have traces := consumed.traces
  rw [show machine.connection.books.marks = machine.connection.marks from rfl,
    ← Connection.traces_eq] at traces
  refine ⟨⟨?_, ⟨_, traces⟩, ?_⟩, ?_, ?_⟩
  · have isExtracted : extract .empty machine.taken = _ := inbound
    rw [consumed.payloads]
    exact ⟨_, (congrArg Prod.fst isExtracted).symm⟩
  · intro reception isReception shown isShown
    obtain ⟨before, job, isReceived⟩ := Machine.mem_jottings isReception
    cases job with
    | route payload =>
        rw [List.mem_singleton.mp isReceived] at isShown ⊢
        exact shown_course isShown
    | _ =>
        contradiction
  · intro payload rest agenda
    have running := (orderly.routing payload (by simp [agenda])).2
    refine ⟨?_, ?_, ?_⟩
    · rw [Machine.receptions, Machine.jottings_append]
      change _ ++ (machine.jotted Job.received .work ++ []) = _
      rw [List.append_nil, Machine.jotted_work _ agenda]
      rfl
    · have order := orderly.order
      rw [agenda, List.pairwise_cons] at order
      have nothing : rest.flatMap Job.traces = [] :=
        List.flatMap_eq_nil_iff.mpr fun behind isBehind => (order.1 behind isBehind).traces_eq_nil
      rw [agenda, List.flatMap_cons, nothing] at traces
      exact (List.append_nil _).symm.trans traces
    · have answered := inbox_sort running payload
      rw [Machine.next, agenda]
      change machine.entered ++ (machine.connection.sort payload).connection.inbox.drop
        machine.connection.inbox.length = _
      rw [answered, List.drop_left]
  · intro idle
    have counted := consumed.counted
    have faults := consumed.faults
    have malformed := consumed.malformed
    have allRouted := inbound.routedIn_eq idle
    have received : receptions.map (·.payload) = extracted := consumed.payloads.trans allRouted
    rw [idle] at traces counted faults
    have told : connection.faults = stalls .empty machine.taken :=
      connection.faults_eq.trans ((List.append_nil _).symm.trans faults)
    refine ⟨received, (List.append_nil _).symm.trans traces, ?_, told, ?_⟩
    · rw [← received, List.length_map]
      exact counted
    · rw [← told, connection.faults_eq]
      exact malformed

/-- A notification of the peer, as a frame. -/
def notificationOf (method : String) : Bytes :=
  Framing.encodeFrame (encodeText ("\x7b\"jsonrpc\":\"2.0\",\"method\":\"" ++ method ++ "\"\x7d"))

/-- There is a handler for one notification and one for one request, and a callback for payloads
that are no messages. One payload of each kind comes in, then a malformed header block, and after a
reset one more notification. -/
def everyKind : List (Choice bare (MemoryWire Unit)) :=
  .act (.order (.register (.notification "known" fun _ => .done))) ::
    .act (.order (.register (.request "known" fun _ _ => .done))) ::
    .act (.order (.register (.undecodable fun _ => .done))) ::
    .act (.request "ask" (.ok none) .none (.callback fun _ => .done)) ::
    .act (.arrive (.chunk (Framing.encodeFrame (responseTo "1") ++
      Framing.encodeFrame (responseTo "1") ++ notificationOf "known" ++ notificationOf "other" ++
      requestOf "1" "known" ++ requestOf "2" "other" ++ Framing.encodeFrame [0]))) ::
    .act (.arrive (.chunk (encodeText "Length: 1\r\n\r\n"))) ::
    .act (.order .resetFramer) ::
    .act (.arrive (.chunk (notificationOf "known"))) ::
    (List.replicate 9 (.take :: List.replicate 30 .work)).flatten

/-- The machine after that schedule. -/
def afterEveryKind : Machine bare (MemoryWire Unit) :=
  (Machine.start .new () none).run everyKind

/-- A request that nobody handles is before the worker. -/
def beforeUnhandled : List (Choice bare (MemoryWire Unit)) :=
  [.act (.arrive (.chunk (requestOf "2" "other"))), .take, .work]

private theorem entered_of_unhandled
    {machine : Machine bare (MemoryWire Unit)}
    (isNext : ((machine.jotted Job.received .work).map fun reception =>
      reception.course.reply?.isSome) = [true])
    (answered : ∀ payload rest, machine.agenda = .route payload :: rest →
      (machine.next .work).entered = machine.entered ++
        (machine.connection.course payload).reply?.toList.map .reply) :
    (machine.next .work).entered.length = machine.entered.length + 1 := by
  rw [Machine.jotted] at isNext
  cases agenda : machine.agenda with
  | nil =>
      rw [agenda] at isNext
      contradiction
  | cons job rest =>
      rw [agenda] at isNext
      cases job with
      | route payload =>
          have isReply := List.singleton_inj.mp isNext
          obtain ⟨response, isResponse⟩ := Option.isSome_iff_exists.mp isReply
          rw [answered payload rest agenda, isResponse]
          exact List.length_append
      | _ =>
          contradiction

/-- Of eight payloads all but the last are of different kinds. -/
theorem every_kind_is_consumed :
    let waiting : Machine bare (MemoryWire Unit) := (Machine.start .new () none).run beforeUnhandled
    afterEveryKind.agenda.isEmpty = true ∧ afterEveryKind.connection.stats.consumed = 8 ∧
      afterEveryKind.connection.stats.malformedHeaders = 1 ∧
      (waiting.next .work).entered.length = waiting.entered.length + 1 := by
  intro waiting
  have isNext : ((waiting.jotted Job.received .work).map fun reception =>
      reception.course.reply?.isSome) = [true] := by
    decide +kernel
  have facts : afterEveryKind.agenda.isEmpty = true ∧
      (extract .empty afterEveryKind.taken).1.length = 8 ∧
      (stalls .empty afterEveryKind.taken).length = 1 := by
    decide +kernel
  obtain ⟨isIdle, extracted, stalled⟩ := facts
  have settled := (payloads_are_consumed_once .new () none everyKind).2.2
  have received := (payloads_are_consumed_once .new () none beforeUnhandled).2.1
  have isMachine : (Machine.start .new () none).run everyKind = afterEveryKind := rfl
  rw [isMachine] at settled
  obtain ⟨-, -, counted, -, malformed⟩ := settled (List.isEmpty_iff.mp isIdle)
  rw [extracted] at counted
  rw [stalled] at malformed
  refine ⟨isIdle, counted, malformed, ?_⟩
  exact entered_of_unhandled isNext fun payload rest agenda => (received payload rest agenda).2.2

end RpcEndpoint
