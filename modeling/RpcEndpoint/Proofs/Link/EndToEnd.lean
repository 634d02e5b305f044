import Mathlib.Data.List.Induction
import RpcEndpoint.Proofs.Link.Wired
import RpcEndpoint.Proofs.Requests.Places

/-!
# Requests over a link

Whatever the order in which two machines work and their bytes go back and forth: once nothing is
left to be done, every request of the one has come to what the other computes for it.
-/

namespace RpcEndpoint

open Connection
open Json (Value)

variable {asking answering : Application}

namespace Link

/-- A link between two fresh connections. The callbacks of either are already installed. -/
def start (askerMemory : asking.Memory) (askerHandlers : Handlers asking)
    (answererMemory : answering.Memory) (answererHandlers : Handlers answering) :
    Link asking answering :=
  ⟨.equipped .new askerMemory askerHandlers, .equipped .new answererMemory answererHandlers⟩

/-- Both workers have come to the end of their inboxes, and nothing is on its way. -/
structure Settled (link : Link asking answering) : Prop where
  askerIdle : link.asker.agenda = []
  askerEmpty : link.asker.connection.inbox = []
  answererIdle : link.answerer.agenda = []
  answererEmpty : link.answerer.connection.inbox = []
  outwardEmpty : link.asker.underway link.answerer = []
  homewardEmpty : link.answerer.underway link.asker = []

instance (link : Link asking answering) : Decidable link.Settled :=
  decidable_of_iff
    ((link.asker.agenda = [] ∧ link.asker.connection.inbox = []) ∧
      (link.answerer.agenda = [] ∧ link.answerer.connection.inbox = []) ∧
      link.asker.underway link.answerer = [] ∧ link.answerer.underway link.asker = [])
    ⟨fun ⟨⟨askerIdle, askerEmpty⟩, ⟨answererIdle, answererEmpty⟩, outwardEmpty, homewardEmpty⟩ =>
        ⟨askerIdle, askerEmpty, answererIdle, answererEmpty, outwardEmpty, homewardEmpty⟩,
      fun settled =>
        ⟨⟨settled.askerIdle, settled.askerEmpty⟩, ⟨settled.answererIdle, settled.answererEmpty⟩,
          settled.outwardEmpty, settled.homewardEmpty⟩⟩

/-- The method and the params that a choice asks for. -/
def Choice.asked? : Choice asking → Option (String × Option Value)
  | .ask method params _ => some (method, params)
  | _ => none

/-- What the requests of a link ask for. -/
def asked (link : Link asking answering) : List (String × Option Value) :=
  link.requests.map fun request => (request.method, request.params)

theorem run_append (link : Link asking answering) (left right : List (Choice asking)) :
    link.run (left ++ right) = (link.run left).run right :=
  List.foldl_append

/-- No request is taken back. -/
theorem prefix_requests (link : Link asking answering) (choice : Choice asking) :
    link.requests <+: (link.next choice).requests := by
  have stroke (next : RpcEndpoint.Choice asking (MemoryWire Unit)) :
      link.requests <+: requestsIn (link.asker.next next).entered :=
    List.IsPrefix.filterMap _ (Stroke.entered_prefix (link.asker.stroke next))
  cases choice with
  | ask method params sink =>
      exact stroke _
  | asker stride =>
      exact stroke _
  | homeward count =>
      exact stroke _
  | answerer stride =>
      exact List.prefix_rfl
  | outward count =>
      exact List.prefix_rfl

end Link

namespace Wired

variable {service : Service} {link : Link asking answering}

theorem start
    {handlers : Handlers answering} (provided : handlers.Provide service)
    (askerMemory : asking.Memory) (askerHandlers : Handlers asking)
    (answererMemory : answering.Memory) :
    Wired service (Link.start askerMemory askerHandlers answererMemory handlers) where
  asks := .equipped askerMemory askerHandlers
  answers := ⟨[], .equipped answererMemory provided⟩
  askerLedger := ⟨rfl, rfl, rfl, rfl, ⟨[], rfl, rfl⟩, .refl _⟩
  answererLedger := ⟨rfl, rfl, rfl, rfl, ⟨[], rfl, rfl⟩, .refl _⟩
  askerInbound := rfl
  answererInbound := rfl
  outward := List.prefix_rfl
  homeward := List.prefix_rfl

/-- What a choice asks for is added to the requests. -/
private theorem asked_sublist
    (wired : Wired service link) (choice : Link.Choice asking) :
    (link.asked ++ choice.asked?.toList).Sublist (link.next choice).asked := by
  cases choice with
  | ask method params sink =>
      obtain ⟨mailboxes, sent⟩ :=
        wired.asks.steadily.steady.request_eq method params .none sink
      have requests : (link.next (.ask method params sink)).requests = link.requests ++
          [.new (numberedId link.asker.connection.nextNumber) method params] := by
        rw [Link.requests, Link.next, Machine.next, Act.apply, sent, Machine.absorb]
        dsimp only
        rw [List.drop_left, requestsIn_append]
        rfl
      rw [Link.asked, Link.asked, requests, List.map_append]
      exact List.Sublist.refl _
  | _ =>
      rw [show Link.Choice.asked? _ = none from rfl, Option.toList_none, List.append_nil]
      exact ((link.prefix_requests _).map _).sublist

/-- Every schedule keeps the link wired. -/
theorem run
    {start : Link asking answering} (wired : Wired service start)
    {schedule : List (Link.Choice asking)}
    (inquires : ∀ method params sink, .ask method params sink ∈ schedule → sink.Inquires)
    (bound : (start.run schedule).requests.length ≤ 2 ^ 64)
    (carries : ∀ request ∈ (start.run schedule).requests, service.Carries request) :
    Wired service (start.run schedule) ∧
      (start.asked ++ schedule.filterMap Link.Choice.asked?).Sublist
        (start.run schedule).asked := by
  induction schedule using List.reverseRecOn with
  | nil =>
      refine ⟨wired, ?_⟩
      rw [List.filterMap_nil, List.append_nil]
      exact List.Sublist.refl _
  | append_singleton earlier choice inductionHypothesis =>
      rw [Link.run_append] at bound carries ⊢
      have grows := (start.run earlier).prefix_requests choice
      obtain ⟨wiredEarlier, askedEarlier⟩ := inductionHypothesis
        (fun method params sink isEarlier =>
          inquires method params sink (List.mem_append_left _ isEarlier))
        (Nat.le_trans grows.length_le bound)
        (fun request isRequest => carries request (grows.subset isRequest))
      refine ⟨wiredEarlier.next (Nat.le_trans grows.length_le bound)
        (fun request isRequest => carries request (grows.subset isRequest)) ?_, ?_⟩
      · rintro method params sink rfl
        exact inquires method params sink (List.mem_append_right _ List.mem_cons_self)
      · rw [List.filterMap_append, ← List.append_assoc]
        exact (askedEarlier.append_right _).trans (wiredEarlier.asked_sublist choice)

/-- No identifier was given out twice. -/
theorem nodup_ids (wired : Wired service link) (bound : link.requests.length ≤ 2 ^ 64) :
    (link.requests.map (·.id)).Nodup := by
  have accepted := wired.askerLedger.accepted_eq
  rw [Link.requests, ← accepted]
  refine wired.askerLedger.nodup_accepted ?_
  rw [accepted, List.length_map]
  exact bound

/-! ## Links at rest -/

private theorem taken_eq (wired : Wired service link) (settled : link.Settled) :
    requestsIn link.asker.taken = link.requests := by
  have entered := wired.askerLedger.entered_eq wired.asks.steadily.steady.running
  rw [settled.askerEmpty, List.append_nil] at entered
  rw [Link.requests, entered]

/-- When nothing is left to be done, the replies to all requests have been routed. -/
private theorem routedIn_eq
    (wired : Wired service link) (carries : ∀ request ∈ link.requests, service.Carries request)
    (settled : link.Settled) :
    routedIn link.asker.history =
      (link.requests.map service.answer).map (·.toValue.encode) := by
  obtain ⟨outward, homeward, traffic⟩ := wired.traffic carries
  obtain ⟨due, answers⟩ := wired.answers
  have allSent : outward = link.requests :=
    (traffic.allSent settled.askerIdle).trans (wired.taken_eq settled)
  have allHeard : link.answerer.heard = link.asker.written :=
    wired.outward.eq_of_length_le (List.drop_eq_nil_iff.mp settled.outwardEmpty)
  have routed := traffic.answererHears.routedIn_eq settled.answererIdle settled.answererEmpty
    (allHeard.trans traffic.askerWritten)
  have nothingDue : due = [] := by
    have duty := answers.duty
    rw [settled.answererIdle] at duty
    generalize link.answerer.connection.tickets = tickets at duty
    cases duty
    rfl
  have allReplied : homeward = link.requests.map service.answer := by
    have entered := wired.answererLedger.entered_eq answers.steadily.steady.running
    have replies := answers.replies
    rw [settled.answererEmpty, List.append_nil] at entered
    rw [nothingDue, List.append_nil, routed, Service.replies_payloads traffic.carried,
      allSent] at replies
    rw [traffic.allReplied settled.answererIdle, ← entered, replies]
  have allHome : link.asker.heard = link.answerer.written :=
    wired.homeward.eq_of_length_le (List.drop_eq_nil_iff.mp settled.homewardEmpty)
  rw [← allReplied]
  exact traffic.askerHears.routedIn_eq settled.askerIdle settled.askerEmpty
    (allHome.trans traffic.answererWritten)

/-- Each request has one outcome, its reply. -/
theorem outcomes_eq
    (wired : Wired service link) (carries : ∀ request ∈ link.requests, service.Carries request)
    (settled : link.Settled) :
    link.asker.connection.outcomes =
      link.requests.map fun request =>
        (request.id, .ok (service.answer request).toValue.encode) := by
  have outcomes := wired.asks.outcomes
  rw [settled.askerIdle, wired.routedIn_eq carries settled, List.filterMap_nil, List.append_nil,
    Service.completions_payloads carries] at outcomes
  rw [wired.askerLedger.outcomes, outcomes]

theorem pending_eq_nil
    (wired : Wired service link) (carries : ∀ request ∈ link.requests, service.Carries request)
    (settled : link.Settled) : link.asker.connection.pending = [] := by
  have requests := wired.asks.requests
  rw [settled.askerIdle, wired.routedIn_eq carries settled, List.filterMap_nil, List.append_nil,
    Service.answered_payloads carries, wired.taken_eq settled] at requests
  exact List.map_eq_nil_iff.mp (List.append_right_eq_self.mp requests)

end Wired

/-- Nothing that came in was out of place. -/
structure Stats.Clean (stats : Stats) : Prop where
  allMatched : stats.unmatchedResponses = 0
  allDecoded : stats.undecodablePayloads = 0
  wellFormed : stats.malformedHeaders = 0

theorem Connection.Steady.clean
    {app : Application} {connection : Connection app (MemoryWire Unit)}
    (steady : connection.Steady) : connection.stats.Clean :=
  ⟨steady.allMatched, steady.allDecoded, steady.wellFormed⟩

theorem requests_over_link_are_answered
    {service : Service} {handlers : Handlers answering} (provided : handlers.Provide service)
    (askerMemory : asking.Memory) (askerHandlers : Handlers asking)
    (answererMemory : answering.Memory) {schedule : List (Link.Choice asking)}
    (inquires : ∀ method params sink, .ask method params sink ∈ schedule → sink.Inquires) :
    let link := (Link.start askerMemory askerHandlers answererMemory handlers).run schedule
    link.requests.length ≤ 2 ^ 64 →
    (∀ request ∈ link.requests, service.Carries request) →
    link.Settled →
    (schedule.filterMap Link.Choice.asked?).Sublist link.asked ∧
      (link.requests.map (·.id)).Nodup ∧
      (link.asker.connection.outcomes.map fun outcome =>
          (outcome.1, decodeOutcome .any outcome.2)) =
        (link.requests.map fun request =>
          (request.id, (arrivedOutcome (service request.method
            (Json.arrived request.params))).mapError .server)) ∧
      link.asker.connection.pending = [] ∧
      link.asker.connection.stats.Clean ∧ link.answerer.connection.stats.Clean := by
  intro link bound carries settled
  obtain ⟨wired, asked⟩ := (Wired.start provided askerMemory askerHandlers answererMemory).run
    inquires bound carries
  obtain ⟨due, answers⟩ := wired.answers
  refine ⟨asked, wired.nodup_ids bound, ?_, wired.pending_eq_nil carries settled,
    wired.asks.steadily.steady.clean, answers.steadily.steady.clean⟩
  rw [wired.outcomes_eq carries settled, List.map_map]
  refine List.map_congr_left fun request isRequest => ?_
  exact congrArg (Prod.mk request.id)
    (Response.decodeOutcome_toValue request.id (carries request isRequest).plainReply)

/-- What is sent to `echo` comes back. -/
def echo : Service
  | "echo", params => .ok (params.getD .null)
  | "fail", _ => .error ⟨-5, "no", some .null⟩
  | method, _ => .error (.methodNotFound method)

theorem echo_of_not_mem
    {method : String} (isOther : method ∉ ["echo", "fail"]) (params : Option Value) :
    echo method params = .error (.methodNotFound method) := by
  rw [List.mem_cons, List.mem_singleton, not_or] at isOther
  unfold echo
  split
  · exact absurd rfl isOther.1
  · exact absurd rfl isOther.2
  · rfl

/-- A worker carries out its next command, in so many steps. -/
def turn (stride : Stride → Link.Choice asking) (steps : Nat) : List (Link.Choice asking) :=
  stride .take :: List.replicate steps (stride .work)

/-- Three requests, the last sent while the first two are on their way. What goes over the line is
cut within a header and within a body. -/
def threeEchoes : List (Link.Choice bare) :=
  [.ask "echo" (some .null) (.mailbox .any), .ask "fail" none (.callback fun _ => .done)] ++
    turn .asker 4 ++ turn .asker 4 ++ [.outward 7] ++ turn .answerer 2 ++
    .ask "other" (some (.array [])) (.mailbox .any) :: turn .asker 4 ++ [.outward 1000] ++
    turn .answerer 11 ++ turn .answerer 2 ++ turn .answerer 2 ++ turn .answerer 2 ++
    [.homeward 50] ++ turn .asker 2 ++ [.homeward 1000] ++ turn .asker 12

/-- The link after that schedule. -/
def afterThreeEchoes : Link bare bare :=
  (Link.start () .empty () (.serving echo ["echo", "fail"])).run threeEchoes

theorem three_requests_over_link_are_answered :
    afterThreeEchoes.Settled ∧
      afterThreeEchoes.asked =
        [("echo", some .null), ("fail", none), ("other", some (.array []))] ∧
      (afterThreeEchoes.asker.connection.outcomes.map fun outcome =>
          (outcome.1, decodeOutcome .any outcome.2)) =
        [(.number 1, .ok .null), (.number 2, .error (.server ⟨-5, "no", none⟩)),
          (.number 3, .error (.server (.methodNotFound "other")))] ∧
      afterThreeEchoes.asker.connection.pending = [] := by
  have ended : (∀ request ∈ afterThreeEchoes.requests, echo.Carries request) ∧
      afterThreeEchoes.Settled ∧
      afterThreeEchoes.requests.map (·.id) = [.number 1, .number 2, .number 3] := by
    decide +kernel
  have inquires : ∀ method params sink, .ask method params sink ∈ threeEchoes →
      sink.Inquires := by
    intro method params sink isChosen
    simp only [threeEchoes, turn, List.mem_append, List.mem_cons, List.mem_replicate,
      Link.Choice.ask.injEq, reduceCtorEq, and_false, or_false,
      List.not_mem_nil, or_assoc] at isChosen
    rcases isChosen with ⟨-, -, rfl⟩ | ⟨-, -, rfl⟩ | ⟨-, -, rfl⟩
    · exact .mailbox _
    · exact .callback fun _ => .done
    · exact .mailbox _
  unfold afterThreeEchoes at ended ⊢
  obtain ⟨carries, settled, ids⟩ := ended
  have count := congrArg List.length ids
  rw [List.length_map] at count
  have provided : (Handlers.serving echo ["echo", "fail"] : Handlers bare).Provide echo :=
    Handlers.provide_serving fun _ => echo_of_not_mem
  have answered :=
    requests_over_link_are_answered provided () (.empty : Handlers bare) () inquires
  dsimp only at answered
  obtain ⟨asked, -, outcomes, pending, -, -⟩ :=
    answered (count.trans_le (by decide)) carries settled
  generalize (Link.start () .empty () (.serving echo ["echo", "fail"]) : Link bare bare).run
    threeEchoes = link at *
  have allAsked : link.asked =
      [("echo", some .null), ("fail", none), ("other", some (.array []))] :=
    (asked.eq_of_length_le (by rw [Link.asked, List.length_map, count]; rfl)).symm
  refine ⟨settled, allAsked, ?_, pending⟩
  have paired (result : String → Option Value → Except Failure Value) :
      (link.requests.map fun request => (request.id, result request.method request.params)) =
        List.zipWith (fun id asked => (id, result asked.1 asked.2))
          (link.requests.map (·.id)) link.asked := by
    rw [Link.asked, List.zipWith_map, List.zipWith_self]
  rw [outcomes, paired fun method params =>
    (arrivedOutcome (echo method (Json.arrived params))).mapError .server, ids, allAsked]
  rfl

end RpcEndpoint
