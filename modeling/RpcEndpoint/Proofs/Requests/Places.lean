import RpcEndpoint.Proofs.Requests.Ledger
import RpcEndpoint.Wire.Memory

/-!
# The place of a request

Between two commands a request that was accepted is in the inbox, in the table, or completed, and in
no two of these places. At no moment has a request two outcomes.
-/

namespace RpcEndpoint

open Connection

variable {app : Application} {ω : Type}

namespace Machine

/-- The identifiers of the requests in the inbox. -/
def queued (machine : Machine app ω) : List MessageId :=
  (promisesIn machine.connection.inbox).map (·.id)

/-- The identifiers of the requests that are pending. -/
def awaited (machine : Machine app ω) : List MessageId :=
  machine.connection.pending.ids

/-- The identifiers of the requests that came to their outcomes, once for each outcome. -/
def completed (machine : Machine app ω) : List MessageId :=
  machine.connection.outcomes.map (·.1)

end Machine

namespace Ledger

variable {machine : Machine app ω}

theorem completed_eq (ledger : Ledger machine) :
    machine.completed = (keptIn machine.history).map (·.id) := by
  rw [Machine.completed, ledger.outcomes, map_id_keptIn]

/-- No identifier is in two places, or twice in one. -/
theorem nodup_everywhere
    (ledger : Ledger machine) (bound : machine.accepted.length ≤ 2 ^ 64) :
    (machine.queued ++ machine.awaited ++ machine.completed).Nodup := by
  obtain ⟨waiting, entered, inbox⟩ := ledger.inbox
  have distinct := ledger.nodup_accepted bound
  rw [← ledger.ids, entered, promisesIn_append, List.map_append] at distinct
  have places := (ledger.balance.map (·.id)).append_right ((promisesIn waiting).map (·.id))
  have everywhere := places.nodup_iff.mpr distinct
  rw [List.map_append, List.map_append, PendingTable.map_id_promises, ← ledger.completed_eq]
    at everywhere
  have fewer : machine.queued.Sublist ((promisesIn waiting).map (·.id)) := by
    rw [Machine.queued, inbox]
    split
    · exact .refl _
    · exact List.nil_sublist _
  have held : (machine.awaited ++ machine.completed ++ machine.queued).Nodup := by
    refine everywhere.sublist (List.Sublist.append ?_ fewer)
    rw [List.append_assoc]
    exact List.sublist_append_right _ _
  rw [List.append_assoc]
  exact List.nodup_append_comm.mp held

/-- What is pending was taken from the inbox. -/
theorem mem_taken_of_awaited
    (ledger : Ledger machine) {id : MessageId} (isAwaited : id ∈ machine.awaited) :
    id ∈ (promisesIn machine.taken).map (·.id) := by
  refine (ledger.balance.map (·.id)).mem_iff.mp ?_
  rw [List.map_append, List.map_append, PendingTable.map_id_promises]
  exact List.mem_append_left _ (List.mem_append_right _ isAwaited)

/-- What was taken from the inbox is owed by a job, pending, or given its outcome. -/
theorem place_of_taken
    (ledger : Ledger machine) {id : MessageId}
    (isTaken : id ∈ (promisesIn machine.taken).map (·.id)) :
    (∃ job ∈ machine.agenda, ∃ promise ∈ job.promises, promise.id = id) ∨
      id ∈ machine.awaited ∨ id ∈ (keptIn machine.history).map (·.id) := by
  have places := (ledger.balance.map (·.id)).mem_iff.mpr isTaken
  rw [List.map_append, List.map_append, PendingTable.map_id_promises, List.mem_append,
    List.mem_append, or_assoc] at places
  refine places.imp_left fun isOwed => ?_
  obtain ⟨promise, isPromise, sameId⟩ := List.mem_map.mp isOwed
  obtain ⟨job, isJob, isOwn⟩ := List.mem_flatMap.mp isPromise
  exact ⟨job, isJob, promise, isOwn, sameId⟩

/-- An outcome in the log was handed to the sender of the request. -/
theorem deed_of_outcome
    (ledger : Ledger machine) (bound : machine.accepted.length ≤ 2 ^ 64)
    {promise : Promise app} (isTaken : promise ∈ promisesIn machine.taken)
    {outcome : Except Failure Bytes}
    (isGiven : (promise.id, outcome) ∈ machine.connection.outcomes) :
    .completed promise outcome ∈ machine.history := by
  rw [ledger.outcomes] at isGiven
  obtain ⟨deed, isDeed, isOutcome⟩ := List.mem_filterMap.mp isGiven
  cases deed with
  | completed other given =>
      obtain ⟨sameId, rfl⟩ := Prod.mk.inj (Option.some.inj isOutcome)
      have isKept : other ∈ keptIn machine.history :=
        List.mem_filterMap.mpr ⟨_, isDeed, rfl⟩
      have otherTaken : other ∈ promisesIn machine.taken :=
        ledger.balance.mem_iff.mp (List.mem_append_right _ isKept)
      have same : other = promise :=
        List.inj_on_of_nodup_map (ledger.nodup_taken bound) otherTaken isTaken sameId
      rwa [same] at isDeed
  | sent | routed =>
      contradiction

/-- A request that has come to its outcome has no other and is pending no more. -/
theorem settled_of_completed
    (ledger : Ledger machine) (bound : machine.accepted.length ≤ 2 ^ 64)
    {promise : Promise app} {outcome : Except Failure Bytes}
    (isDeed : .completed promise outcome ∈ machine.history) :
    machine.completed.count promise.id = 1 ∧ promise.id ∉ machine.awaited := by
  have everywhere := ledger.nodup_everywhere bound
  have isCompleted : promise.id ∈ machine.completed := by
    rw [ledger.completed_eq]
    exact List.mem_map_of_mem (List.mem_filterMap.mpr ⟨_, isDeed, rfl⟩)
  refine ⟨List.count_eq_one_of_mem everywhere.of_append_right isCompleted, fun isAwaited => ?_⟩
  exact List.disjoint_of_nodup_append everywhere (List.mem_append_right _ isAwaited) isCompleted

/-- What is in the inbox was not taken from it. -/
theorem not_mem_taken_of_queued
    (ledger : Ledger machine) (bound : machine.accepted.length ≤ 2 ^ 64)
    {id : MessageId} (isQueued : id ∈ machine.queued) :
    id ∉ (promisesIn machine.taken).map (·.id) := by
  obtain ⟨waiting, entered, inbox⟩ := ledger.inbox
  have distinct := ledger.nodup_accepted bound
  rw [← ledger.ids, entered, promisesIn_append, List.map_append] at distinct
  have isWaiting : id ∈ (promisesIn waiting).map (·.id) := by
    rw [Machine.queued, inbox] at isQueued
    split at isQueued
    · exact isQueued
    · contradiction
  intro isTaken
  exact List.disjoint_of_nodup_append distinct isTaken isWaiting

/-- Between two commands of a running worker, the promises are in the three places. -/
theorem perm_entered
    (ledger : Ledger machine) (idle : machine.agenda = [])
    (isRunning : machine.connection.running = true) :
    (promisesIn machine.connection.inbox ++ machine.connection.pending.promises ++
      keptIn machine.history).Perm (promisesIn machine.entered) := by
  obtain ⟨waiting, entered, inbox⟩ := ledger.inbox
  rw [if_pos isRunning] at inbox
  have held := ledger.balance
  rw [idle] at held
  rw [entered, inbox, promisesIn_append, List.append_assoc]
  exact List.perm_append_comm.trans (held.append_right _)

end Ledger

/-- Whatever the senders, the callbacks, the tokens, the wire and the clock do, between two commands
of a running worker each request that was accepted is in exactly one place: in the inbox, in the
table, or completed, and then once. What is in these places are the promises that were made. At no
moment has a request two outcomes, and one that has an outcome is neither pending nor in the
inbox. Identifiers must not start over, which they do after `2 ^ 64` requests. -/
theorem each_request_has_one_place [Wire ω]
    {machine : Machine app ω} (reachable : machine.Reachable)
    (bound : machine.accepted.length ≤ 2 ^ 64) :
    (machine.agenda = [] → machine.connection.running = true →
      (∀ id ∈ machine.accepted,
        machine.queued.count id + machine.awaited.count id + machine.completed.count id = 1) ∧
      (promisesIn machine.connection.inbox ++ machine.connection.pending.promises ++
        keptIn machine.history).Perm (promisesIn machine.entered)) ∧
    (promisesIn machine.entered).map (·.id) = machine.accepted ∧
    machine.connection.outcomes = outcomesIn machine.history ∧
    (∀ id, machine.completed.count id ≤ 1) ∧
    ∀ id ∈ machine.completed, id ∉ machine.awaited ∧ id ∉ machine.queued := by
  have ledger := Ledger.of_reachable reachable bound
  have distinct := ledger.nodup_everywhere bound
  refine ⟨?_, ledger.ids, ledger.outcomes, ?_, ?_⟩
  · intro idle isRunning
    have places := ledger.perm_entered idle isRunning
    refine ⟨?_, places⟩
    intro id isAccepted
    have isSomewhere : id ∈ machine.queued ++ machine.awaited ++ machine.completed := by
      have ids := places.map (·.id)
      rw [List.map_append, List.map_append, PendingTable.map_id_promises, ← ledger.completed_eq,
        ledger.ids] at ids
      exact ids.mem_iff.mpr isAccepted
    have once := List.count_eq_one_of_mem distinct isSomewhere
    rwa [List.count_append, List.count_append] at once
  · intro id
    exact List.nodup_iff_count_le_one.mp distinct.of_append_right id
  · intro id isCompleted
    have apart := List.disjoint_of_nodup_append distinct
    refine ⟨?_, ?_⟩
    · intro isAwaited
      exact apart (List.mem_append_right _ isAwaited) isCompleted
    · intro isQueued
      exact apart (List.mem_append_left _ isQueued) isCompleted

/-- An application whose callbacks remember and note nothing. -/
def bare : Application := ⟨Unit, Unit⟩

/-- One request is sent and waits, one is cancelled before it is sent, and one stays in the
inbox. -/
def threeRequests : List (Choice bare (MemoryWire Unit)) :=
  [.trigger 7, .act (.request "first" (.ok none) .none (.callback fun _ => .done)),
    .act (.request "second" (.ok none) ⟨none, some 7⟩ (.callback fun _ => .done)),
    .take, .work, .work, .work, .work,
    .act (.request "third" (.ok none) .none (.mailbox .any)),
    .take, .work, .work, .work, .work]

/-- The machine after that schedule. -/
def afterThreeRequests : Machine bare (MemoryWire Unit) :=
  (Machine.start .new () none).run threeRequests

theorem three_requests_in_three_places :
    afterThreeRequests.Reachable ∧
      afterThreeRequests.accepted.length ≤ 2 ^ 64 ∧
      afterThreeRequests.agenda.isEmpty = true ∧
      afterThreeRequests.connection.running = true ∧
      afterThreeRequests.queued = [.number 3] ∧
      afterThreeRequests.awaited = [.number 1] ∧
      afterThreeRequests.completed = [.number 2] ∧
      ∀ id ∈ afterThreeRequests.accepted,
        afterThreeRequests.queued.count id + afterThreeRequests.awaited.count id +
          afterThreeRequests.completed.count id = 1 := by
  have reachable : afterThreeRequests.Reachable := ⟨.new, (), none, threeRequests, rfl⟩
  have bound : afterThreeRequests.accepted.length ≤ 2 ^ 64 := by decide +kernel
  have idle : afterThreeRequests.agenda.isEmpty = true := by decide +kernel
  have isRunning : afterThreeRequests.connection.running = true := by decide +kernel
  refine ⟨reachable, bound, idle, isRunning, by decide +kernel, by decide +kernel,
    by decide +kernel, ?_⟩
  have places := each_request_has_one_place reachable bound
  exact (places.1 (List.isEmpty_iff.mp idle) isRunning).1

end RpcEndpoint
