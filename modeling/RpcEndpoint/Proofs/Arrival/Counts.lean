import RpcEndpoint.Proofs.Callbacks.Spares
import RpcEndpoint.Proofs.Requests.Table

/-!
# What a payload changes

Whatever the callbacks do that a payload sets off: what becomes of the table and of the counts when
it is routed can be read off the payload and the table.
-/

namespace RpcEndpoint

variable {app : Application} {ω : Type}

/-- The requests that still wait when a payload has been routed. -/
def PendingTable.without (payload : Bytes) (table : PendingTable app) : PendingTable app :=
  match Incoming.classify payload with
  | .response response => table.remove response.id
  | _ => table

/-- The counts when a response has found its request in this table, or has not. -/
def Stats.pairUp (id : MessageId) (table : PendingTable app) (stats : Stats) : Stats :=
  match table.find id with
  | some _ =>
    { stats with
      responsesMatched := stats.responsesMatched + 1
      pending := (table.remove id).length }
  | none => { stats with unmatchedResponses := stats.unmatchedResponses + 1 }

/-- The counts when a payload has been routed with these requests pending. -/
def Stats.tally (payload : Bytes) (table : PendingTable app) (stats : Stats) : Stats :=
  match Incoming.classify payload with
  | .response response => stats.pairUp response.id table
  | .notification _ => { stats with incomingNotifications := stats.incomingNotifications + 1 }
  | .request _ => { stats with incomingRequests := stats.incomingRequests + 1 }
  | .unrecognized _ => { stats with undecodablePayloads := stats.undecodablePayloads + 1 }

theorem PendingTable.mem_of_mem_without
    {payload : Bytes} {table : PendingTable app} {entry : PendingRequest app}
    (mem : entry ∈ table.without payload) : entry ∈ table := by
  unfold without at mem
  split at mem
  · exact List.mem_of_mem_filter mem
  · exact mem

namespace Connection

private theorem spares_resolve
    (id : MessageId) (payload : Bytes) (connection : Connection app ω) :
    Spares
      { connection with
        pending := connection.pending.remove id
        stats := connection.stats.pairUp id connection.pending }
      (connection.resolve id payload) := by
  unfold resolve Stats.pairUp
  cases found : connection.pending.find id with
  | some entry =>
      exact spares_finish entry (.ok payload) _
  | none =>
      have absent := PendingTable.remove_of_not_mem (PendingTable.find_eq_none_iff.mp found)
      rw [absent]
      exact spares_emit (.unmatchedResponse id) connection

private theorem spares_dispatchNotification
    (notification : IncomingNotification) (connection : Connection app ω) :
    Spares
      { connection with
        stats := { connection.stats with
          incomingNotifications := connection.stats.incomingNotifications + 1 } }
      (connection.dispatchNotification notification) := by
  let counted := { connection with
    stats := { connection.stats with
      incomingNotifications := connection.stats.incomingNotifications + 1 } }
  unfold dispatchNotification
  cases connection.handlers.forNotification notification.method with
  | some react =>
      have recorded := spares_record (.notified notification) counted
      exact recorded.trans (spares_run (react notification) _)
  | none =>
      have told := spares_emit (.unhandledNotification notification.method) counted
      exact told

private theorem spares_dispatchRequest
    (request : IncomingRequest) (connection : Connection app ω) :
    Spares
      { connection with
        stats := { connection.stats with
          incomingRequests := connection.stats.incomingRequests + 1 } }
      (connection.dispatchRequest request) := by
  let counted := { connection with
    stats := { connection.stats with
      incomingRequests := connection.stats.incomingRequests + 1 } }
  have opened : Spares counted (counted.openTicket request).2 :=
    ⟨rfl, rfl, rfl, rfl, rfl, rfl⟩
  unfold dispatchRequest
  cases connection.handlers.forRequest request.method with
  | some react =>
      have recorded := opened.trans (spares_record (.asked request) _)
      have ran := recorded.trans (spares_run (react request connection.nextTicket) _)
      exact ran.trans (spares_releaseTicket connection.nextTicket _)
  | none =>
      have answered := spares_answer connection.nextTicket
        (.error (.methodNotFound request.method)) (counted.openTicket request).2
      exact opened.trans answered

private theorem spares_reportUndecodable
    (reason : Unrecognized) (payload : Bytes) (connection : Connection app ω) :
    Spares
      { connection with
        stats := { connection.stats with
          undecodablePayloads := connection.stats.undecodablePayloads + 1 } }
      (connection.reportUndecodable reason payload) := by
  have told := spares_emit (.undecodablePayload payload.length reason) connection
  unfold reportUndecodable
  cases connection.handlers.undecodable with
  | some react =>
      have recorded := told.trans (spares_record (.puzzled payload) _)
      exact recorded.trans (spares_run (react payload) _)
  | none =>
      exact told

theorem spares_route (connection : Connection app ω) (payload : Bytes) :
    Spares
      { connection with
        pending := connection.pending.without payload
        stats := connection.stats.tally payload connection.pending }
      (connection.route payload) := by
  unfold route PendingTable.without Stats.tally
  cases Incoming.classify payload with
  | response response =>
      exact spares_resolve response.id payload connection
  | notification message =>
      exact spares_dispatchNotification ⟨message.method, message.params, payload⟩ connection
  | request message =>
      exact spares_dispatchRequest ⟨message.id, message.method, message.params, payload⟩ connection
  | unrecognized reason =>
      exact spares_reportUndecodable reason payload connection

/-! ## Malformed headers in between -/

/-- Tells that header blocks are malformed. -/
def tell (faults : List Framing.HeaderFault) (connection : Connection app ω) :
    Connection app ω :=
  faults.foldl (fun told fault => told.emit (.malformedHeader fault)) connection

/-- Two connections differ at the most in what was told in between and what callbacks made of it:
the second has counted these faults and the first has not. -/
structure Apart (faults : List Framing.HeaderFault) (silent told : Connection app ω) : Prop where
  framer : told.framer = silent.framer
  pending : told.pending = silent.pending
  handlers : told.handlers = silent.handlers
  running : told.running = silent.running
  stats : told.stats =
    faults.foldl (fun counted fault => counted.count (.malformedHeader fault)) silent.stats

theorem apart_tell (faults : List Framing.HeaderFault) (connection : Connection app ω) :
    Apart faults connection (connection.tell faults) := by
  induction faults generalizing connection with
  | nil =>
      exact ⟨rfl, rfl, rfl, rfl, rfl⟩
  | cons fault rest inductionHypothesis =>
      have emitted := spares_emit (.malformedHeader fault) connection
      have later := inductionHypothesis (connection.emit (.malformedHeader fault))
      refine ⟨later.framer.trans emitted.framer, later.pending.trans emitted.pending,
        later.handlers.trans emitted.handlers, later.running.trans emitted.running,
        later.stats.trans ?_⟩
      rw [emitted.stats, List.foldl_cons]

private theorem tally_count_malformedHeader
    (payload : Bytes) (table : PendingTable app) (fault : Framing.HeaderFault) (stats : Stats) :
    (stats.count (.malformedHeader fault)).tally payload table =
      (stats.tally payload table).count (.malformedHeader fault) := by
  unfold Stats.tally
  cases Incoming.classify payload with
  | response response =>
      dsimp only [Stats.pairUp]
      cases table.find response.id <;> rfl
  | notification | request | unrecognized => rfl

private theorem tally_foldl_count
    (payload : Bytes) (table : PendingTable app) (faults : List Framing.HeaderFault)
    (stats : Stats) :
    (faults.foldl (fun counted fault => counted.count (.malformedHeader fault)) stats).tally
        payload table =
      faults.foldl (fun counted fault => counted.count (.malformedHeader fault))
        (stats.tally payload table) := by
  induction faults generalizing stats with
  | nil => rfl
  | cons fault rest inductionHypothesis =>
      rw [List.foldl_cons, inductionHypothesis, tally_count_malformedHeader, List.foldl_cons]

theorem Apart.route
    {faults : List Framing.HeaderFault} {silent told : Connection app ω}
    (apart : Apart faults silent told) (payload : Bytes) :
    Apart faults (silent.route payload) (told.route payload) := by
  have silently := spares_route silent payload
  have afterwards := spares_route told payload
  refine ⟨?_, ?_, ?_, ?_, ?_⟩
  · exact (afterwards.framer.trans apart.framer).trans silently.framer.symm
  · rw [afterwards.pending, silently.pending, apart.pending]
  · exact (afterwards.handlers.trans apart.handlers).trans silently.handlers.symm
  · exact (afterwards.running.trans apart.running).trans silently.running.symm
  · rw [afterwards.stats, silently.stats, apart.pending, apart.stats]
    exact tally_foldl_count payload silent.pending faults silent.stats

theorem Apart.foldl_route
    {faults : List Framing.HeaderFault} {silent told : Connection app ω}
    (apart : Apart faults silent told) (payloads : List Bytes) :
    Apart faults (payloads.foldl Connection.route silent)
      (payloads.foldl Connection.route told) := by
  induction payloads generalizing silent told with
  | nil => exact apart
  | cons payload rest inductionHypothesis => exact inductionHypothesis (apart.route payload)

end Connection

end RpcEndpoint
