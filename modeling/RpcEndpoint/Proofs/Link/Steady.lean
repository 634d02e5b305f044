import RpcEndpoint.Proofs.Link.Listening
import RpcEndpoint.Proofs.Replies.Balance
import RpcEndpoint.Wire.Memory

/-!
# Machines without incident

As long as the wire accepts everything and nobody closes the connection, no message is dropped:
`Steadily` says that the frames on the wire, and those to come, are those of the commands that the
worker has taken.
-/

namespace RpcEndpoint

open Connection
open Json (Value)

variable {app : Application} {ρ : Type}

namespace Connection

/-- An open connection over a wire that accepts everything and echoes nothing. Nothing that it has
counted went wrong. -/
structure Steady (connection : Connection app (MemoryWire ρ)) : Prop where
  running : connection.running = true
  unclosed : connection.closed = none
  unlimited : connection.defaultTimeout = none
  accepting : connection.framer.wire.refusal = none
  mute : connection.framer.wire.echoes = false
  quiet : connection.framer.wire.arrived = []
  allMatched : connection.stats.unmatchedResponses = 0
  allDecoded : connection.stats.undecodablePayloads = 0
  wellFormed : connection.stats.malformedHeaders = 0

/-- A connection whose wire has accepted one more frame. -/
def passOn (frame : Bytes) (connection : Connection app (MemoryWire ρ)) :
    Connection app (MemoryWire ρ) :=
  { connection with
    framer := { connection.framer with
      wire := { connection.framer.wire with
        writes := connection.framer.wire.writes ++ [frame] } }
    log := connection.log ++ [.wrote frame] }

namespace Steady

variable {connection : Connection app (MemoryWire ρ)}

theorem transmit_eq (steady : connection.Steady) (payload : Bytes) :
    connection.transmit payload = (.ok (), connection.passOn (Framing.encodeFrame payload)) := by
  unfold transmit Framing.Framer.write takeArrivals Wire.write Wire.collect
  simp only [MemoryWire.instWire, MemoryWire.write, MemoryWire.collect, steady.accepting,
    steady.mute, record, steady.quiet]
  simp [passOn, steady.quiet, steady.accepting, steady.mute]

theorem passOn (steady : connection.Steady) (frame : Bytes) :
    (connection.passOn frame).Steady :=
  { steady with }

theorem enqueue_eq (steady : connection.Steady) (command : Command app) :
    connection.enqueue command = { connection with inbox := connection.inbox ++ [command] } :=
  if_pos steady.running

/-- As long as the connection is open, only a triggered token keeps a request back. -/
theorem refusal?_eq_none (steady : connection.Steady) :
    connection.refusal? .none = none := by
  unfold refusal?
  rw [steady.unclosed]
  rfl

/-- A request that is sent comes to the inbox under the next number. -/
theorem request_eq
    (steady : connection.Steady) (method : String) (params : Option Value) (options : Options)
    (sink : Sink app) :
    ∃ mailboxes, connection.request method (.ok params) options sink =
      (.ok (numberedId connection.nextNumber),
        { connection with
          inbox := connection.inbox ++
            [.request (.new (numberedId connection.nextNumber) method params) options sink]
          nextNumber := connection.nextNumber + 1
          mailboxes }) := by
  rw [request]
  simp only [if_pos steady.running, steady.enqueue_eq]
  cases sink with
  | mailbox schema =>
      exact ⟨_, rfl⟩
  | callback react =>
      exact ⟨connection.mailboxes, rfl⟩

end Steady

/-- An outcome only changes mailboxes. -/
theorem fillMailbox_eq
    {ω : Type} (id : MessageId) (outcome : Except Failure Value) (connection : Connection app ω) :
    ∃ mailboxes, connection.fillMailbox id outcome = { connection with mailboxes } := by
  unfold fillMailbox
  split
  · exact ⟨_, rfl⟩
  · exact ⟨connection.mailboxes, rfl⟩

/-- Without a malformed header, a chunk only leads to its payloads. -/
theorem split_eq
    {ω : Type} {connection : Connection app ω} {chunk : Bytes}
    (faultless : (connection.framer.decoder.push chunk).1.fault = none) :
    connection.split chunk =
      { jobs := (connection.framer.decoder.push chunk).1.payloads.map .route
        connection := { connection with
          framer := { connection.framer with
            decoder := (connection.framer.decoder.push chunk).2 } } } := by
  unfold split
  rcases pushed : connection.framer.decoder.push chunk with ⟨batch, decoder⟩
  rw [pushed] at faultless
  have noFault : batch.fault = none := faultless
  simp only [noFault, Option.toList_none, List.map_nil, List.nil_append]

/-- No request without a deadline runs out of time. -/
theorem sweep_eq
    {ω : Type} [Wire ω] {connection : Connection app ω}
    (patient : ∀ entry ∈ connection.pending, entry.deadline = none) (now : Instant) :
    Job.sweep.step now connection = { jobs := [], connection } := by
  have noneDue : connection.pending.due now = [] := by
    have nothing : connection.pending.filter (·.isDue now) = [] := by
      refine List.filter_eq_nil_iff.mpr fun entry isPending => ?_
      rw [PendingRequest.isDue, patient entry isPending]
      exact Bool.false_ne_true
    rw [PendingTable.due, nothing]
    exact List.mergeSort_nil
  rw [Job.step, sweep, noneDue]
  exact ite_self _

/-- Nothing to write comes of payloads. -/
theorem outgoingOf_route (payloads : List Bytes) :
    outgoingOf (payloads.map (.route : Bytes → Job app)) = [] := by
  refine List.filterMap_eq_nil_iff.mpr fun job isJob => ?_
  obtain ⟨payload, -, rfl⟩ := List.mem_map.mp isJob
  rfl

theorem later_sweep : ∀ job ∈ [(.sweep : Job app)], job.Later := by
  intro job isSweep
  rw [List.mem_singleton.mp isSweep]
  exact .sweep

theorem later_route {payloads : List Bytes} {rest : List (Job app)}
    (later : ∀ job ∈ rest, job.Later) : ∀ job ∈ payloads.map .route ++ rest, job.Later := by
  intro job isJob
  rcases List.mem_append.mp isJob with isPayload | isRest
  · obtain ⟨payload, -, rfl⟩ := List.mem_map.mp isPayload
    exact .route payload
  · exact later job isRest

end Connection

/-- What the worker does next by itself, or a clock that moves on. -/
inductive Stride where
  | take
  | wake
  | work
  | pass (instant : Instant)

def Stride.choice {ω : Type} : Stride → Choice app ω
  | .take => .take
  | .wake => .wake
  | .work => .work
  | .pass instant => .pass instant

/-! ## Callbacks in place -/

/-- A machine over a fresh connection with these callbacks. -/
def Machine.equipped {ω : Type} (wire : ω) (memory : app.Memory) (handlers : Handlers app) :
    Machine app ω :=
  let fresh := start wire memory none
  { fresh with connection := { fresh.connection with handlers } }

/-- A callback is registered between two commands. -/
def Registration.turn {ω : Type} (registration : Registration app) : List (Choice app ω) :=
  [.act (.order (.register registration)), .take, .work, .work]

/-- A machine between two commands, without anything to do. -/
structure Machine.Resting {ω : Type} (machine : Machine app ω) : Prop where
  running : machine.connection.running = true
  idle : machine.agenda = []
  noCommands : machine.connection.inbox = []
  noRequests : machine.connection.pending = []

namespace Machine.Resting

variable {ω : Type} [Wire ω] {machine : Machine app ω}

private theorem turn (resting : machine.Resting) (registration : Registration app) :
    (machine.run registration.turn).Resting ∧ (machine.run registration.turn).connection =
      { machine.connection with
        handlers := machine.connection.handlers.register registration } := by
  obtain ⟨isRunning, idle, noCommands, noRequests⟩ := resting
  have swept (connection : Connection app ω) (noRequests : connection.pending = [])
      (now : Instant) : Job.sweep.step now connection = { jobs := [], connection } := by
    refine sweep_eq (fun entry isPending => ?_) now
    rw [noRequests] at isPending
    contradiction
  obtain ⟨connection, agenda, flying, now, entered, taken, accepted, history⟩ := machine
  dsimp only at isRunning idle noCommands noRequests
  simp only [Machine.run, Registration.turn, List.foldl_cons, List.foldl_nil, Machine.next,
    Act.apply, enqueue, isRunning, noCommands, idle, Machine.absorb, if_true, List.nil_append,
    Job.step.eq_1, begin, heed]
  rw [swept]
  · exact ⟨⟨rfl, rfl, rfl, noRequests⟩, rfl⟩
  · exact noRequests

/-- Registering changes nothing but the callbacks. -/
theorem run_registrations
    (resting : machine.Resting) (registrations : List (Registration app)) :
    (machine.run (registrations.flatMap Registration.turn)).connection =
      { machine.connection with
        handlers := registrations.foldl Handlers.register machine.connection.handlers } := by
  induction registrations generalizing machine with
  | nil => rfl
  | cons registration later inductionHypothesis =>
      obtain ⟨stillResting, registered⟩ := resting.turn registration
      rw [List.flatMap_cons, Machine.run, List.foldl_append]
      refine (inductionHypothesis stillResting).trans ?_
      rw [registered]
      rfl

end Machine.Resting

/-- The connection of an equipped machine is a fresh one on which the callbacks have been
registered. -/
theorem Machine.connection_equipped
    {ω : Type} [Wire ω] (wire : ω) (memory : app.Memory) (registrations : List (Registration app)) :
    ((Machine.start wire memory none).run (registrations.flatMap Registration.turn)).connection =
      (Machine.equipped wire memory (registrations.foldl Handlers.register .empty)).connection :=
  Machine.Resting.run_registrations ⟨rfl, rfl, rfl, rfl⟩ registrations

/-! ## Nothing gets lost -/

/-- The frames on the wire and those of the agenda are the messages of the commands that were
taken, and the connection is steady. -/
structure Steadily (machine : Machine app (MemoryWire ρ)) : Prop where
  steady : machine.connection.Steady
  frames :
    machine.connection.framer.wire.writes ++ (outgoingOf machine.agenda).map Outgoing.frame =
      (messagesIn machine.taken).map Outgoing.frame

/-- A machine has gone on: it has taken back nothing that it has written, and these chunks have come
to it. -/
structure GoesOn (chunks : List Bytes) (before after : Machine app (MemoryWire ρ)) : Prop where
  writes : before.connection.framer.wire.writes <+: after.connection.framer.wire.writes
  chunks : chunksIn after.entered = chunksIn before.entered ++ chunks

theorem GoesOn.still
    {before after : Machine app (MemoryWire ρ)}
    (writes : after.connection.framer.wire.writes = before.connection.framer.wire.writes)
    (entered : after.entered = before.entered) : GoesOn [] before after := by
  refine ⟨writes ▸ List.prefix_rfl, ?_⟩
  rw [entered, List.append_nil]

theorem goesOn_absorb
    {machine : Machine app (MemoryWire ρ)} {progress : Progress app (MemoryWire ρ)}
    {commands : List (Command app)}
    (inbox : progress.connection.inbox = machine.connection.inbox ++ commands)
    (writes : machine.connection.framer.wire.writes <+:
      progress.connection.framer.wire.writes)
    (rest : List (Job app)) :
    GoesOn (chunksIn commands) machine (machine.absorb rest progress) := by
  refine ⟨writes, ?_⟩
  rw [Machine.absorb, inbox, List.drop_left]
  exact chunksIn_append _ _

namespace Steadily

variable {machine : Machine app (MemoryWire ρ)}

theorem equipped (memory : app.Memory) (handlers : Handlers app) :
    Steadily (Machine.equipped (.new : MemoryWire ρ) memory handlers) :=
  ⟨⟨rfl, rfl, rfl, rfl, rfl, rfl, rfl, rfl, rfl⟩, rfl⟩

/-- What takes the place of the first jobs has their frames written, or leaves them to be. -/
theorem absorb
    (steadily : Steadily machine) {first rest : List (Job app)}
    (agenda : machine.agenda = first ++ rest) {progress : Progress app (MemoryWire ρ)}
    (steady : progress.connection.Steady)
    (frames :
      progress.connection.framer.wire.writes ++
          (outgoingOf progress.jobs).map Outgoing.frame =
        machine.connection.framer.wire.writes ++ (outgoingOf first).map Outgoing.frame) :
    Steadily (machine.absorb rest progress) := by
  have before := steadily.frames
  refine ⟨steady, ?_⟩
  change progress.connection.framer.wire.writes ++
      (outgoingOf (progress.jobs ++ rest)).map Outgoing.frame =
    (messagesIn machine.taken).map Outgoing.frame
  rw [agenda] at before
  simp only [outgoingOf, List.filterMap_append, List.map_append, ← List.append_assoc]
    at before frames ⊢
  rw [frames]
  exact before

theorem taken
    (steadily : Steadily machine) (idle : machine.agenda = [])
    {command : Command app} (rest : List (Command app)) :
    Steadily
      { machine with
        connection := { machine.connection with inbox := rest }
        agenda := [.carryOut command, .sweep]
        taken := machine.taken ++ [command] } := by
  have before := steadily.frames
  refine ⟨{ steadily.steady with }, ?_⟩
  rw [idle] at before
  have allWritten : machine.connection.framer.wire.writes =
      (messagesIn machine.taken).map Outgoing.frame :=
    (List.append_nil _).symm.trans before
  change machine.connection.framer.wire.writes ++
      (outgoingOf [.carryOut command, .sweep]).map Outgoing.frame =
    (messagesIn (machine.taken ++ [command])).map Outgoing.frame
  rw [allWritten, messagesIn, messagesIn, List.filterMap_append, List.map_append]
  cases command <;> rfl

theorem woken (steadily : Steadily machine) (idle : machine.agenda = []) :
    Steadily { machine with agenda := [.sweep] } := by
  have before := steadily.frames
  rw [idle] at before
  exact ⟨steadily.steady, before⟩

end Steadily

end RpcEndpoint
