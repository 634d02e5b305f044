import RpcEndpoint.Proofs.Framing.RoundTrip
import RpcEndpoint.Proofs.Replies.Answered
import RpcEndpoint.Proofs.Writes.Verdicts

/-!
# What is on the wire

A wire in memory holds the frames of the messages whose writes it has accepted, whole and in the
order in which their commands came to the inbox, and a fresh decoder takes them apart again.
-/

namespace RpcEndpoint

open Connection Framing

variable {app : Application} {ρ : Type}

/-- The writes that a wire in memory has recorded. -/
def MemoryWire.record : View (MemoryWire ρ) (List Bytes) where
  see := MemoryWire.writes
  add := fun writes frame => writes ++ [frame]
  collects := fun _ => rfl
  writes := by
    intro frame wire
    change (wire.write frame).2.writes =
      match (wire.write frame).1 with
      | .ok () => wire.writes ++ [frame]
      | .error _ => wire.writes
    unfold MemoryWire.write
    cases wire.refusal <;> rfl

private theorem encodeFrames_payloads (messages : List Outgoing) :
    (messages.map Outgoing.frame).flatten = encodeFrames (messages.map Outgoing.payload) := by
  induction messages with
  | nil =>
      rfl
  | cons message rest inductionHypothesis =>
      rw [List.map_cons, List.flatten_cons, List.map_cons, encodeFrames_cons, message.frame_eq,
        inductionHypothesis]

/-- A fresh decoder takes the frames of small payloads apart, however they are cut. -/
private theorem pushAll_encodeFrames
    {payloads chunks : List Bytes} (small : ∀ payload ∈ payloads, payload.length < 2 ^ 63)
    (whole : chunks.flatten = encodeFrames payloads) :
    let pushed := Decoder.pushAll chunks .empty
    pushed.1.payloads = payloads ∧ pushed.1.faults = [] ∧ pushed.2.buffer.toList = [] := by
  have pushed := Decoder.pushAll_eq_unpack Decoder.settled_empty chunks
  have emitted := emitted_unpack small (List.prefix_refl (encodeFrames payloads))
  obtain ⟨all, nothingWaits⟩ := emitted.whole
  simp only [Decoder.empty, List.nil_append, whole] at pushed
  simp only [Decoder.empty, pushed]
  refine ⟨all, ?_, nothingWaits⟩
  rw [emitted.faultless]
  rfl

private theorem foldl_record (frames writes : List Bytes) :
    frames.foldl (MemoryWire.record (ρ := ρ)).add writes = writes ++ frames := by
  induction frames generalizing writes with
  | nil =>
      exact (List.append_nil writes).symm
  | cons frame rest inductionHypothesis =>
      rw [List.foldl_cons, inductionHypothesis]
      exact List.append_assoc writes [frame] rest

/-- Whatever other threads, callbacks and handlers do, and whenever the wire refuses writes: cut in
any way, the bytes on the wire give a fresh decoder the messages that were accepted, in their JSON
form, no fault, and no byte that waits. Each message that the worker has come to has its verdict, in
the order in which the commands came to the inbox, and the two counts tell how many requests and
notifications were accepted. The payloads must be smaller than `2 ^ 63` bytes. -/
theorem wire_holds_accepted_messages
    (wire : MemoryWire ρ) (memory : app.Memory) (defaultTimeout : Option Duration)
    (schedule : List (Choice app (MemoryWire ρ)))
    (fresh : wire.writes = [])
    (unseen : ∀ choice ∈ schedule, choice.Unseen MemoryWire.record)
    (small : ∀ message ∈ acceptedAmong
        ((Machine.start wire memory defaultTimeout : Machine app _).verdicts schedule),
      message.payload.length < 2 ^ 63) :
    let start : Machine app (MemoryWire ρ) := .start wire memory defaultTimeout
    let reached := start.run schedule
    let verdicts := start.verdicts schedule
    let messages := acceptedAmong verdicts
    (∀ chunks : List Bytes, chunks.flatten = reached.connection.framer.wire.written →
      let pushed := Decoder.pushAll chunks .empty
      pushed.1.payloads = messages.map Outgoing.payload ∧ pushed.1.faults = [] ∧
        pushed.2.buffer.toList = []) ∧
      reached.connection.framer.wire.writes = messages.map Outgoing.frame ∧
      verdicts.map (·.message) ++ outgoingOf reached.agenda = messagesIn reached.taken ∧
      reached.taken <+: reached.entered ∧
      (requestsAmong messages).length = reached.connection.stats.requestsSent ∧
      (notificationsAmong messages).length = reached.connection.stats.notificationsSent := by
  intro start reached verdicts messages
  have judged := judged_run MemoryWire.record wire memory defaultTimeout schedule unseen
  have output : reached.connection.output MemoryWire.record =
      messages.foldl (Output.add MemoryWire.record) ⟨[], 0, 0, wire.writes⟩ := judged.output
  have writes : reached.connection.framer.wire.writes = messages.map Outgoing.frame := by
    have seen := congrArg Output.wire output
    rw [Output.wire_foldl, foldl_record] at seen
    rw [fresh, List.nil_append] at seen
    exact seen
  refine ⟨?_, writes, judged.messages, ?_, ?_, ?_⟩
  · intro chunks isWritten
    refine pushAll_encodeFrames ?_ ?_
    · intro payload isPayload
      obtain ⟨message, isMessage, rfl⟩ := List.mem_map.mp isPayload
      exact small message isMessage
    · rw [isWritten, MemoryWire.written, writes, encodeFrames_payloads]
  · exact ((Balanced.start wire memory defaultTimeout).run schedule).taken
  · have counted := congrArg Output.requestsSent output
    rw [Output.requestsSent_foldl, Nat.zero_add] at counted
    exact counted.symm
  · have counted := congrArg Output.notificationsSent output
    rw [Output.notificationsSent_foldl, Nat.zero_add] at counted
    exact counted.symm

/-- A request goes out. A notification meets a wire that refuses, and a request of the peer is
answered when the wire accepts again. At last the connection is closed, and a notification is not
even offered. -/
def acceptedAndRefused : List (Choice bare (MemoryWire Unit)) :=
  .act (.request "ask" (.ok none) .none (.callback fun _ => .done)) :: workOff ++
    .act (.disturb (MemoryWire.setRefusal (some .closed))) ::
    .act (.notify "lost" (.ok none)) :: workOff ++
    .act (.disturb (MemoryWire.setRefusal none)) ::
    .act (.arrive (.chunk (requestOf "1" "other"))) :: workOff ++
    .act (.order (.close .unavailable)) ::
    .act (.notify "late" (.ok none)) :: workOff

/-- The machine before that schedule. -/
def unused : Machine bare (MemoryWire Unit) :=
  .start .new () none

/-- Two of the four messages were accepted, a request and a reply. -/
theorem refused_messages_are_not_on_wire :
    (unused.verdicts acceptedAndRefused).length = 4 ∧
      (acceptedAmong (unused.verdicts acceptedAndRefused)).length = 2 ∧
      (unused.run acceptedAndRefused).connection.stats.requestsSent = 1 ∧
      (unused.run acceptedAndRefused).connection.stats.notificationsSent = 0 ∧
      (Decoder.pushAll [(unused.run acceptedAndRefused).connection.framer.wire.written]
          .empty).1.payloads =
        (acceptedAmong (unused.verdicts acceptedAndRefused)).map Outgoing.payload := by
  have counts : (unused.verdicts acceptedAndRefused).length = 4 ∧
      (acceptedAmong (unused.verdicts acceptedAndRefused)).length = 2 ∧
      (requestsAmong (acceptedAmong (unused.verdicts acceptedAndRefused))).length = 1 ∧
      (notificationsAmong (acceptedAmong (unused.verdicts acceptedAndRefused))).length = 0 := by
    decide +kernel
  have small : ∀ message ∈ acceptedAmong (unused.verdicts acceptedAndRefused),
      message.payload.length < 2 ^ 63 := by
    decide +kernel
  have unseen : ∀ choice ∈ acceptedAndRefused, choice.Unseen MemoryWire.record := by
    have working : ∀ choice ∈ workOff, choice.Unseen MemoryWire.record := by
      intro choice isChoice
      obtain ⟨round, isRound, isStep⟩ := List.mem_flatten.mp isChoice
      rw [(List.mem_replicate.mp isRound).2, List.mem_cons] at isStep
      rcases isStep with rfl | isWork
      · trivial
      · rw [(List.mem_replicate.mp isWork).2]
        trivial
    simp only [acceptedAndRefused, List.forall_mem_append, List.forall_mem_cons]
    exact ⟨⟨⟨⟨trivial, working⟩, fun _ => rfl, trivial, working⟩, fun _ => rfl, trivial, working⟩,
      trivial, trivial, working⟩
  obtain ⟨inAll, accepted, isRequest, noNotification⟩ := counts
  unfold unused at small inAll accepted isRequest noNotification ⊢
  have held := wire_holds_accepted_messages
    (MemoryWire.new : MemoryWire Unit) (() : bare.Memory) none acceptedAndRefused rfl unseen
  obtain ⟨decoded, -, -, -, requests, notifications⟩ := held small
  refine ⟨inAll, accepted, requests.symm.trans isRequest,
    notifications.symm.trans noNotification, ?_⟩
  obtain ⟨payloads, -, -⟩ := decoded [_] (List.append_nil _)
  exact payloads

end RpcEndpoint
