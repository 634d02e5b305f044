import RpcEndpoint.Proofs.Framing.Batches
import RpcEndpoint.Proofs.Framing.RoundTrip
import RpcEndpoint.Proofs.Requests.Inbound

/-!
# Listening to a stream of frames

When the beginning of a stream of frames has come to a machine, in any chunks, the payloads of the
frames are routed in their order, and no malformed header is seen.
-/

namespace RpcEndpoint

open Framing

variable {app : Application} {ω : Type}

/-- The chunk that a command brings. -/
def Command.chunk? : Command app → Option Bytes
  | .received chunk => some chunk
  | _ => none

/-- The chunks that commands bring. -/
def chunksIn (commands : List (Command app)) : List Bytes :=
  commands.filterMap Command.chunk?

theorem chunksIn_append (left right : List (Command app)) :
    chunksIn (left ++ right) = chunksIn left ++ chunksIn right :=
  List.filterMap_append

/-- Commands without a reset complete what their chunks complete. -/
theorem extract_eq_pushAll
    {commands : List (Command app)} (unreset : .order .resetFramer ∉ commands)
    (decoder : Decoder) :
    extract decoder commands =
      ((Decoder.pushAll (chunksIn commands) decoder).1.payloads,
        (Decoder.pushAll (chunksIn commands) decoder).2) := by
  induction commands generalizing decoder with
  | nil =>
      rfl
  | cons command rest inductionHypothesis =>
      have restUnreset : .order .resetFramer ∉ rest :=
        fun isLater => unreset (List.mem_cons_of_mem command isLater)
      rw [extract, inductionHypothesis restUnreset]
      cases command with
      | received chunk =>
          rfl
      | order order =>
          cases order with
          | resetFramer =>
              exact absurd List.mem_cons_self unreset
          | _ =>
              rfl
      | _ =>
          rfl

/-- A job that the worker comes to when it is done with the jobs before it. -/
inductive Job.Later : Job app → Prop
  | route (payload : Bytes) : Later (.route payload)
  | sweep : Later .sweep

/-- Such jobs leave the decoder alone. -/
theorem decoder_upcoming
    {jobs : List (Job app)} (later : ∀ job ∈ jobs, job.Later) (decoder : Decoder) :
    (upcoming decoder jobs).2 = decoder := by
  induction jobs with
  | nil =>
      rfl
  | cons job rest inductionHypothesis =>
      have restLater := inductionHypothesis fun next isNext =>
        later next (List.mem_cons_of_mem job isNext)
      cases later job List.mem_cons_self with
      | route payload =>
          exact restLater
      | sweep =>
          exact restLater

/-- The beginning of a stream of frames completes the first payloads, and no malformed header stands
in its way. -/
theorem pushAll_prefix_encodeFrames
    {payloads chunks : List Bytes} (small : ∀ payload ∈ payloads, payload.length < 2 ^ 63)
    (received : chunks.flatten <+: encodeFrames payloads) :
    (Decoder.pushAll chunks .empty).1.payloads <+: payloads ∧
      (Decoder.pushAll chunks .empty).2.stalled = false ∧
      (chunks.flatten = encodeFrames payloads →
        (Decoder.pushAll chunks .empty).1.payloads = payloads) := by
  have emitted := emitted_unpack small received
  have pushed := Decoder.pushAll_eq_unpack Decoder.settled_empty chunks
  simp only [Decoder.empty, List.nil_append] at pushed
  rw [Decoder.empty, pushed]
  refine ⟨emitted.inOrder, Decoder.stalled_unpack rfl emitted.faultless, ?_⟩
  intro whole
  rw [whole] at emitted ⊢
  exact emitted.whole.1

/-- What has come to this machine is the beginning of a stream of frames with these payloads. -/
structure Hears (payloads : List Bytes) (machine : Machine app ω) : Prop where
  small : ∀ payload ∈ payloads, payload.length < 2 ^ 63
  stream : (chunksIn machine.entered).flatten <+: encodeFrames payloads
  unreset : .order .resetFramer ∉ machine.entered
  taken : machine.entered = machine.taken ++ machine.connection.inbox
  inbound : Inbound machine

namespace Hears

variable {payloads : List Bytes} {machine : Machine app ω}

private theorem extract_taken (hears : Hears payloads machine) :
    extract .empty machine.taken =
      ((Decoder.pushAll (chunksIn machine.taken) .empty).1.payloads,
        (Decoder.pushAll (chunksIn machine.taken) .empty).2) := by
  refine extract_eq_pushAll (fun isTaken => hears.unreset ?_) .empty
  rw [hears.taken]
  exact List.mem_append_left _ isTaken

/-- What the worker has taken is the beginning of the stream, too. -/
private theorem received (hears : Hears payloads machine) :
    (chunksIn machine.taken).flatten <+: encodeFrames payloads := by
  refine List.IsPrefix.trans ?_ hears.stream
  rw [hears.taken, chunksIn_append, List.flatten_append]
  exact List.prefix_append _ _

/-- What was routed and what is about to be are the first payloads of the stream. -/
theorem routed_prefix (hears : Hears payloads machine) :
    routedIn machine.history ++
      (upcoming machine.connection.framer.decoder machine.agenda).1 <+: payloads := by
  have inbound : extract .empty machine.taken = _ := hears.inbound
  rw [hears.extract_taken] at inbound
  rw [← (Prod.mk.inj inbound).1]
  exact (pushAll_prefix_encodeFrames hears.small hears.received).1

/-- The next payload to be routed is the next one of the stream. -/
theorem route_prefix
    (hears : Hears payloads machine) {payload : Bytes} {rest : List (Job app)}
    (agenda : machine.agenda = .route payload :: rest) :
    routedIn machine.history ++ [payload] <+: payloads := by
  have routed := hears.routed_prefix
  rw [agenda, upcoming, Job.feed] at routed
  refine List.IsPrefix.trans ?_ routed
  exact (List.prefix_append_right_inj _).mpr (List.prefix_append [payload] _)

/-- The chunk that is taken apart next has no malformed header. -/
theorem fault_eq_none
    (hears : Hears payloads machine) {chunk : Bytes} {rest : List (Job app)}
    (agenda : machine.agenda = .carryOut (.received chunk) :: rest)
    (later : ∀ job ∈ rest, job.Later) :
    (machine.connection.framer.decoder.push chunk).1.fault = none := by
  have inbound : extract .empty machine.taken = _ := hears.inbound
  rw [hears.extract_taken, agenda, upcoming] at inbound
  have decoder : (Decoder.pushAll (chunksIn machine.taken) .empty).2 =
      (machine.connection.framer.decoder.push chunk).2 :=
    (Prod.mk.inj inbound).2.trans (decoder_upcoming later _)
  have notStalled := (pushAll_prefix_encodeFrames hears.small hears.received).2.1
  rw [decoder] at notStalled
  refine Option.eq_none_iff_forall_ne_some.mpr fun fault reported => ?_
  exact Bool.false_ne_true (notStalled.symm.trans (Decoder.stalled_push reported))

/-- When the whole stream has arrived and nothing waits, all payloads were routed. -/
theorem routedIn_eq
    (hears : Hears payloads machine) (idle : machine.agenda = [])
    (empty : machine.connection.inbox = [])
    (arrived : (chunksIn machine.entered).flatten = encodeFrames payloads) :
    routedIn machine.history = payloads := by
  have allTaken : machine.entered = machine.taken := by
    rw [hears.taken, empty, List.append_nil]
  have whole := (pushAll_prefix_encodeFrames hears.small hears.stream).2.2 arrived
  rw [hears.inbound.routedIn_eq idle, hears.extract_taken, ← allTaken]
  exact whole

end Hears

end RpcEndpoint
