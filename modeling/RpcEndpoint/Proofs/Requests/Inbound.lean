import RpcEndpoint.Proofs.Schedule.Stroke

/-!
# Payloads from the inbound stream

The payloads that were routed are those that the commands of the worker complete, in their order:
what a decoder makes of the chunks and of the resets among them.
-/

namespace RpcEndpoint

open Connection

variable {app : Application} {ω : Type}

/-- The payload that was routed with a deed. -/
def Deed.payload? : Deed app → Option Bytes
  | .routed payload _ => some payload
  | .sent _ | .completed _ _ => none

/-- The payloads that were routed, in their order. -/
def routedIn (deeds : List (Deed app)) : List Bytes :=
  deeds.filterMap Deed.payload?

/-- The payloads that commands complete, and the decoder behind them. -/
def extract (decoder : Framing.Decoder) : List (Command app) → List Bytes × Framing.Decoder
  | [] => ([], decoder)
  | command :: rest =>
    let fed := command.feed decoder
    let later := extract fed.2 rest
    (fed.1 ++ later.1, later.2)

theorem extract_append
    (decoder : Framing.Decoder) (left right : List (Command app)) :
    extract decoder (left ++ right) =
      ((extract decoder left).1 ++ (extract (extract decoder left).2 right).1,
        (extract (extract decoder left).2 right).2) := by
  induction left generalizing decoder with
  | nil =>
      rfl
  | cons command rest inductionHypothesis =>
      simp only [List.cons_append, extract, inductionHypothesis, List.append_assoc]

/-- The payloads that jobs are about to route, and the decoder behind them. -/
def upcoming (decoder : Framing.Decoder) : List (Job app) → List Bytes × Framing.Decoder
  | [] => ([], decoder)
  | job :: rest =>
    let fed := job.feed decoder
    let later := upcoming fed.2 rest
    (fed.1 ++ later.1, later.2)

theorem upcoming_append
    (decoder : Framing.Decoder) (left right : List (Job app)) :
    upcoming decoder (left ++ right) =
      ((upcoming decoder left).1 ++ (upcoming (upcoming decoder left).2 right).1,
        (upcoming (upcoming decoder left).2 right).2) := by
  induction left generalizing decoder with
  | nil =>
      rfl
  | cons job rest inductionHypothesis =>
      simp only [List.cons_append, upcoming, inductionHypothesis, List.append_assoc]

/-- Jobs that complete no payload leave the decoder alone. -/
theorem upcoming_of_quiet
    {decoder : Framing.Decoder} {jobs : List (Job app)}
    (quiet : ∀ job ∈ jobs, job.feed decoder = ([], decoder)) :
    upcoming decoder jobs = ([], decoder) := by
  induction jobs with
  | nil =>
      rfl
  | cons job rest inductionHypothesis =>
      rw [upcoming, quiet job List.mem_cons_self,
        inductionHypothesis fun next isNext => quiet next (List.mem_cons_of_mem job isNext)]
      rfl

theorem upcoming_route (decoder : Framing.Decoder) (payloads : List Bytes) :
    upcoming decoder (payloads.map (.route : Bytes → Job app)) = (payloads, decoder) := by
  induction payloads with
  | nil =>
      rfl
  | cons payload rest inductionHypothesis =>
      rw [List.map_cons, upcoming, Job.feed, inductionHypothesis]
      rfl

theorem Job.Light.feed_eq
    {job : Job app} (light : job.Light) (decoder : Framing.Decoder) :
    job.feed decoder = ([], decoder) := by
  cases light <;> rfl

theorem Job.Fails.feed_eq
    {job : Job app} (fails : job.Fails) (decoder : Framing.Decoder) :
    job.feed decoder = ([], decoder) := by
  cases fails <;> rfl

/-- A move routes the payload of its job, or leaves what its job completes to other jobs. -/
theorem Move.feed
    {before : Connection app ω} {progress : Progress app ω} {job : Job app}
    (move : Move before progress job) :
    job.feed before.framer.decoder =
      (routedIn progress.deeds ++
          (upcoming progress.connection.framer.decoder progress.jobs).1,
        (upcoming progress.connection.framer.decoder progress.jobs).2) := by
  have quietly {jobs : List (Job app)} (light : ∀ next ∈ jobs, next.Light) :
      upcoming before.framer.decoder jobs = ([], before.framer.decoder) :=
    upcoming_of_quiet fun next isNext => (light next isNext).feed_eq _
  cases move with
  | light isLight lightly deeds =>
      rw [isLight.feed_eq, lightly.sends.decoder, quietly lightly.jobs, deeds]
      rfl
  | fed lights other goesOn jobs areLight sends deeds =>
      rw [sends.decoder, jobs, deeds, upcoming_append,
        upcoming_of_quiet fun next isNext => (areLight next isNext).feed_eq _, upcoming_route]
      rfl
  | rejected failure isProgress =>
      subst isProgress
      rfl
  | admitted isProgress =>
      subst isProgress
      rfl
  | entered entry promise jobs sends deeds =>
      rw [sends.decoder, jobs, deeds]
      rfl
  | sent jobs sends deeds =>
      rw [sends.decoder, jobs, deeds]
      rfl
  | withdrawn entries kept unconcerned noPayload parted jobs promises stops nothingKept unwritten
      sends deeds =>
      have quiet : upcoming before.framer.decoder progress.jobs = ([], before.framer.decoder) := by
        refine upcoming_of_quiet fun next isNext => ?_
        rcases jobs next isNext with light | fails | rfl
        · exact light.feed_eq _
        · exact fails.feed_eq _
        · rfl
      rw [noPayload, sends.decoder, quiet, deeds]
      rfl
  | passed unanswered lightly deeds =>
      rw [lightly.sends.decoder, quietly lightly.jobs, deeds]
      rfl
  | answered entry answers found jobs sends deeds =>
      rw [sends.decoder, jobs, deeds]
      rfl
  | late isProgress =>
      subst isProgress
      rfl
  | finished jobs sends deeds =>
      rw [sends.decoder, jobs, deeds]
      rfl
  | delivered lightly deeds =>
      have sameDecoder : progress.connection.framer.decoder = before.framer.decoder :=
        lightly.sends.decoder
      rw [sameDecoder, quietly lightly.jobs, deeds]
      rfl
  | halted isProgress =>
      subst isProgress
      rw [(sends_halt before).decoder]
      rfl

/-- What the commands of the worker complete was routed, or is about to be. -/
def Inbound (machine : Machine app ω) : Prop :=
  let coming := upcoming machine.connection.framer.decoder machine.agenda
  extract .empty machine.taken = (routedIn machine.history ++ coming.1, coming.2)

namespace Inbound

theorem start (wire : ω) (memory : app.Memory) (defaultTimeout : Option Duration) :
    Inbound (Machine.start wire memory defaultTimeout) :=
  rfl

private theorem worked
    {machine : Machine app ω} (inbound : Inbound machine)
    {job : Job app} {rest : List (Job app)} {progress : Progress app ω}
    (agenda : machine.agenda = job :: rest)
    (move : Move machine.connection progress job) :
    Inbound (machine.absorb rest progress) := by
  have extracted : extract .empty machine.taken = _ := inbound
  rw [agenda, upcoming, move.feed] at extracted
  change extract .empty machine.taken =
    (routedIn (machine.history ++ progress.deeds) ++
        (upcoming progress.connection.framer.decoder (progress.jobs ++ rest)).1,
      (upcoming progress.connection.framer.decoder (progress.jobs ++ rest)).2)
  rw [extracted, upcoming_append, routedIn, routedIn, routedIn, List.filterMap_append]
  simp only [List.append_assoc]

theorem stroke [Wire ω]
    {before after : Machine app ω} (inbound : Inbound before)
    (distinct : before.connection.pending.Distinct) (stroke : Stroke before after) :
    Inbound after := by
  cases stroke with
  | @taken command rest agenda isRunning inbox =>
      have extracted : extract .empty before.taken = _ := inbound
      rw [agenda] at extracted
      change extract .empty (before.taken ++ [command]) = _
      rw [extract_append, extracted]
      simp [upcoming, extract, Job.feed]
  | woken agenda isRunning =>
      have extracted : extract .empty before.taken = _ := inbound
      rw [agenda] at extracted
      exact extracted
  | worked agenda =>
      exact inbound.worked agenda (Job.move _ _ _ distinct)
  | reordered agenda =>
      have extracted : extract .empty before.taken = _ := inbound
      rw [agenda] at extracted
      exact extracted
  | @sent accepted later flying sends =>
      have extracted : extract .empty before.taken = _ := inbound
      change extract .empty before.taken =
        (routedIn (before.history ++ []) ++
            (upcoming later.framer.decoder before.agenda).1,
          (upcoming later.framer.decoder before.agenda).2)
      rw [List.append_nil, sends.decoder]
      exact extracted
  | still now =>
      exact inbound

/-- Between two commands, the payloads that were routed are those that the stream has brought. -/
theorem routedIn_eq
    {machine : Machine app ω} (inbound : Inbound machine) (idle : machine.agenda = []) :
    routedIn machine.history = (extract .empty machine.taken).1 := by
  have extracted : extract .empty machine.taken = _ := inbound
  rw [idle] at extracted
  rw [extracted]
  exact (List.append_nil _).symm

end Inbound

end RpcEndpoint
