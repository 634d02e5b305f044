import Mathlib.Logic.Relation
import RpcEndpoint.Proofs.Requests.Delivery
import RpcEndpoint.Proofs.Requests.Shutdown

/-!
# Machines that strokes lead to

Whether a machine runs on its own or beside others, it only sees strokes. What is known of requests
holds of every machine that strokes lead to from a fresh one (`Sound`), as long as the identifiers
last.
-/

namespace RpcEndpoint

open Connection

variable {app : Application} {ω : Type}

namespace Machine

variable [Wire ω]

/-- A machine comes from another by strokes. -/
abbrev Leads (before after : Machine app ω) : Prop :=
  Relation.ReflTransGen Stroke before after

theorem leads_run (machine : Machine app ω) (schedule : List (Choice app ω)) :
    machine.Leads (machine.run schedule) :=
  run_induction machine.Leads schedule .refl fun _ _ led stroke => led.tail stroke

/-- A change that no request depends on. -/
theorem leads_quiet
    (machine : Machine app ω) {after : Connection app ω}
    (sends : Sends [] machine.connection after)
    (inbox : after.inbox = machine.connection.inbox) :
    machine.Leads { machine with connection := after } := by
  have stroke := Stroke.sent machine.flying sends
  have same : ({ machine with flying := machine.flying }.absorb machine.agenda
      { jobs := [], connection := after }) = { machine with connection := after } := by
    simp [absorb, inbox]
  rw [same] at stroke
  exact .single stroke

/-- A machine that strokes lead to from a fresh one. -/
def Attained (machine : Machine app ω) : Prop :=
  ∃ wire memory limit, (start wire memory limit).Leads machine

theorem Leads.accepted_grows {before after : Machine app ω} (led : before.Leads after) :
    before.accepted <+: after.accepted := by
  induction led with
  | refl =>
      exact List.prefix_rfl
  | tail led stroke inductionHypothesis =>
      exact inductionHypothesis.trans stroke.accepted_prefix

theorem Leads.taken_grows {before after : Machine app ω} (led : before.Leads after) :
    before.taken <+: after.taken := by
  induction led with
  | refl =>
      exact List.prefix_rfl
  | tail led stroke inductionHypothesis =>
      exact inductionHypothesis.trans stroke.taken_prefix

theorem Leads.history_grows {before after : Machine app ω} (led : before.Leads after) :
    before.history <+: after.history := by
  induction led with
  | refl =>
      exact List.prefix_rfl
  | tail led stroke inductionHypothesis =>
      exact inductionHypothesis.trans stroke.history_prefix

end Machine

/-! ## What is known of every machine -/

/-- Nothing is pending once the worker has stopped, and nothing will be. -/
def Stopped (machine : Machine app ω) : Prop :=
  machine.connection.running = false →
    machine.connection.pending = [] ∧ ∀ job ∈ machine.agenda, job.enters = false

/-- What the worker carries out, or launches, was taken. -/
structure Traced (machine : Machine app ω) : Prop where
  carried : ∀ command, .carryOut command ∈ machine.agenda → command ∈ machine.taken
  launched : ∀ message options sink, .launch message options sink ∈ machine.agenda →
    .request message options sink ∈ machine.taken

/-- What is known of every machine whose identifiers last. -/
structure Sound (machine : Machine app ω) : Prop where
  tracked : Tracked machine
  phase : GoingOn machine ∨ Ending machine
  stopped : Stopped machine
  traced : Traced machine

section Strokes

variable [Wire ω] {before after : Machine app ω}

theorem Stopped.stroke
    (stopped : Stopped before) (phase : GoingOn before ∨ Ending before)
    (distinct : before.connection.pending.Distinct) (stroke : Stroke before after) :
    Stopped after := by
  cases stroke with
  | taken agenda isRunning inbox =>
      intro hasStopped
      exact Bool.noConfusion (hasStopped.symm.trans isRunning)
  | woken agenda isRunning =>
      intro hasStopped
      exact Bool.noConfusion (hasStopped.symm.trans isRunning)
  | @worked job rest agenda =>
      intro hasStopped
      have move := job.move before.now before.connection distinct
      -- Only a halt stops the worker, and it comes when everything else has been wound up.
      have settled : before.connection.pending = [] ∧ ∀ job ∈ before.agenda, job.enters = false := by
        by_cases goesOn : job = .halt
        · rw [goesOn] at agenda
          rcases phase with goingOn | ending
          · have noStop := goingOn.agenda
            rw [agenda] at noStop
            contradiction
          · rcases ending.settled with isOrder | settled
            · rw [agenda] at isOrder
              have sameHead := (List.cons.inj isOrder).1
              contradiction
            · exact settled
        · have grows := move.grows goesOn
          exact stopped (grows.running.symm.trans hasStopped)
      exact (Stroke.worked agenda).stays_settled distinct rfl settled
  | @reordered listed hooks rest agenda =>
      intro hasStopped
      exact (Stroke.reordered agenda).stays_settled distinct rfl (stopped hasStopped)
  | sent flying sends =>
      intro hasStopped
      have settled := stopped (sends.grows.running.symm.trans hasStopped)
      exact (Stroke.sent flying sends).stays_settled distinct rfl settled
  | still now =>
      exact stopped

private theorem Traced.stroke
    (traced : Traced before) (distinct : before.connection.pending.Distinct)
    (stroke : Stroke before after) : Traced after := by
  cases stroke with
  | @taken command rest agenda isRunning inbox =>
      refine ⟨?_, ?_⟩
      · intro other isOther
        simp at isOther
        simp [isOther]
      · intro message options sink isLaunch
        simp at isLaunch
  | woken agenda isRunning =>
      refine ⟨?_, ?_⟩
      · intro command isCommand
        simp at isCommand
      · intro message options sink isLaunch
        simp at isLaunch
  | @worked job rest agenda =>
      have move := job.move before.now before.connection distinct
      have isHead : job ∈ before.agenda := by simp [agenda]
      refine ⟨?_, ?_⟩
      · intro command isCommand
        rcases List.mem_append.mp isCommand with isNew | isLater
        · obtain ⟨-, precedes⟩ := move.begins isNew rfl
          cases precedes
        · exact traced.carried command (by simp [agenda, isLater])
      · intro message options sink isLaunch
        rcases List.mem_append.mp isLaunch with isNew | isLater
        · obtain ⟨-, precedes⟩ := move.begins isNew rfl
          cases precedes
          exact traced.carried _ isHead
        · exact traced.launched message options sink (by simp [agenda, isLater])
  | reordered agenda =>
      refine ⟨?_, ?_⟩
      · intro command isCommand
        simp at isCommand
        exact traced.carried command (by simp [agenda, isCommand])
      · intro message options sink isLaunch
        simp at isLaunch
        exact traced.launched message options sink (by simp [agenda, isLaunch])
  | sent flying sends =>
      exact ⟨traced.carried, traced.launched⟩
  | still now =>
      exact ⟨traced.carried, traced.launched⟩

theorem Sound.stroke
    (sound : Sound before) (bound : before.accepted.length ≤ 2 ^ 64)
    (stroke : Stroke before after) : Sound after := by
  obtain ⟨tracked, phase, stopped, traced⟩ := sound
  have distinct := tracked.ledger.distinct bound
  exact ⟨tracked.stroke bound stroke, goingOn_or_ending_stroke phase distinct stroke,
    stopped.stroke phase distinct stroke, traced.stroke distinct stroke⟩

theorem Sound.leads
    (sound : Sound before) (led : before.Leads after)
    (bound : after.accepted.length ≤ 2 ^ 64) : Sound after := by
  induction led with
  | refl =>
      exact sound
  | tail led stroke inductionHypothesis =>
      have boundBefore := stroke.bound bound
      exact (inductionHypothesis boundBefore).stroke boundBefore stroke

end Strokes

theorem Sound.start (wire : ω) (memory : app.Memory) (limit : Option Duration) :
    Sound (Machine.start wire memory limit) := by
  refine ⟨.start wire memory limit, .inl ⟨rfl, rfl, rfl⟩, ?_, ?_⟩
  · intro stopped
    contradiction
  · refine ⟨?_, ?_⟩
    · intro command isCommand
      contradiction
    · intro message options sink isLaunch
      contradiction

namespace Machine

variable [Wire ω] {machine : Machine app ω}

theorem Attained.sound
    (attained : machine.Attained) (bound : machine.accepted.length ≤ 2 ^ 64) :
    Sound machine := by
  obtain ⟨wire, memory, limit, led⟩ := attained
  exact (Sound.start wire memory limit).leads led bound

theorem Reachable.sound
    (reachable : machine.Reachable) (bound : machine.accepted.length ≤ 2 ^ 64) :
    Sound machine := by
  obtain ⟨wire, memory, limit, schedule, rfl⟩ := reachable
  exact (Sound.start wire memory limit).leads (leads_run _ schedule) bound

theorem Attained.leads
    {after : Machine app ω} (attained : machine.Attained) (led : machine.Leads after) :
    after.Attained := by
  obtain ⟨wire, memory, limit, reached⟩ := attained
  exact ⟨wire, memory, limit, reached.trans led⟩

end Machine

end RpcEndpoint
