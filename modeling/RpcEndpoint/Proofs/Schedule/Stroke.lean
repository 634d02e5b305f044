import RpcEndpoint.Proofs.Schedule.Move

/-!
# The strokes of a machine

Every choice leads to one of six strokes. What is to hold after every schedule has to hold at the
start and to survive each of them.
-/

namespace RpcEndpoint

open Connection

variable {app : Application} {ω : Type}

/-- What a choice may make of a machine. -/
inductive Stroke [Wire ω] (machine : Machine app ω) : Machine app ω → Prop where
  /-- The worker takes the first command of the inbox. -/
  | taken {command : Command app} {rest : List (Command app)}
      (agenda : machine.agenda = [])
      (isRunning : machine.connection.running = true)
      (inbox : machine.connection.inbox = command :: rest) :
      Stroke machine
        { machine with
          connection := { machine.connection with inbox := rest }
          agenda := [.carryOut command, .sweep]
          taken := machine.taken ++ [command] }
  | woken
      (agenda : machine.agenda = [])
      (isRunning : machine.connection.running = true) :
      Stroke machine { machine with agenda := [.sweep] }
  | worked {job : Job app} {rest : List (Job app)}
      (agenda : machine.agenda = job :: rest) :
      Stroke machine (machine.absorb rest (job.step machine.now machine.connection))
  | reordered {held hooks : List Hook} {rest : List (Job app)}
      (agenda : machine.agenda = .signal held :: rest) :
      Stroke machine { machine with agenda := .signal hooks :: rest }
  /-- Another thread sends something, or touches what no request depends on. -/
  | sent {accepted : List MessageId} {after : Connection app ω} (flying : List Hook)
      (sends : Sends accepted machine.connection after) :
      Stroke machine
        ({ machine with flying }.absorb machine.agenda
          { jobs := [], connection := after, accepted })
  /-- At the most, time passes. -/
  | still (now : Instant) : Stroke machine { machine with now }

private theorem apply_eq [Wire ω] (act : Act app ω) (connection : Connection app ω) :
    act.apply connection =
      { jobs := []
        connection := (act.apply connection).connection
        accepted := (act.apply connection).accepted } := by
  cases act <;> rfl

namespace Machine

theorem stroke [Wire ω] (machine : Machine app ω) (choice : Choice app ω) :
    Stroke machine (machine.next choice) := by
  have same : Stroke machine machine := .still machine.now
  cases choice with
  | take =>
      rw [next]
      split
      · rename_i command rest agenda isRunning inbox
        exact .taken agenda isRunning inbox
      · exact same
  | wake =>
      rw [next]
      split
      · rename_i agenda isRunning
        exact .woken agenda isRunning
      · exact same
  | work =>
      rw [next]
      split
      · rename_i job rest agenda
        exact .worked agenda
      · exact same
  | reorder hooks =>
      rw [next]
      split
      · rename_i held rest agenda
        by_cases isOrder : hooks.isPerm held = true
        · rw [if_pos isOrder]
          exact .reordered agenda
        · rw [if_neg isOrder]
          exact same
      · exact same
  | pass instant =>
      exact .still _
  | act act =>
      rw [next, apply_eq]
      exact .sent machine.flying (sends_apply act machine.connection)
  | trigger token =>
      exact .sent _ (.quiet rfl rfl rfl rfl rfl rfl)
  | fire hook =>
      by_cases isFlying : hook ∈ machine.flying
      · rw [next, if_pos isFlying]
        exact .sent _ (sends_setOff machine.connection hook)
      · rw [next, if_neg isFlying]
        exact same

/-- What holds at the start and survives every stroke holds after every schedule. -/
theorem run_induction [Wire ω]
    (property : Machine app ω → Prop) {machine : Machine app ω}
    (schedule : List (Choice app ω))
    (start : property machine)
    (survives : ∀ before after, property before → Stroke before after → property after) :
    property (machine.run schedule) := by
  induction schedule generalizing machine with
  | nil =>
      exact start
  | cons choice rest inductionHypothesis =>
      exact inductionHypothesis (survives _ _ start (machine.stroke choice))

end Machine

/-! ## What is only added to -/

theorem Stroke.taken_prefix [Wire ω]
    {before after : Machine app ω} (stroke : Stroke before after) :
    before.taken <+: after.taken := by
  cases stroke with
  | taken agenda isRunning inbox =>
      exact List.prefix_append _ _
  | worked | woken | reordered | sent | still =>
      exact List.prefix_rfl

theorem Stroke.entered_prefix [Wire ω]
    {before after : Machine app ω} (stroke : Stroke before after) :
    before.entered <+: after.entered := by
  cases stroke with
  | worked agenda =>
      exact List.prefix_append _ _
  | sent flying sends =>
      exact List.prefix_append _ _
  | taken | woken | reordered | still =>
      exact List.prefix_rfl

theorem Stroke.accepted_prefix [Wire ω]
    {before after : Machine app ω} (stroke : Stroke before after) :
    before.accepted <+: after.accepted := by
  cases stroke with
  | worked agenda =>
      exact List.prefix_append _ _
  | sent flying sends =>
      exact List.prefix_append _ _
  | taken | woken | reordered | still =>
      exact List.prefix_rfl

/-- What bounds the number of identifiers after a stroke has bounded it before. -/
theorem Stroke.bound [Wire ω]
    {before after : Machine app ω} (stroke : Stroke before after) {count : Nat}
    (boundAfter : after.accepted.length ≤ count) : before.accepted.length ≤ count :=
  Nat.le_trans stroke.accepted_prefix.length_le boundAfter

theorem Stroke.history_prefix [Wire ω]
    {before after : Machine app ω} (stroke : Stroke before after) :
    before.history <+: after.history := by
  cases stroke with
  | worked agenda =>
      exact List.prefix_append _ _
  | sent flying sends =>
      exact List.prefix_append _ _
  | taken | woken | reordered | still =>
      exact List.prefix_rfl

namespace Machine

theorem run_append [Wire ω]
    (machine : Machine app ω) (left right : List (Choice app ω)) :
    machine.run (left ++ right) = (machine.run left).run right :=
  List.foldl_append

theorem Reachable.run [Wire ω]
    {machine : Machine app ω} (reachable : machine.Reachable) (schedule : List (Choice app ω)) :
    (machine.run schedule).Reachable := by
  obtain ⟨wire, memory, defaultTimeout, earlier, rfl⟩ := reachable
  exact ⟨wire, memory, defaultTimeout, earlier ++ schedule, (run_append _ earlier schedule).symm⟩

/-- What holds at the start and survives the choices at reachable machines holds of every reachable
machine. -/
theorem Reachable.choice_induction [Wire ω]
    (property : Machine app ω → Prop)
    (start : ∀ wire memory defaultTimeout, property (.start wire memory defaultTimeout))
    (survives : ∀ before choice, before.Reachable → property before →
      property (before.next choice))
    {machine : Machine app ω} (reachable : machine.Reachable) : property machine := by
  obtain ⟨wire, memory, defaultTimeout, schedule, rfl⟩ := reachable
  have ran {machine : Machine app ω} (reachable : machine.Reachable) (held : property machine) :
      property (machine.run schedule) := by
    induction schedule generalizing machine with
    | nil =>
        exact held
    | cons choice rest inductionHypothesis =>
        exact inductionHypothesis (reachable.run [choice]) (survives machine choice reachable held)
  exact ran ⟨wire, memory, defaultTimeout, [], rfl⟩ (start wire memory defaultTimeout)

/-- What holds at the start and survives every stroke, as long as the identifiers last, holds after
every schedule for which they last. -/
theorem lasting_induction [Wire ω]
    (property : Machine app ω → Prop) {machine : Machine app ω}
    (schedule : List (Choice app ω)) {count : Nat}
    (start : property machine)
    (survives : ∀ before after, before.accepted.length ≤ count → property before →
      Stroke before after → property after)
    (bound : (machine.run schedule).accepted.length ≤ count) :
    property (machine.run schedule) := by
  refine run_induction (fun reached => reached.accepted.length ≤ count → property reached) schedule
    (fun _ => start) ?_ bound
  intro before after held stroke boundAfter
  have boundBefore := stroke.bound boundAfter
  exact survives before after boundBefore (held boundBefore) stroke

theorem taken_prefix_run [Wire ω] (machine : Machine app ω) (schedule : List (Choice app ω)) :
    machine.taken <+: (machine.run schedule).taken :=
  run_induction (fun reached => machine.taken <+: reached.taken) schedule List.prefix_rfl
    fun _ _ held stroke => held.trans stroke.taken_prefix

theorem accepted_prefix_run [Wire ω] (machine : Machine app ω) (schedule : List (Choice app ω)) :
    machine.accepted <+: (machine.run schedule).accepted :=
  run_induction (fun reached => machine.accepted <+: reached.accepted) schedule List.prefix_rfl
    fun _ _ held stroke => held.trans stroke.accepted_prefix

theorem history_prefix_run [Wire ω] (machine : Machine app ω) (schedule : List (Choice app ω)) :
    machine.history <+: (machine.run schedule).history :=
  run_induction (fun reached => machine.history <+: reached.history) schedule List.prefix_rfl
    fun _ _ held stroke => held.trans stroke.history_prefix

end Machine

end RpcEndpoint
