import RpcEndpoint.Proofs.Accounts.Posting
import RpcEndpoint.Proofs.Schedule.Stroke

/-!
# What is taken down along a schedule

A note says what to take down of the job whose first step the worker does. The jottings of a
schedule are all that was taken down, in its order. `Booked` says what a choice makes of the books,
of the agenda and of the commands that were taken, so that an invariant may speak of jottings and
books.
-/

namespace RpcEndpoint

open Connection

variable {app : Application} {ω α : Type}

/-- What is selected of a list comes from its head or from the rest. -/
theorem filterMap_cons_eq_append {β : Type} (select : α → Option β) (first : α) (rest : List α) :
    (first :: rest).filterMap select = (select first).toList ++ rest.filterMap select := by
  cases isSelected : select first with
  | none =>
      exact List.filterMap_cons_none isSelected
  | some item =>
      exact List.filterMap_cons_some isSelected

namespace Machine

/-- What is taken down with a choice. -/
def jotted (note : Connection app ω → Job app → List α) (machine : Machine app ω) :
    Choice app ω → List α
  | .work =>
    match machine.agenda with
    | job :: _ => note machine.connection job
    | [] => []
  | _ => []

/-- What is taken down along a schedule. -/
def jottings [Wire ω] (note : Connection app ω → Job app → List α) :
    Machine app ω → List (Choice app ω) → List α
  | _, [] => []
  | machine, choice :: rest =>
    machine.jotted note choice ++ (machine.next choice).jottings note rest

theorem jottings_append [Wire ω]
    (note : Connection app ω → Job app → List α) (machine : Machine app ω)
    (left right : List (Choice app ω)) :
    machine.jottings note (left ++ right) =
      machine.jottings note left ++ (machine.run left).jottings note right := by
  induction left generalizing machine with
  | nil =>
      rfl
  | cons choice rest inductionHypothesis =>
      rw [List.cons_append, jottings, jottings, inductionHypothesis, List.append_assoc]
      rfl

theorem jottings_snoc [Wire ω]
    (note : Connection app ω → Job app → List α) (machine : Machine app ω)
    (schedule : List (Choice app ω)) (choice : Choice app ω) :
    machine.jottings note (schedule ++ [choice]) =
      machine.jottings note schedule ++ (machine.run schedule).jotted note choice := by
  rw [jottings_append]
  exact congrArg (_ ++ ·) (List.append_nil _)

/-- The verdicts of a schedule are taken down from its jobs. -/
theorem verdicts_eq_jottings [Wire ω] (machine : Machine app ω) (schedule : List (Choice app ω)) :
    machine.verdicts schedule =
      machine.jottings (fun connection job => (job.verdict connection).toList) schedule := by
  induction schedule generalizing machine with
  | nil =>
      rfl
  | cons choice rest inductionHypothesis =>
      rw [verdicts, jottings, inductionHypothesis]
      congr 1
      cases choice with
      | work =>
          unfold verdict jotted
          cases machine.agenda <;> rfl
      | _ =>
          rfl

theorem verdicts_append [Wire ω] (machine : Machine app ω) (left right : List (Choice app ω)) :
    machine.verdicts (left ++ right) =
      machine.verdicts left ++ (machine.run left).verdicts right := by
  rw [verdicts_eq_jottings, verdicts_eq_jottings, verdicts_eq_jottings, jottings_append]

/-- What was taken down was a note on some job. -/
theorem mem_jottings [Wire ω]
    {note : Connection app ω → Job app → List α} {machine : Machine app ω}
    {schedule : List (Choice app ω)} {item : α}
    (isJotted : item ∈ machine.jottings note schedule) :
    ∃ connection job, item ∈ note connection job := by
  induction schedule generalizing machine with
  | nil =>
      contradiction
  | cons choice rest inductionHypothesis =>
      rcases List.mem_append.mp isJotted with isHere | isLater
      · unfold jotted at isHere
        split at isHere
        · split at isHere
          · exact ⟨_, _, isHere⟩
          · contradiction
        · contradiction
      · exact inductionHypothesis isLater

end Machine

/-- Whatever happens to the wire, messages get their verdicts and what was accepted was written. -/
theorem judged_nothing [Wire ω]
    (wire : ω) (memory : app.Memory) (defaultTimeout : Option Duration)
    (schedule : List (Choice app ω)) :
    let start : Machine app ω := .start wire memory defaultTimeout
    Judged (View.nothing : View ω Unit) (start.verdicts schedule) ⟨[], 0, 0, ()⟩
      (start.run schedule) :=
  judged_run View.nothing wire memory defaultTimeout schedule
    fun choice _ => choice.unseen_nothing

/-! ## The books under a choice -/

/-- The slip of a notification whose sender waits for its fate. -/
def Machine.slip? (machine : Machine app ω) : Choice app ω → Option Slip
  | .act (.notifyWithReceipt method (.ok encoded)) =>
    if machine.connection.running then
      some ⟨machine.connection.nextReceipt, .new method encoded⟩
    else none
  | _ => none

/-- What a choice may make of a machine, as far as its books go. -/
inductive Booked [Wire ω] (machine : Machine app ω) : Choice app ω → Machine app ω → Prop where
  | taken {command : Command app} {rest : List (Command app)}
      (agenda : machine.agenda = [])
      (isRunning : machine.connection.running = true)
      (inbox : machine.connection.inbox = command :: rest) :
      Booked machine .take
        { machine with
          connection := { machine.connection with inbox := rest }
          agenda := [.carryOut command, .sweep]
          taken := machine.taken ++ [command] }
  | woken
      (agenda : machine.agenda = [])
      (isRunning : machine.connection.running = true) :
      Booked machine .wake { machine with agenda := [.sweep] }
  | worked {job : Job app} {rest : List (Job app)}
      (agenda : machine.agenda = job :: rest) :
      Booked machine .work (machine.absorb rest (job.step machine.now machine.connection))
  | reordered {held hooks : List Hook} {rest : List (Job app)}
      (agenda : machine.agenda = .signal held :: rest) :
      Booked machine (.reorder hooks) { machine with agenda := .signal hooks :: rest }
  /-- Somebody sends a notification and waits for its fate. -/
  | called {method : String} {encoded : Option Json.Value} {after : Machine app ω}
      (isRunning : machine.connection.running = true)
      (agenda : after.agenda = machine.agenda)
      (taken : after.taken = machine.taken)
      (history : after.history = machine.history)
      (books : after.connection.books =
        { machine.connection.books with
          slips := machine.connection.slips ++
            [⟨machine.connection.nextReceipt, .new method encoded⟩]
          nextReceipt := machine.connection.nextReceipt + 1 }) :
      Booked machine (.act (.notifyWithReceipt method (.ok encoded))) after
  /-- Nothing happens that the books tell. -/
  | beside {choice : Choice app ω} {after : Machine app ω}
      (unworked : choice = .work → machine.agenda = [])
      (silent : machine.slip? choice = none)
      (agenda : after.agenda = machine.agenda)
      (taken : after.taken = machine.taken)
      (history : after.history = machine.history)
      (books : after.connection.books = machine.connection.books) :
      Booked machine choice after

namespace Machine

theorem jotted_work
    (note : Connection app ω → Job app → List α) {machine : Machine app ω}
    {job : Job app} {rest : List (Job app)} (agenda : machine.agenda = job :: rest) :
    machine.jotted note .work = note machine.connection job := by
  rw [jotted, agenda]

theorem jotted_of_unworked
    {note : Connection app ω → Job app → List α} {machine : Machine app ω}
    {choice : Choice app ω} (unworked : choice = .work → machine.agenda = []) :
    machine.jotted note choice = [] := by
  cases choice with
  | work =>
      rw [jotted, unworked rfl]
  | _ =>
      rfl

private theorem booked_act [Wire ω] (machine : Machine app ω) (act : Act app ω) :
    Booked machine (.act act) (machine.next (.act act)) := by
  have unworked : (Choice.act act : Choice app ω) = .work → machine.agenda = [] := by
    intro isWork
    contradiction
  have noJobs : (machine.next (.act act)).agenda = machine.agenda := by
    cases act <;> rfl
  have noDeeds : (machine.next (.act act)).history = machine.history := by
    cases act <;> exact List.append_nil _
  -- Of what other threads do, the books tell only such calls.
  by_cases unreported : ∀ method params, act ≠ .notifyWithReceipt method params
  · have silent : machine.slip? (.act act) = none := by
      cases act with
      | notifyWithReceipt method params =>
          exact absurd rfl (unreported method params)
      | _ =>
          rfl
    exact .beside unworked silent noJobs rfl noDeeds (act.books unreported machine.connection)
  · simp only [not_forall, not_not] at unreported
    obtain ⟨method, params, rfl⟩ := unreported
    cases params with
    | error fault =>
        exact .beside unworked rfl noJobs rfl noDeeds rfl
    | ok encoded =>
        by_cases isRunning : machine.connection.running = true
        · exact .called isRunning noJobs rfl noDeeds
            (books_notifyWithReceipt isRunning method encoded)
        · refine .beside unworked (if_neg isRunning) noJobs rfl noDeeds ?_
          change (machine.connection.notifyWithReceipt method (.ok encoded)).2.books = _
          rw [notifyWithReceipt, if_neg isRunning]

theorem booked [Wire ω] (machine : Machine app ω) (choice : Choice app ω) :
    Booked machine choice (machine.next choice) := by
  have same (closed : ¬ choice = .work ∨ machine.agenda = [])
      (silent : machine.slip? choice = none) : Booked machine choice machine :=
    .beside (fun isWork => closed.resolve_left (not_not.mpr isWork)) silent rfl rfl rfl rfl
  cases choice with
  | take =>
      rw [next]
      split
      · rename_i command rest agenda isRunning inbox
        exact .taken agenda isRunning inbox
      · exact same (.inl (by simp)) rfl
  | wake =>
      rw [next]
      split
      · rename_i agenda isRunning
        exact .woken agenda isRunning
      · exact same (.inl (by simp)) rfl
  | work =>
      rw [next]
      split
      · rename_i job rest agenda
        exact .worked agenda
      · rename_i agenda
        exact same (.inr agenda) rfl
  | reorder hooks =>
      rw [next]
      split
      · rename_i held rest agenda
        split
        · exact .reordered agenda
        · exact same (.inl (by simp)) rfl
      · exact same (.inl (by simp)) rfl
  | pass instant =>
      exact .beside (by simp) rfl rfl rfl rfl rfl
  | act act =>
      exact booked_act machine act
  | trigger token =>
      exact .beside (by simp) rfl rfl rfl (List.append_nil _) rfl
  | fire hook =>
      rw [next]
      split
      · exact .beside (by simp) rfl rfl rfl (List.append_nil _)
          (books_setOff machine.connection hook)
      · exact same (.inl (by simp)) rfl

/-- What holds at the start and survives every choice, as far as the books tell, holds after every
schedule. -/
theorem booked_induction [Wire ω]
    (property : Machine app ω → Prop) {machine : Machine app ω}
    (schedule : List (Choice app ω)) (start : property machine)
    (survives : ∀ before choice after, Booked before choice after → property before →
      property after) :
    property (machine.run schedule) := by
  induction schedule generalizing machine with
  | nil =>
      exact start
  | cons choice rest inductionHypothesis =>
      exact inductionHypothesis (survives _ choice _ (machine.booked choice) start)

end Machine

end RpcEndpoint
