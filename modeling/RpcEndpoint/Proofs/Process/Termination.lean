import RpcEndpoint.Proofs.Process.Lifetime

/-!
# Every hook runs once

What the consistent states of a lifetime have in common: what is seen of the process only goes
forward, one thread at the most ends it, and when that thread has come to the end, every hook has
run once, or is about to be run by the thread that has brought it late.
-/

namespace RpcEndpoint

namespace Lifetime

variable {κ η : Type}

theorem consistent_run (schedule : List (Turn κ η)) :
    Consistent (hooksIn schedule) ((new : Lifetime κ η).run schedule) :=
  Consistent.run (.before .notStarted rfl []) schedule

theorem run_append (lifetime : Lifetime κ η) (earlier later : List (Turn κ η)) :
    lifetime.run (earlier ++ later) = (lifetime.run earlier).run later :=
  List.foldl_append

/-! ## What one turn does -/

theorem status_register (lifetime : Lifetime κ η) (hook : η) :
    (lifetime.register hook).status = lifetime.status := by
  unfold register Lifecycle.register
  cases lifetime.lifecycle.told <;> rfl

theorem status_callLate (lifetime : Lifetime κ η) (index : Nat) :
    (lifetime.callLate index).status = lifetime.status := by
  unfold callLate
  cases lifetime.late[index]? <;> rfl

theorem completed_callLate (lifetime : Lifetime κ η) (index : Nat) :
    (lifetime.callLate index).completed = lifetime.completed := by
  unfold callLate
  cases lifetime.late[index]? <;> rfl

/-- An attempt that fails leaves nothing behind. -/
theorem start_error {α : Type} (lifetime : Lifetime κ η) (failure : ProcessFailure) :
    (lifetime.start (.error failure : Except ProcessFailure α)).2 = lifetime := by
  unfold start
  cases lifetime.lifecycle.refusal? <;> rfl

namespace Consistent

variable {registered : List η} {lifetime : Lifetime κ η}

theorem status_start (consistent : Consistent registered lifetime)
    (spawned : Except ProcessFailure Unit) :
    (lifetime.start spawned).2.status = lifetime.status ∨
      Status.Moves lifetime.status (lifetime.start spawned).2.status := by
  cases consistent with
  | before status isOpen =>
      cases status with
      | notStarted =>
          cases spawned with
          | error failure => exact .inl rfl
          | ok started => exact .inr .begins
      | running => exact .inl rfl
      | terminated exit => cases isOpen
  | left | reaped | calling | completed => exact .inl rfl

theorem status_leave (consistent : Consistent registered lifetime) (who : κ) :
    (lifetime.leave who).2.status = lifetime.status ∨
      Status.Moves lifetime.status (lifetime.leave who).2.status := by
  cases consistent with
  | before status isOpen =>
      cases status with
      | notStarted => exact .inl rfl
      | running => exact .inr .leaves
      | terminated exit => cases isOpen
  | left | reaped | calling | completed => exact .inl rfl

theorem status_goOn (consistent : Consistent registered lifetime) (index : Nat)
    (exit : Option ExitStatus) :
    (lifetime.goOn index exit).status = lifetime.status ∨
      Status.Moves lifetime.status (lifetime.goOn index exit).status := by
  cases consistent with
  | before | completed => exact .inl rfl
  | left who =>
      cases index with
      | zero =>
          cases exit with
          | none => exact .inl rfl
          | some exit => exact .inr (.ends exit)
      | succ index => exact .inl rfl
  | reaped =>
      cases index with
      | zero | succ index => exact .inl rfl
  | calling who written waiting all =>
      cases index with
      | zero =>
          cases waiting with
          | nil | cons hook rest => exact .inl rfl
      | succ index => exact .inl rfl

theorem status_next (consistent : Consistent registered lifetime) (turn : Turn κ η) :
    (lifetime.next turn).status = lifetime.status ∨
      Status.Moves lifetime.status (lifetime.next turn).status := by
  cases turn with
  | start spawned => exact consistent.status_start spawned
  | leave who => exact consistent.status_leave who
  | goOn index exit => exact consistent.status_goOn index exit
  | register hook => exact .inl (lifetime.status_register hook)
  | callLate index => exact .inl (lifetime.status_callLate index)

/-- When the process has been ended, nothing changes any more but that late hooks are run. -/
theorem completed_next (consistent : Consistent registered lifetime)
    (isOver : lifetime.completed ≠ []) (turn : Turn κ η) :
    (lifetime.next turn).completed ≠ [] ∧ (lifetime.next turn).status = lifetime.status := by
  cases consistent with
  | before | left | reaped | calling => exact absurd rfl isOver
  | @completed who exit _ called late all =>
      cases turn with
      | start | leave | goOn | register => exact ⟨isOver, rfl⟩
      | callLate index =>
          refine ⟨?_, status_callLate _ index⟩
          rwa [Lifetime.next, completed_callLate]

theorem status_next_of_failed (consistent : Consistent registered lifetime)
    (isIdle : lifetime.status = .notStarted) {turn : Turn κ η} (fails : turn.isSuccess = false) :
    (lifetime.next turn).status = .notStarted := by
  cases consistent with
  | before status isOpen =>
      obtain rfl : status = .notStarted := isIdle
      cases turn with
      | start spawned =>
          cases spawned with
          | error failure => rfl
          | ok started => cases fails
      | leave | goOn | register | callLate => rfl
  | left | reaped | calling | completed => cases isIdle

/-! ## What a whole schedule does -/

theorem status_run (consistent : Consistent registered lifetime) (schedule : List (Turn κ η)) :
    Relation.ReflTransGen Status.Moves lifetime.status (lifetime.run schedule).status := by
  induction schedule generalizing registered lifetime with
  | nil => exact .refl
  | cons turn rest inductionHypothesis =>
      have later := inductionHypothesis (consistent.next turn)
      rcases consistent.status_next turn with isSame | moves
      · rwa [isSame] at later
      · exact .head moves later

theorem completed_run (consistent : Consistent registered lifetime)
    (isOver : lifetime.completed ≠ []) (schedule : List (Turn κ η)) :
    (lifetime.run schedule).status = lifetime.status := by
  induction schedule generalizing registered lifetime with
  | nil => rfl
  | cons turn rest inductionHypothesis =>
      obtain ⟨stillOver, isSame⟩ := consistent.completed_next isOver turn
      exact (inductionHypothesis (consistent.next turn) stillOver).trans isSame

/-- As long as no attempt to start it succeeds, the process is not started. -/
theorem status_of_failed (consistent : Consistent registered lifetime)
    (isIdle : lifetime.status = .notStarted) (schedule : List (Turn κ η))
    (allFail : ∀ turn ∈ schedule, turn.isSuccess = false) :
    (lifetime.run schedule).status = .notStarted := by
  induction schedule generalizing registered lifetime with
  | nil => exact isIdle
  | cons turn rest inductionHypothesis =>
      have stillIdle := consistent.status_next_of_failed isIdle (allFail turn List.mem_cons_self)
      exact inductionHypothesis (consistent.next turn) stillIdle
        fun other isOther => allFail other (List.mem_cons_of_mem _ isOther)

/-! ## What holds in all states -/

theorem enders_length (consistent : Consistent registered lifetime) :
    lifetime.enders.length ≤ 1 := by
  cases consistent <;> simp [enders]

theorem seen_of_call (consistent : Consistent registered lifetime) :
    ∀ call ∈ lifetime.calls, call.seen = .terminated call.exit := by
  cases consistent <;> simp

/-- What a hook was told stays to be seen. -/
theorem status_of_call (consistent : Consistent registered lifetime) :
    ∀ call ∈ lifetime.calls, lifetime.status = .terminated call.exit := by
  cases consistent <;> simp [status]

/-- No hook is run twice. -/
theorem called_subperm (consistent : Consistent registered lifetime) :
    lifetime.called.Subperm registered := by
  cases consistent with
  | before | left | reaped => exact List.nil_subperm
  | @calling who exit waiting _ called late all =>
      refine (List.Sublist.subperm ?_).trans all.subperm
      simp [Lifetime.called, Function.comp_def]
  | @completed who exit _ called late all =>
      refine (List.Sublist.subperm ?_).trans all.subperm
      simp [Lifetime.called, Function.comp_def]

/-- What waits has been registered. -/
theorem hooks_sublist (consistent : Consistent registered lifetime) :
    lifetime.lifecycle.hooks.Sublist registered := by
  cases consistent with
  | before | left | reaped => exact .refl _
  | calling | completed => exact List.nil_sublist _

/-- Before the process is left, all hooks wait. -/
theorem hooks_wait (consistent : Consistent registered lifetime)
    (isOpen : lifetime.status.isTerminated = false) :
    lifetime.lifecycle.hooks = registered ∧ lifetime.calls = [] := by
  cases consistent with
  | before status isOpen => exact ⟨rfl, rfl⟩
  | left | reaped | calling | completed => cases isOpen

/-- Before the process is left, no hook comes late. -/
theorem on_time (consistent : Consistent registered lifetime)
    (isOpen : lifetime.status.isTerminated = false) :
    lifetime.lifecycle.told = none ∧ lifetime.late = [] := by
  cases consistent with
  | before status isOpen => exact ⟨rfl, rfl⟩
  | left | reaped | calling | completed => cases isOpen

/-- When the process has been ended, every hook has been run or is with the thread that has brought
it, and all are told the same. -/
theorem all_called (consistent : Consistent registered lifetime)
    (isOver : lifetime.completed ≠ []) :
    ∃ exit, lifetime.status = .terminated exit ∧
      (∀ call ∈ lifetime.calls, call.exit = exit) ∧
      (∀ waiting ∈ lifetime.late, waiting.2 = exit) ∧
      (lifetime.called ++ lifetime.late.map Prod.fst).Perm registered := by
  cases consistent with
  | before | left | reaped | calling => exact absurd rfl isOver
  | @completed who exit _ called late all =>
      refine ⟨exit, rfl, by simp, by simp, ?_⟩
      simpa [Lifetime.called, Function.comp_def] using all

end Consistent

/-! ## Schedules from the beginning -/

/-- Whatever threads start the process, end it and register hooks, and in whatever order: what is
seen of the process only goes forward; one thread at the most ends it; no hook runs twice, and each
sees the process terminated with the exit it is told. When the process has been ended, this exit is
the same for all, what is seen does not change any more, and every hook that was registered at any
time has run, unless the thread that has brought it late is just about to run it. As long as all
attempts to start the process fail, it is not started and all hooks wait. -/
theorem hooks_run_once (earlier later : List (Turn κ η)) :
    let between := (new : Lifetime κ η).run earlier
    let after := between.run later
    let registered := hooksIn (earlier ++ later)
    Relation.ReflTransGen Status.Moves between.status after.status ∧
      after.enders.length ≤ 1 ∧
      after.called.Subperm registered ∧
      (∀ call ∈ after.calls, call.seen = .terminated call.exit) ∧
      (after.completed ≠ [] →
        ∃ exit, after.status = .terminated exit ∧
          (∀ call ∈ after.calls, call.exit = exit) ∧
          (∀ waiting ∈ after.late, waiting.2 = exit) ∧
          (after.called ++ after.late.map Prod.fst).Perm registered) ∧
      (between.completed ≠ [] → after.status = between.status) ∧
      (after.status.isTerminated = false →
        after.lifecycle.hooks = registered ∧ after.calls = [] ∧
          ∀ failure, (after.next (.start (.error failure))) = after) ∧
      ((∀ turn ∈ earlier ++ later, turn.isSuccess = false) → after.status = .notStarted) := by
  intro between after registered
  have whole : after = (new : Lifetime κ η).run (earlier ++ later) :=
    (run_append new earlier later).symm
  have first : Consistent (hooksIn earlier) between := consistent_run earlier
  have last : Consistent registered after := whole ▸ consistent_run (earlier ++ later)
  refine ⟨first.status_run later, last.enders_length, last.called_subperm, last.seen_of_call,
    last.all_called, fun isOver => first.completed_run isOver later, fun isOpen => ?_,
    fun allFail => ?_⟩
  · obtain ⟨waiting, noCalls⟩ := last.hooks_wait isOpen
    exact ⟨waiting, noCalls, after.start_error⟩
  · rw [whole]
    exact (consistent_run []).status_of_failed rfl _ allFail

/-- Two threads want to end a process, which is started at the second attempt; hooks come before,
while and after it is ended. -/
def contest : List (Turn String Nat) :=
  [.register 1, .start (.error (.spawnFailed "no room")), .start (.ok ()), .leave "reader",
    .leave "stop", .register 2, .goOn 0 (some (.code 3)), .register 3, .goOn 0 none, .register 4,
    .goOn 0 none, .callLate 0, .goOn 0 none, .register 5, .goOn 0 none, .goOn 0 none]

/-- The reader ends the process. The hook that comes while the others are called is run at once, and
the last one is with its thread. -/
theorem hooks_run_once_contest :
    let after := (new : Lifetime String Nat).run contest
    after.enders = ["reader"] ∧ after.called = [1, 4, 2, 3] ∧
      after.late.map Prod.fst = [5] ∧
      (∀ call ∈ after.calls, call.seen = .terminated call.exit) ∧
      ∃ exit, after.status = .terminated exit ∧
        (∀ call ∈ after.calls, call.exit = exit) ∧
        (∀ waiting ∈ after.late, waiting.2 = exit) ∧
        (after.called ++ after.late.map Prod.fst).Perm (hooksIn contest) := by
  obtain ⟨-, -, -, seen, told, -, -, -⟩ := hooks_run_once ([] : List (Turn String Nat)) contest
  refine ⟨by decide +kernel, by decide +kernel, by decide +kernel, seen, told ?_⟩
  decide +kernel

/-! ## Nobody is kept waiting -/

/-- A thread that calls the hooks calls all of them, one after another. -/
theorem run_calling
    (who : κ) (written exit : Option ExitStatus) (waiting : List η) {lifetime : Lifetime κ η}
    (isCalling : lifetime.underway = [(who, .calling waiting written)]) :
    lifetime.run (List.replicate (waiting.length + 1) (.goOn 0 exit)) =
      { lifetime with
        underway := []
        completed := lifetime.completed ++ [who]
        calls := lifetime.calls ++
          waiting.map fun hook => ⟨hook, written, lifetime.status⟩ } := by
  induction waiting generalizing lifetime with
  | nil =>
      simp [run, next, goOn, isCalling]
  | cons hook rest inductionHypothesis =>
      have called : lifetime.next (.goOn 0 exit) =
          { lifetime with underway := [(who, .calling rest written)] }.call hook written := by
        simp [next, goOn, isCalling]
      rw [List.length_cons, List.replicate_succ, run, List.foldl_cons, called]
      refine (inductionHypothesis rfl).trans ?_
      simp [call, status]

/-- The thread that ends a process comes to the end by itself, whatever has happened before. -/
theorem Consistent.completes {registered : List η} {lifetime : Lifetime κ η}
    (consistent : Consistent registered lifetime) (isLeft : lifetime.enders ≠ [])
    (exit : Option ExitStatus) :
    ∃ count, (lifetime.run (List.replicate count (.goOn 0 exit))).completed ≠ [] := by
  cases consistent with
  | before => exact absurd rfl isLeft
  | left who =>
      refine ⟨2 + (registered.length + 1), ?_⟩
      rw [← List.replicate_append_replicate, run_append]
      rw [run_calling who exit exit registered rfl]
      exact List.cons_ne_nil who []
  | reaped who written =>
      refine ⟨1 + (registered.length + 1), ?_⟩
      rw [← List.replicate_append_replicate, run_append]
      rw [run_calling who written exit registered rfl]
      exact List.cons_ne_nil who []
  | calling who written waiting all =>
      refine ⟨waiting.length + 1, ?_⟩
      rw [run_calling who written exit waiting rfl]
      exact List.cons_ne_nil who []
  | completed who written all => exact ⟨0, List.cons_ne_nil who []⟩

end Lifetime

end RpcEndpoint
