import RpcEndpoint.Proofs.Process.Termination
import RpcEndpoint.Wire.Process

/-!
# What a wire does to its process

The operations of a wire run to their end before the next begins. Each of them is a schedule of the
turns that threads take at a process, so that what holds of all schedules holds of a wire.
-/

namespace RpcEndpoint

variable {η : Type}

/-- The ends among notices. -/
def endings (notices : List (Notice η)) : List (η × Option ExitStatus) :=
  notices.filterMap fun
    | .ended hook exit => some (hook, exit)
    | .output _ | .line _ _ => none

/-- What hooks were told. -/
def Lifetime.tellings (lifetime : Lifetime Unit η) : List (η × Option ExitStatus) :=
  lifetime.calls.map fun call => (call.hook, call.exit)

/-- A lifetime and a wire that tell the same of a process. It does not matter here who ends it. -/
structure Lifetime.Tracks (lifetime : Lifetime Unit η) (wire : ProcessWire η) : Prop where
  lifecycle : lifetime.lifecycle = wire.lifecycle
  /-- Nobody ends a process that has not been left. -/
  isOpen : wire.status.isTerminated = false → lifetime.underway = []
  /-- The vigil is that of the thread that ends the process. -/
  vigil : wire.vigil.isSome → lifetime.underway = [((), .left)]
  late : lifetime.late = []

/-- From one wire to another some turns lead, in which these hooks are registered. -/
def Enacted (hooks : List η) (before after : ProcessWire η) : Prop :=
  ∀ lifetime : Lifetime Unit η, lifetime.Tracks before →
    ∃ schedule told, hooksIn schedule = hooks ∧ (lifetime.run schedule).Tracks after ∧
      endings after.notices = endings before.notices ++ told ∧
      (lifetime.run schedule).tellings = lifetime.tellings ++ told

/-- Two wires that differ in nothing that concerns the end of the process. -/
structure ProcessWire.Quiet (before after : ProcessWire η) : Prop where
  lifecycle : after.lifecycle = before.lifecycle
  vigil : after.vigil.isSome → before.vigil.isSome
  notices : endings after.notices = endings before.notices

namespace Enacted

variable {before between after : ProcessWire η} {hooks : List η}

theorem trans {more : List η} (first : Enacted hooks before between)
    (second : Enacted more between after) : Enacted (hooks ++ more) before after := by
  intro lifetime tracks
  obtain ⟨earlier, told, areHooks, reached, heard, tells⟩ := first lifetime tracks
  obtain ⟨later, toldLater, areMore, reachedLater, heardLater, tellsLater⟩ :=
    second _ reached
  refine ⟨earlier ++ later, told ++ toldLater, ?_, ?_, ?_, ?_⟩
  · rw [← areHooks, ← areMore]
    exact List.filterMap_append
  · rwa [Lifetime.run_append]
  · rw [heardLater, heard, List.append_assoc]
  · rw [Lifetime.run_append, tellsLater, tells, List.append_assoc]

theorem of_quiet (quiet : before.Quiet after) : Enacted [] before after := by
  intro lifetime tracks
  refine ⟨[], [], rfl, ⟨?_, fun isOpen => tracks.isOpen ?_,
    fun watches => tracks.vigil (quiet.vigil watches), tracks.late⟩, ?_, ?_⟩
  · exact tracks.lifecycle.trans quiet.lifecycle.symm
  · rwa [ProcessWire.status, ← quiet.lifecycle]
  · rw [quiet.notices, List.append_nil]
  · exact (List.append_nil _).symm

end Enacted

namespace ProcessWire

variable {wire before between after : ProcessWire η}

/-! ## What does not concern the end -/

theorem Quiet.refl (wire : ProcessWire η) : wire.Quiet wire :=
  ⟨rfl, id, rfl⟩

theorem Quiet.trans (first : before.Quiet between) (second : between.Quiet after) :
    before.Quiet after :=
  ⟨second.lifecycle.trans first.lifecycle, first.vigil ∘ second.vigil,
    second.notices.trans first.notices⟩

theorem quiet_withChild (change : Child → Child) (wire : ProcessWire η) :
    wire.Quiet (wire.withChild change) :=
  ⟨rfl, id, rfl⟩

private theorem endings_hearLine (sink : Option η) (line : Bytes) (heard : Heard η) :
    endings (hearLine sink line heard).notices = endings heard.notices := by
  cases sink <;> rfl

private theorem endings_hearError (sink : Option η) (heard : Heard η) (byte : UInt8) :
    endings (hearError sink heard byte).notices = endings heard.notices := by
  unfold hearError
  split
  · exact endings_hearLine _ _ _
  · rfl

private theorem endings_hearOutput (fuel : Nat) (bytes : Bytes) (heard : Heard η) :
    endings (hearOutput fuel bytes heard).notices = endings heard.notices := by
  fun_induction hearOutput fuel bytes heard with
  | case1 | case2 => rfl
  | case3 fuel bytes heard isThere piece rest split inductionHypothesis =>
      exact inductionHypothesis

private theorem endings_foldl {α : Type} {hears : Heard η → α → Heard η}
    (isQuiet : ∀ heard item, endings (hears heard item).notices = endings heard.notices)
    (items : List α) (heard : Heard η) :
    endings (items.foldl hears heard).notices = endings heard.notices := by
  induction items generalizing heard with
  | nil => rfl
  | cons item rest inductionHypothesis =>
      exact (inductionHypothesis _).trans (isQuiet heard item)

private theorem endings_hear (listens : Bool) (sink : Option η) (heard : Heard η)
    (emitted : Outlet × Bytes) :
    endings (hear listens sink heard emitted).notices = endings heard.notices := by
  obtain ⟨outlet, bytes⟩ := emitted
  cases outlet with
  | output =>
      cases listens with
      | true => exact endings_hearOutput _ _ _
      | false => rfl
  | errors => exact endings_foldl (endings_hearError sink) bytes heard

theorem endings_append (earlier later : List (Notice η)) :
    endings (earlier ++ later) = endings earlier ++ endings later :=
  List.filterMap_append

theorem endings_ended (hooks : List η) (exit : Option ExitStatus) :
    endings (hooks.map (Notice.ended · exit)) = hooks.map (·, exit) := by
  simp [endings, List.filterMap_map]

theorem quiet_take (wire : ProcessWire η) : wire.Quiet wire.take := by
  unfold take
  cases wire.child with
  | none => exact .refl wire
  | some child =>
      refine ⟨rfl, id, ?_⟩
      have heard : ∀ heard : Heard η, endings heard.notices = [] →
          endings (wire.notices ++ heard.notices.reverse) = endings wire.notices := by
        intro heard isQuiet
        have backwards : endings heard.notices.reverse = [] := by
          rw [endings, List.filterMap_reverse, ← endings, isQuiet, List.reverse_nil]
        rw [endings_append, backwards, List.append_nil]
      have folded := endings_foldl (endings_hear wire.listens wire.sink) child.takeEmitted.1
        ⟨wire.line.reverse, []⟩
      apply heard
      split
      · exact (endings_hearLine _ _ _).trans folded
      · exact folded

theorem vigil_take (wire : ProcessWire η) : wire.take.vigil = wire.vigil := by
  unfold take
  cases wire.child <;> rfl

theorem vigil_work (limit : Option Instant) (wire : ProcessWire η) :
    (wire.work limit).2.vigil = wire.vigil := by
  unfold work
  cases wire.child <;> rfl

theorem quiet_work (limit : Option Instant) (wire : ProcessWire η) :
    wire.Quiet (wire.work limit).2 := by
  unfold work
  cases wire.child with
  | none | some child => exact ⟨rfl, id, rfl⟩

/-! ## What does -/

theorem enacted_dismiss (wire : ProcessWire η) : Enacted [] wire wire.dismiss := by
  by_cases runs : wire.lifecycle.status = .running
  · intro lifetime tracks
    have nobody : lifetime.underway = [] := tracks.isOpen (by rw [status, runs]; rfl)
    have left : wire.lifecycle.leave =
        (true, { wire.lifecycle with status := .terminated none }) := by
      rw [Lifecycle.leave, runs]
    have gone : lifetime.run [.leave ()] =
        { lifetime with
          lifecycle := { wire.lifecycle with status := .terminated none }
          underway := [((), .left)] } := by
      simp [Lifetime.run, Lifetime.next, Lifetime.leave, tracks.lifecycle, left, nobody]
    refine ⟨[.leave ()], [], rfl, ?_⟩
    rw [gone, dismiss, left]
    dsimp only
    split
    all_goals
      refine ⟨⟨rfl, fun isOpen => ?_, fun _ => rfl, tracks.late⟩, (List.append_nil _).symm,
        (List.append_nil _).symm⟩
      contradiction
  · have stays : wire.lifecycle.leave = (false, wire.lifecycle) := by
      cases isStatus : wire.lifecycle.status with
      | running => exact absurd isStatus runs
      | notStarted | terminated => simp [Lifecycle.leave, isStatus]
    rw [dismiss, stays]
    exact .of_quiet (.refl wire)

theorem enacted_conclude (exit : ExitStatus) (wire : ProcessWire η)
    (watches : wire.vigil.isSome) : Enacted [] wire (wire.conclude exit) := by
  intro lifetime tracks
  have ends : lifetime.underway = [((), .left)] := tracks.vigil watches
  let freed := (wire.lifecycle.reap (some exit)).release (some exit)
  have seenOff : lifetime.run [.goOn 0 (some exit), .goOn 0 none] =
      { lifetime with
        lifecycle := freed.2
        underway := [((), .calling freed.1 (some exit))] } := by
    simp [Lifetime.run, Lifetime.next, Lifetime.goOn, ends, tracks.lifecycle, freed]
  refine ⟨[.goOn 0 (some exit), .goOn 0 none] ++
    List.replicate (freed.1.length + 1) (.goOn 0 none), freed.1.map (·, some exit), ?_, ?_⟩
  · simp [hooksIn, Turn.hook?]
  · rw [Lifetime.run_append, seenOff, Lifetime.run_calling () (some exit) none freed.1 rfl]
    refine ⟨⟨rfl, fun _ => rfl, fun watches => ?_, tracks.late⟩, ?_, ?_⟩
    · cases watches
    · exact (endings_append _ _).trans (congrArg _ (endings_ended freed.1 (some exit)))
    · simp [Lifetime.tellings, Function.comp_def]

theorem enacted_look (vigil : Vigil) (wire : ProcessWire η) (watches : wire.vigil.isSome) :
    Enacted [] wire (wire.look vigil) := by
  unfold look
  extract_lets current next isDue
  have waits : wire.Quiet current := ⟨rfl, id, rfl⟩
  split
  · exact (Enacted.of_quiet waits).trans (enacted_conclude _ current watches)
  · split
    · let killed := current.withChild Child.kill
      have kills : wire.Quiet killed := waits.trans (quiet_withChild Child.kill current)
      split
      · have taken : Enacted [] wire killed.take := .of_quiet (kills.trans (quiet_take killed))
        refine taken.trans (enacted_conclude _ killed.take ?_)
        rwa [vigil_take]
      · exact .of_quiet (kills.trans ⟨rfl, nofun, rfl⟩)
    · exact .of_quiet ⟨rfl, fun _ => watches, rfl⟩

theorem enacted_heed (wire : ProcessWire η) : Enacted [] wire wire.heed := by
  unfold heed
  split
  · exact enacted_dismiss wire
  · exact .of_quiet (.refl wire)

theorem enacted_breakOff (wire : ProcessWire η) : Enacted [] wire wire.breakOff := by
  unfold breakOff
  extract_lets given
  have gives : wire.Quiet given := ⟨rfl, id, rfl⟩
  split
  · have leaves : Enacted [] wire given.dismiss :=
      (Enacted.of_quiet gives).trans (enacted_dismiss given)
    exact leaves.trans (.of_quiet ⟨rfl, id, rfl⟩)
  · exact .of_quiet gives
  · exact .of_quiet gives

theorem enacted_handOver (hand : Child → Bytes × Child) (wire : ProcessWire η) :
    Enacted [] wire (wire.handOver hand) := by
  unfold handOver
  split
  · exact .of_quiet ⟨rfl, id, rfl⟩
  · split
    · exact enacted_breakOff wire
    · exact .of_quiet ⟨rfl, id, rfl⟩

theorem enacted_writeMore (wire : ProcessWire η) : Enacted [] wire wire.writeMore := by
  unfold writeMore
  split
  · exact enacted_handOver _ wire
  · exact .of_quiet (.refl wire)

/-! ## Operations -/

theorem enacted_proceed (limit : Option Instant) (wire : ProcessWire η) :
    Enacted [] wire (wire.proceed limit).2 := by
  let limits := Instant.earliest? limit (wire.vigil.map Vigil.looksAt)
  have works : Enacted [] wire (wire.work limits).2 := .of_quiet (quiet_work limits wire)
  have watched : (wire.work limits).2.vigil = wire.vigil := vigil_work limits wire
  rcases isWorked : wire.work limits with ⟨happens, worked⟩
  rw [isWorked] at works watched
  rw [proceed, isWorked]
  cases happens with
  | true =>
      have taken := works.trans (.of_quiet (quiet_take worked))
      exact (taken.trans (enacted_heed _)).trans (enacted_writeMore _)
  | false =>
      cases isVigil : wire.vigil with
      | none => exact works
      | some vigil =>
          dsimp only
          split
          · refine works.trans (enacted_look vigil worked ?_)
            rw [watched, isVigil]
            rfl
          · exact works

theorem enacted_waitUntil (holds : ProcessWire η → Bool) (limit : Option Instant) (fuel : Nat)
    (wire : ProcessWire η) : Enacted [] wire (waitUntil holds limit fuel wire) := by
  induction fuel generalizing wire with
  | zero => exact .of_quiet (.refl wire)
  | succ fuel inductionHypothesis =>
      have proceeds := enacted_proceed limit wire
      rw [waitUntil]
      split
      · exact .of_quiet (.refl wire)
      · rcases isNext : wire.proceed limit with ⟨_ | instant, later⟩
        · rwa [isNext] at proceeds
        · rw [isNext] at proceeds
          exact proceeds.trans (inductionHypothesis later)

theorem enacted_beginWrite (bytes : Bytes) (wire : ProcessWire η) :
    Enacted [] wire (wire.beginWrite bytes) := by
  unfold beginWrite
  extract_lets fresh
  have begins : Enacted [] wire fresh := .of_quiet ⟨rfl, id, rfl⟩
  split
  · exact .of_quiet ⟨rfl, id, rfl⟩
  · split
    · exact begins
    · exact begins.trans (enacted_handOver _ _)

theorem enacted_write (bytes : Bytes) (wire : ProcessWire η) :
    Enacted [] wire (wire.write bytes).2 := by
  unfold write
  cases wire.status with
  | notStarted | terminated exit => exact .of_quiet (.refl wire)
  | running =>
      have written := (enacted_beginWrite bytes wire).trans
        (enacted_waitUntil (·.waiting.isNone) none changes (wire.beginWrite bytes))
      dsimp only
      unfold finishWrite
      extract_lets
      split
      · exact written
      · exact written.trans (enacted_waitUntil _ _ _ _)

theorem enacted_stop (wire : ProcessWire η) : Enacted [] wire wire.stop := by
  unfold stop beginStop
  cases wire.status with
  | notStarted | terminated exit => exact .of_quiet (.refl wire)
  | running => exact (enacted_dismiss wire).trans (enacted_waitUntil _ _ _ _)

theorem enacted_start (config : Config) (wire : ProcessWire η) :
    Enacted [] wire (wire.start config).2 := by
  unfold start
  cases refused : wire.lifecycle.refusal? with
  | some failure => exact .of_quiet (.refl wire)
  | none =>
      cases Launch.child config wire.now with
      | error failure => exact .of_quiet (.refl wire)
      | ok child =>
          intro lifetime tracks
          have started : lifetime.run [.start (.ok ())] =
              { lifetime with lifecycle := wire.lifecycle.begin } := by
            simp [Lifetime.run, Lifetime.next, Lifetime.start, tracks.lifecycle, refused]
          have nobody : lifetime.underway = [] := by
            refine tracks.isOpen ?_
            unfold Lifecycle.refusal? at refused
            unfold status
            split at refused <;> simp_all [Status.isTerminated]
          refine ⟨[.start (.ok ())], [], rfl, ?_⟩
          rw [started]
          exact ⟨⟨rfl, fun _ => nobody, tracks.vigil, tracks.late⟩, (List.append_nil _).symm,
            (List.append_nil _).symm⟩

theorem enacted_onTermination (hook : η) (wire : ProcessWire η) :
    Enacted [hook] wire (wire.onTermination hook) := by
  intro lifetime tracks
  cases isTold : wire.lifecycle.told with
  | none =>
      let kept := { wire.lifecycle with hooks := wire.lifecycle.hooks ++ [hook] }
      have registered : wire.lifecycle.register hook = (none, kept) := by
        simp [Lifecycle.register, isTold, kept]
      have entered : lifetime.run [.register hook] = { lifetime with lifecycle := kept } := by
        simp [Lifetime.run, Lifetime.next, Lifetime.register, tracks.lifecycle, registered]
      refine ⟨[.register hook], [], rfl, ?_⟩
      rw [entered, onTermination, registered]
      exact ⟨⟨rfl, tracks.isOpen, tracks.vigil, tracks.late⟩, (List.append_nil _).symm,
        (List.append_nil _).symm⟩
  | some exit =>
      have registered : wire.lifecycle.register hook = (some exit, wire.lifecycle) := by
        rw [Lifecycle.register, isTold]
      have called : lifetime.run [.register hook, .callLate 0] = lifetime.call hook exit := by
        have same : { lifetime with lifecycle := wire.lifecycle, late := [] } = lifetime := by
          rw [← tracks.lifecycle, ← tracks.late]
        simpa [Lifetime.run, Lifetime.next, Lifetime.register, Lifetime.callLate,
          tracks.lifecycle, registered, tracks.late] using congrArg (Lifetime.call hook exit) same
      refine ⟨[.register hook, .callLate 0], [(hook, exit)], rfl, ?_⟩
      rw [called, onTermination, registered]
      refine ⟨⟨tracks.lifecycle, tracks.isOpen, tracks.vigil, tracks.late⟩, ?_, ?_⟩
      · exact endings_append wire.notices [.ended hook exit]
      · simp [Lifetime.tellings, Lifetime.call]

end ProcessWire

/-! ## Any number of operations -/

/-- What the user of a wire may do, and time that goes on. -/
inductive Operation (η : Type) where
  | start (config : Config)
  | write (bytes : Bytes)
  | stop
  | onTermination (hook : η)
  | onErrors (sink : η)
  | listen
  | proceed (limit : Option Instant)

namespace Operation

def apply (wire : ProcessWire η) : Operation η → ProcessWire η
  | .start config => (wire.start config).2
  | .write bytes => (wire.write bytes).2
  | .stop => wire.stop
  | .onTermination hook => wire.onTermination hook
  | .onErrors sink => wire.onErrors sink
  | .listen => wire.listen
  | .proceed limit => (wire.proceed limit).2

def hook? : Operation η → Option η
  | .onTermination hook => some hook
  | _ => none

theorem enacted (operation : Operation η) (wire : ProcessWire η) :
    Enacted operation.hook?.toList wire (operation.apply wire) := by
  cases operation with
  | start config => exact wire.enacted_start config
  | write bytes => exact wire.enacted_write bytes
  | stop => exact wire.enacted_stop
  | onTermination hook => exact wire.enacted_onTermination hook
  | onErrors | listen => exact .of_quiet ⟨rfl, id, rfl⟩
  | proceed limit => exact wire.enacted_proceed limit

theorem enacted_all (operations : List (Operation η)) (wire : ProcessWire η) :
    Enacted (operations.filterMap hook?) wire (operations.foldl apply wire) := by
  induction operations generalizing wire with
  | nil => exact .of_quiet (.refl wire)
  | cons operation rest inductionHypothesis =>
      have whole := (operation.enacted wire).trans (inductionHypothesis (operation.apply wire))
      cases isHook : operation.hook? <;> simpa [List.filterMap_cons, isHook] using whole

/-- What holds of threads holds of a wire: no hook is told of the end twice, and whoever is told
hears what is to be seen of the process. -/
theorem endings_after (operations : List (Operation η)) :
    let wire := operations.foldl apply ProcessWire.new
    ((endings wire.notices).map Prod.fst).Subperm (operations.filterMap hook?) ∧
      ∀ ending ∈ endings wire.notices, wire.status = .terminated ending.2 := by
  intro wire
  obtain ⟨schedule, told, hooks, tracks, heard, tells⟩ :=
    enacted_all operations ProcessWire.new Lifetime.new ⟨rfl, fun _ => rfl, nofun, rfl⟩
  have consistent := @Lifetime.consistent_run Unit η schedule
  let reached := (Lifetime.new : Lifetime Unit η).run schedule
  have told : endings wire.notices = reached.tellings := heard.trans tells.symm
  constructor
  · have hooksCalled : reached.tellings.map Prod.fst = reached.called := by
      simp [Lifetime.tellings, Lifetime.called, Function.comp_def]
    rw [told, hooksCalled, ← hooks]
    exact consistent.called_subperm
  · intro ending isEnding
    rw [told] at isEnding
    obtain ⟨call, isCall, rfl⟩ := List.mem_map.mp isEnding
    have seen := consistent.status_of_call call isCall
    rwa [Lifetime.status, tracks.lifecycle] at seen

end Operation

end RpcEndpoint
