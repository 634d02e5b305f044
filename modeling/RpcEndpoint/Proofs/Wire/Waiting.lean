import Mathlib.Data.List.Basic
import RpcEndpoint.Wire.Memory

/-!
# What a wait comes to

Whether the caller goes down is settled before it looks for the first time. Otherwise it comes back
from the first look that finds enough writes or comes late, with the writes there are by then.
-/

namespace RpcEndpoint

/-! ## What has happened meanwhile -/

namespace Happening

/-- The writes that are accepted while all this happens. -/
def accepted : Option WireFailure → List Happening → List Bytes
  | none, .write bytes :: later => bytes :: accepted none later
  | _, .refuse refusal :: later => accepted refusal later
  | refusal, _ :: later => accepted refusal later
  | _, [] => []

/-- How long all this takes, in nanoseconds. -/
def elapsed : List Happening → Nat
  | .pass duration :: later => duration.nanoseconds + elapsed later
  | _ :: later => elapsed later
  | [] => 0

theorem elapsed_append (earlier later : List Happening) :
    elapsed (earlier ++ later) = elapsed earlier + elapsed later := by
  induction earlier with
  | nil =>
      simp [elapsed]
  | cons happening earlier inductionHypothesis =>
      cases happening with
      | pass duration =>
          simp [elapsed, inductionHypothesis, Nat.add_assoc]
      | write | refuse | wake =>
          simpa [elapsed] using inductionHypothesis

end Happening

namespace Watch

open Happening

variable {ρ : Type} {watch : Watch ρ} {happening : Happening} {happenings : List Happening}
  {deadline : Instant}

@[simp]
theorem run_cons (watch : Watch ρ) (happening : Happening) (later : List Happening) :
    watch.run (happening :: later) = (watch.step happening).run later :=
  rfl

@[simp]
theorem run_append (watch : Watch ρ) (earlier later : List Happening) :
    watch.run (earlier ++ later) = (watch.run earlier).run later :=
  List.foldl_append

@[simp]
theorem count_step (watch : Watch ρ) (happening : Happening) :
    (watch.step happening).count = watch.count := by
  cases happening <;> rfl

@[simp]
theorem count_run (watch : Watch ρ) (happenings : List Happening) :
    (watch.run happenings).count = watch.count := by
  induction happenings generalizing watch with
  | nil => rfl
  | cons happening later inductionHypothesis =>
      rw [run_cons, inductionHypothesis, count_step]

/-- The wire takes what is written to it, whoever waits. -/
theorem writes_run (watch : Watch ρ) (happenings : List Happening) :
    (watch.run happenings).wire.writes =
      watch.wire.writes ++ accepted watch.wire.refusal happenings := by
  induction happenings generalizing watch with
  | nil =>
      simp [run, accepted]
  | cons happening later inductionHypothesis =>
      rw [run_cons, inductionHypothesis]
      cases happening with
      | write bytes =>
          cases isRefused : watch.wire.refusal with
          | none =>
              simp [step, MemoryWire.write, isRefused, accepted]
          | some failure =>
              simp [step, MemoryWire.write, isRefused, accepted]
      | refuse refusal =>
          simp [step, MemoryWire.setRefusal, accepted]
      | pass duration =>
          simp [step, accepted]
      | wake =>
          simp [step, accepted]

theorem now_run (watch : Watch ρ) (happenings : List Happening) :
    (watch.run happenings).now.nanoseconds = watch.now.nanoseconds + elapsed happenings := by
  induction happenings generalizing watch with
  | nil =>
      rfl
  | cons happening later inductionHypothesis =>
      rw [run_cons, inductionHypothesis]
      cases happening with
      | pass duration =>
          simp [step, Instant.plus, elapsed, Nat.add_assoc]
      | write | refuse | wake =>
          rfl

/-! ## Looks -/

/-- A look comes back: there are enough writes, or the deadline has come. -/
def Settled (deadline : Instant) (watch : Watch ρ) : Prop :=
  watch.count ≤ watch.wire.writes.length ∨ deadline.nanoseconds ≤ watch.now.nanoseconds

theorem look_of_settled (settled : watch.Settled deadline) :
    watch.look deadline = .back watch.wire.writes := by
  unfold look
  split
  · rfl
  · rename_i few
    have late : deadline.nanoseconds - watch.now.nanoseconds = 0 :=
      Nat.sub_eq_zero_of_le (settled.resolve_left few)
    rw [if_pos late]

theorem look_of_not_settled (unsettled : ¬ watch.Settled deadline) :
    ∃ longest, watch.look deadline = .asleep deadline watch.now longest ∧
      0 < longest.nanoseconds ∧ watch.now.plus longest = deadline := by
  obtain ⟨few, early⟩ := not_or.mp unsettled
  have ahead : deadline.nanoseconds - watch.now.nanoseconds ≠ 0 := by omega
  refine ⟨⟨deadline.nanoseconds - watch.now.nanoseconds⟩, ?_, Nat.pos_of_ne_zero ahead, ?_⟩
  · rw [look, if_neg few]
    exact if_neg ahead
  · rw [Instant.plus, Nat.add_sub_cancel' (by omega)]

/-- Only a look changes where the caller stands, and only as long as it waits. -/
theorem waiter_step (watch : Watch ρ) (happening : Happening) :
    (watch.step happening).waiter = watch.waiter ∨
      happening = .wake ∧ ∃ deadline, watch.waiter.deadline? = some deadline ∧
        (watch.step happening).waiter = watch.look deadline := by
  cases happening with
  | write | refuse | pass =>
      exact .inl rfl
  | wake =>
      cases waits : watch.waiter.deadline? with
      | none =>
          left
          simp [step, waits]
      | some deadline =>
          exact .inr ⟨rfl, deadline, rfl, by simp [step, waits]⟩

theorem waiter_run_of_over (isOver : watch.waiter.deadline? = none) :
    (watch.run happenings).waiter = watch.waiter := by
  induction happenings generalizing watch with
  | nil => rfl
  | cons happening later inductionHypothesis =>
      have same : (watch.step happening).waiter = watch.waiter := by
        rcases waiter_step watch happening with same | ⟨-, deadline, waits, -⟩
        · exact same
        · rw [isOver] at waits
          contradiction
      rw [run_cons, inductionHypothesis (same ▸ isOver), same]

/-- None of the looks comes back. -/
def Unsettled (deadline : Instant) (watch : Watch ρ) (happenings : List Happening) : Prop :=
  ∀ earlier later, happenings = earlier ++ .wake :: later →
    ¬ (watch.run earlier).Settled deadline

theorem unsettled_nil : watch.Unsettled deadline [] := by
  intro earlier later isEmpty
  simp at isEmpty

theorem unsettled_cons :
    watch.Unsettled deadline (happening :: happenings) ↔
      (happening = .wake → ¬ watch.Settled deadline) ∧
        (watch.step happening).Unsettled deadline happenings := by
  constructor
  · intro unsettled
    refine ⟨?_, ?_⟩
    · rintro rfl
      exact unsettled [] happenings rfl
    · rintro earlier later rfl
      exact unsettled (happening :: earlier) later rfl
  · rintro ⟨here, later⟩ earlier behind isSplit
    cases earlier with
    | nil =>
        obtain ⟨isWake, -⟩ := List.cons.inj isSplit
        exact here isWake
    | cons first earlier =>
        obtain ⟨rfl, isRest⟩ := List.cons.inj isSplit
        exact later earlier behind isRest

/-- As long as no look comes back, the caller waits for the same deadline, and its sleep ends there
at the latest. -/
def Waits (deadline : Instant) (waiter : Waiter) : Prop :=
  waiter = .ready deadline ∨
    ∃ since longest, waiter = .asleep deadline since longest ∧ 0 < longest.nanoseconds ∧
      since.plus longest = deadline

theorem Waits.deadline? {waiter : Waiter} (waits : Waits deadline waiter) :
    waiter.deadline? = some deadline := by
  rcases waits with rfl | ⟨since, longest, rfl, -⟩
  · rfl
  · rfl

theorem waits_step
    (waits : Waits deadline watch.waiter)
    (unsettled : happening = .wake → ¬ watch.Settled deadline) :
    Waits deadline (watch.step happening).waiter := by
  rcases waiter_step watch happening with same | ⟨isWake, found, isFound, looked⟩
  · rwa [same]
  · obtain rfl : deadline = found := Option.some.inj (waits.deadline?.symm.trans isFound)
    obtain ⟨longest, sleeps, positive, ends⟩ := look_of_not_settled (unsettled isWake)
    exact .inr ⟨watch.now, longest, looked.trans sleeps, positive, ends⟩

theorem waits_run
    (waits : Waits deadline watch.waiter) (unsettled : watch.Unsettled deadline happenings) :
    Waits deadline (watch.run happenings).waiter := by
  induction happenings generalizing watch with
  | nil =>
      exact waits
  | cons happening later inductionHypothesis =>
      obtain ⟨here, behind⟩ := unsettled_cons.mp unsettled
      exact inductionHypothesis (waits_step waits here) behind

/-- The first look that settles the wait ends it. -/
theorem waiter_run_of_settled
    {earlier later : List Happening} (waits : Waits deadline watch.waiter)
    (unsettled : watch.Unsettled deadline earlier)
    (settled : (watch.run earlier).Settled deadline) :
    (watch.run (earlier ++ .wake :: later)).waiter = .back (watch.run earlier).wire.writes := by
  have isBack :
      ((watch.run earlier).step .wake).waiter = .back (watch.run earlier).wire.writes := by
    rw [← look_of_settled settled]
    simp [step, (waits_run waits unsettled).deadline?]
  rw [run_append, run_cons, waiter_run_of_over (isBack ▸ rfl), isBack]

/-- Either no look settles the wait, or one of them is the first that does. -/
theorem unsettled_or_first_settled (watch : Watch ρ) (deadline : Instant)
    (happenings : List Happening) :
    watch.Unsettled deadline happenings ∨
      ∃ earlier later, happenings = earlier ++ .wake :: later ∧
        watch.Unsettled deadline earlier ∧ (watch.run earlier).Settled deadline := by
  induction happenings generalizing watch with
  | nil =>
      exact .inl unsettled_nil
  | cons happening later inductionHypothesis =>
      by_cases here : happening = .wake ∧ watch.Settled deadline
      · obtain ⟨rfl, settled⟩ := here
        exact .inr ⟨[], later, rfl, unsettled_nil, settled⟩
      · have notHere : happening = .wake → ¬ watch.Settled deadline := not_and.mp here
        rcases inductionHypothesis (watch.step happening) with
          unsettled | ⟨earlier, behind, rfl, unsettled, settled⟩
        · exact .inl (unsettled_cons.mpr ⟨notHere, unsettled⟩)
        · exact .inr ⟨happening :: earlier, behind, rfl,
            unsettled_cons.mpr ⟨notHere, unsettled⟩, settled⟩

/-! ## The call -/

/-- The chunks there are once all this has happened. -/
def chunksAfter (wire : MemoryWire ρ) (happenings : List Happening) : List Bytes :=
  wire.writes ++ accepted wire.refusal happenings

/-- Once all this has happened there are enough chunks, or the timeout has elapsed. -/
def EnoughOrLate (wire : MemoryWire ρ) (count : Nat) (timeout : Duration)
    (happenings : List Happening) : Prop :=
  count ≤ (chunksAfter wire happenings).length ∨ timeout.nanoseconds ≤ elapsed happenings

/-- It was neither so at any of the looks. -/
def NeverEnoughOrLate (wire : MemoryWire ρ) (count : Nat) (timeout : Duration)
    (happenings : List Happening) : Prop :=
  ∀ earlier later, happenings = earlier ++ .wake :: later →
    ¬ EnoughOrLate wire count timeout earlier

section Call

variable {wire : MemoryWire ρ} {now : Instant} {count : Nat} {timeout : Duration}

theorem waiter_begin_of_unshown
    (unshown : Instant.bound ≤ now.nanoseconds + timeout.nanoseconds) :
    (begin wire now count timeout).waiter = .lost := by
  simp [begin, Instant.after?, Nat.not_lt.mpr unshown]

theorem waits_begin (shown : now.nanoseconds + timeout.nanoseconds < Instant.bound) :
    Waits (now.plus timeout) (begin wire now count timeout).waiter := by
  left
  simp [begin, Instant.after?, shown, Instant.plus]

theorem writes_run_begin :
    ((begin wire now count timeout).run happenings).wire.writes = chunksAfter wire happenings :=
  writes_run _ happenings

theorem settled_run_begin :
    ((begin wire now count timeout).run happenings).Settled (now.plus timeout) ↔
      EnoughOrLate wire count timeout happenings := by
  have isLate : (now.plus timeout).nanoseconds ≤ now.nanoseconds + elapsed happenings ↔
      timeout.nanoseconds ≤ elapsed happenings :=
    Nat.add_le_add_iff_left
  rw [Settled, count_run, writes_run_begin, now_run]
  exact or_congr Iff.rfl isLate

theorem unsettled_begin :
    (begin wire now count timeout).Unsettled (now.plus timeout) happenings ↔
      NeverEnoughOrLate wire count timeout happenings := by
  simp only [Unsettled, NeverEnoughOrLate, settled_run_begin]

/-- A caller whose deadline can be shown waits or has come back. -/
theorem waits_or_back (wire : MemoryWire ρ) (count : Nat)
    (shown : now.nanoseconds + timeout.nanoseconds < Instant.bound)
    (happenings : List Happening) :
    (NeverEnoughOrLate wire count timeout happenings ∧
      Waits (now.plus timeout) ((begin wire now count timeout).run happenings).waiter) ∨
    ∃ earlier later, happenings = earlier ++ .wake :: later ∧
      EnoughOrLate wire count timeout earlier ∧ NeverEnoughOrLate wire count timeout earlier ∧
      ((begin wire now count timeout).run happenings).waiter =
        .back (chunksAfter wire earlier) := by
  rcases unsettled_or_first_settled (begin wire now count timeout) (now.plus timeout) happenings
    with unsettled | ⟨earlier, later, rfl, unsettled, settled⟩
  · exact .inl ⟨unsettled_begin.mp unsettled, waits_run (waits_begin shown) unsettled⟩
  · refine .inr
      ⟨earlier, later, rfl, settled_run_begin.mp settled, unsettled_begin.mp unsettled, ?_⟩
    rw [waiter_run_of_settled (waits_begin shown) unsettled settled, writes_run_begin]

/-- The caller has come back just when one of the looks was the first to find what it waits for. -/
theorem back_iff (shown : now.nanoseconds + timeout.nanoseconds < Instant.bound)
    {writes : List Bytes} :
    ((begin wire now count timeout).run happenings).waiter = .back writes ↔
      ∃ earlier later, happenings = earlier ++ .wake :: later ∧
        EnoughOrLate wire count timeout earlier ∧ NeverEnoughOrLate wire count timeout earlier ∧
        writes = chunksAfter wire earlier := by
  constructor
  · intro isBack
    rcases waits_or_back wire count shown happenings with
      ⟨-, waits⟩ | ⟨earlier, later, isSplit, settled, unsettled, same⟩
    · have notOver := waits.deadline?
      rw [isBack] at notOver
      contradiction
    · rw [isBack] at same
      exact ⟨earlier, later, isSplit, settled, unsettled, Waiter.back.inj same⟩
  · rintro ⟨earlier, later, rfl, settled, unsettled, rfl⟩
    rw [waiter_run_of_settled (waits_begin shown) (unsettled_begin.mpr unsettled)
      (settled_run_begin.mpr settled), writes_run_begin]

theorem waits_iff (shown : now.nanoseconds + timeout.nanoseconds < Instant.bound) :
    Waits (now.plus timeout) ((begin wire now count timeout).run happenings).waiter ↔
      NeverEnoughOrLate wire count timeout happenings := by
  constructor
  · intro waits
    rcases waits_or_back wire count shown happenings
      with ⟨unsettled, -⟩ | ⟨earlier, later, -, -, -, isBack⟩
    · exact unsettled
    · have notOver := waits.deadline?
      rw [isBack] at notOver
      contradiction
  · intro unsettled
    exact waits_run (waits_begin shown) (unsettled_begin.mpr unsettled)

/-- Once there is what the caller waits for, one more look is enough. -/
theorem back_of_enoughOrLate (shown : now.nanoseconds + timeout.nanoseconds < Instant.bound)
    (settled : EnoughOrLate wire count timeout happenings) :
    ∃ writes, (((begin wire now count timeout).run happenings).step .wake).waiter =
      .back writes := by
  have isRun : ((begin wire now count timeout).run happenings).step .wake =
      (begin wire now count timeout).run (happenings ++ [.wake]) := by
    rw [run_append]
    rfl
  rcases waits_or_back wire count shown happenings
    with ⟨unsettled, -⟩ | ⟨earlier, later, rfl, enough, first, -⟩
  · rw [isRun]
    exact ⟨_, (back_iff shown).mpr ⟨happenings, [], rfl, settled, unsettled, rfl⟩⟩
  · rw [isRun, List.append_assoc]
    exact ⟨_, (back_iff shown).mpr ⟨earlier, later ++ [.wake], rfl, enough, first, rfl⟩⟩

end Call

/-- Whatever is written, however time passes and however often the caller is woken: if the clock can
show the deadline, it comes back from its first look at which there are enough chunks or the timeout
has elapsed, with all chunks there are by then, and it comes back from no other look. Until then it
waits, and each sleep ends at the deadline at the latest. So it comes back with fewer chunks only
when the timeout has elapsed; and once there are enough, or once it has, the caller needs to be
woken once more at the most. If the clock cannot show the deadline, the caller goes down, whatever
the wire holds. -/
theorem wait_ends_with_enough_or_late
    (wire : MemoryWire ρ) (now : Instant) (count : Nat) (timeout : Duration)
    (happenings : List Happening) :
    let reached := (begin wire now count timeout).run happenings
    reached.wire.writes = chunksAfter wire happenings ∧
      (reached.waiter = .lost ↔ Instant.bound ≤ now.nanoseconds + timeout.nanoseconds) ∧
      (now.nanoseconds + timeout.nanoseconds < Instant.bound →
        (∀ writes, reached.waiter = .back writes ↔
          ∃ earlier later, happenings = earlier ++ .wake :: later ∧
            EnoughOrLate wire count timeout earlier ∧
            NeverEnoughOrLate wire count timeout earlier ∧
            writes = chunksAfter wire earlier) ∧
        (Waits (now.plus timeout) reached.waiter ↔
          NeverEnoughOrLate wire count timeout happenings) ∧
        (∀ writes, reached.waiter = .back writes → writes.length < count →
          timeout.nanoseconds ≤ elapsed happenings) ∧
        (EnoughOrLate wire count timeout happenings →
          ∃ writes, (reached.step .wake).waiter = .back writes)) := by
  refine ⟨writes_run_begin, ⟨?_, ?_⟩, ?_⟩
  · intro isLost
    by_contra shown
    rcases waits_or_back wire count (Nat.lt_of_not_le shown) happenings with
      ⟨-, waits⟩ | ⟨earlier, later, -, -, -, isBack⟩
    · have notOver := waits.deadline?
      rw [isLost] at notOver
      contradiction
    · rw [isLost] at isBack
      contradiction
  · intro unshown
    have isLost : (begin wire now count timeout).waiter = .lost := waiter_begin_of_unshown unshown
    exact (waiter_run_of_over (isLost ▸ rfl)).trans isLost
  · intro shown
    refine ⟨fun writes => back_iff shown, waits_iff shown, ?_, back_of_enoughOrLate shown⟩
    intro writes isBack few
    obtain ⟨earlier, later, rfl, settled, -, rfl⟩ := (back_iff shown).mp isBack
    have late : timeout.nanoseconds ≤ elapsed earlier :=
      settled.resolve_left (Nat.not_le.mpr few)
    rw [elapsed_append]
    exact Nat.le_add_right_of_le late

/-- Woken too early, the caller sleeps on; it comes back with what was accepted up to its second
look, or else at its deadline with the one chunk there is. -/
theorem second_look_ends_the_wait :
    let watch : Watch Unit := begin .new ⟨5⟩ 2 ⟨20⟩
    let busy : List Happening :=
      [.write [1], .wake, .refuse (some .closed), .write [2], .refuse none, .write [3], .wake]
    let idle : List Happening := [.write [1], .pass ⟨19⟩, .wake, .pass ⟨1⟩]
    (watch.run busy).waiter = .back [[1], [3]] ∧
      (∃ earlier later, busy = earlier ++ .wake :: later ∧
        EnoughOrLate (.new : MemoryWire Unit) 2 ⟨20⟩ earlier ∧
        NeverEnoughOrLate (.new : MemoryWire Unit) 2 ⟨20⟩ earlier ∧
        [[1], [3]] = chunksAfter (.new : MemoryWire Unit) earlier) ∧
      Waits ⟨25⟩ (watch.run idle).waiter ∧
      ∃ writes, ((watch.run idle).step .wake).waiter = .back writes := by
  intro watch busy idle
  have shown : (5 : Nat) + 20 < Instant.bound := by decide
  obtain ⟨comesBack, -, -, -⟩ :=
    (wait_ends_with_enough_or_late (.new : MemoryWire Unit) ⟨5⟩ 2 ⟨20⟩ busy).2.2 shown
  obtain ⟨-, -, -, atLast⟩ :=
    (wait_ends_with_enough_or_late (.new : MemoryWire Unit) ⟨5⟩ 2 ⟨20⟩ idle).2.2 shown
  refine ⟨rfl, (comesBack [[1], [3]]).mp rfl, ?_, atLast (.inr (by decide))⟩
  exact .inr ⟨⟨24⟩, ⟨1⟩, rfl, by decide, rfl⟩

/-- The longest timeout cannot be added to any time, so the caller goes down although the chunk it
waits for is there. -/
theorem longest_wait_is_lost :
    ((MemoryWire.new : MemoryWire Unit).write [97]).2.writes.length = 1 ∧
      ¬ ∃ happenings writes,
        ((begin ((MemoryWire.new : MemoryWire Unit).write [97]).2 ⟨0⟩ 1 .greatest).run
          happenings).waiter = .back writes := by
  refine ⟨rfl, ?_⟩
  rintro ⟨happenings, writes, isBack⟩
  have isLost : (begin ((MemoryWire.new : MemoryWire Unit).write [97]).2 ⟨0⟩ 1 .greatest).waiter =
      .lost :=
    waiter_begin_of_unshown (by decide)
  rw [waiter_run_of_over (isLost ▸ rfl), isLost] at isBack
  contradiction

end Watch

end RpcEndpoint
