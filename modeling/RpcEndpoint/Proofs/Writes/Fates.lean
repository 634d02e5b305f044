import RpcEndpoint.Proofs.Schedule.Turn
import RpcEndpoint.Proofs.Writes.Receipts

/-!
# What a sender is told

A call that sends a notification and waits comes back once, and what it comes back with is what the
wire has said, if the notification was offered to it. It always can come back: the worker alone gets
to the notification, or stops before.
-/

namespace RpcEndpoint

open Connection

variable {app : Application} {ω : Type}

/-! ## Values with a number -/

/-- The values that have a number. -/
def valuesOf {α : Type} (number : Nat) (pairs : List (Nat × α)) : List α :=
  pairs.filterMap fun pair => if pair.1 = number then some pair.2 else none

section Values

variable {α β : Type} {number : Nat} {pairs : List (Nat × α)}

theorem valuesOf_append (left right : List (Nat × α)) :
    valuesOf number (left ++ right) = valuesOf number left ++ valuesOf number right :=
  List.filterMap_append

theorem valuesOf_reverse (pairs : List (Nat × α)) :
    valuesOf number pairs.reverse = (valuesOf number pairs).reverse :=
  List.filterMap_reverse

theorem valuesOf_map (f : α → β) (pairs : List (Nat × α)) :
    valuesOf number (pairs.map fun pair => (pair.1, f pair.2)) = (valuesOf number pairs).map f := by
  rw [valuesOf, valuesOf, List.filterMap_map, List.map_filterMap]
  refine List.filterMap_congr fun pair _ => ?_
  by_cases isNumber : pair.1 = number
  · simp [isNumber]
  · simp [isNumber]

theorem valuesOf_eq_nil (absent : number ∉ pairs.map Prod.fst) : valuesOf number pairs = [] := by
  refine List.filterMap_eq_nil_iff.mpr fun pair isPair => if_neg ?_
  rintro rfl
  exact absent (List.mem_map_of_mem isPair)

/-- When no number comes twice, one has its one value. -/
theorem valuesOf_of_mem
    {value : α} (distinct : (pairs.map Prod.fst).Nodup) (isPair : (number, value) ∈ pairs) :
    valuesOf number pairs = [value] := by
  obtain ⟨earlier, later, rfl⟩ := List.append_of_mem isPair
  rw [List.map_append, List.map_cons] at distinct
  have apart := List.nodup_middle.mp distinct
  have absent := (List.nodup_cons.mp apart).1
  rw [List.mem_append, not_or] at absent
  have here : valuesOf number [(number, value)] = [value] := by
    simp [valuesOf]
  rw [List.append_cons, valuesOf_append, valuesOf_append, valuesOf_eq_nil absent.1,
    valuesOf_eq_nil absent.2, here]
  rfl

end Values

/-! ## One call -/

/-- What is reported under a number. -/
def Connection.fatesOf (receipt : Nat) (connection : Connection app ω) :
    List (Except Failure Unit) :=
  valuesOf receipt connection.receipts

/-- The verdicts on the notification whose fate is reported under a number. -/
def Machine.verdictsOf [Wire ω]
    (receipt : Nat) (machine : Machine app ω) (schedule : List (Choice app ω)) : List Verdict :=
  valuesOf receipt (verdictsIn (machine.entries schedule))

/-- How the notification of a call stands. -/
inductive Standing (message : Outgoing) (fates : List (Except Failure Unit))
    (verdicts : List Verdict) (machine : Machine app ω) : Prop where
  /-- The worker has not come to the notification, and has not stopped either. -/
  | waiting
      (noFate : fates = [])
      (noVerdict : verdicts = [])
      (isRunning : machine.connection.running = true)
  | accepted
      (fate : fates = [.ok ()])
      (verdict : verdicts = [⟨message, .accepted⟩])
  | refused (failure : WireFailure)
      (fate : fates = [.error (.wire failure)])
      (verdict : verdicts = [⟨message, .refused failure⟩])
  /-- The connection was closed, for a reason with which this was ordered. -/
  | dropped (failure : Failure)
      (fate : fates = [.error failure])
      (verdict : verdicts = [⟨message, .dropped failure⟩])
      (ordered : .order (.close failure) ∈ machine.taken)
  /-- The worker has stopped before it came to the notification. -/
  | lost
      (fate : fates = [.error .closed])
      (noVerdict : verdicts = [])
      (hasStopped : machine.connection.running = false)

/-- A success is told of what was accepted, and of nothing else. -/
theorem Standing.truthful
    {message : Outgoing} {fates : List (Except Failure Unit)} {verdicts : List Verdict}
    {machine : Machine app ω} (standing : Standing message fates verdicts machine) :
    fates = [.ok ()] ↔ verdicts = [⟨message, .accepted⟩] := by
  cases standing <;> simp_all

namespace Receipted

variable {issued : List Slip} {entries : List Entry} {losses : List Slip} {machine : Machine app ω}
  {slip : Slip}

theorem verdictsIn_numbers (entries : List Entry) :
    (verdictsIn entries).map Prod.fst = (slipsIn entries).map (·.receipt) := by
  rw [verdictsIn, slipsIn, List.map_filterMap, List.map_filterMap]
  refine List.filterMap_congr fun entry _ => ?_
  rw [Option.map_map]
  rfl

/-- No number is given out twice, and each is at one place. -/
private theorem distinct (receipted : Receipted issued entries losses machine) :
    ((verdictsIn entries).map Prod.fst ++
      ((slipsOf machine.agenda).map (·.receipt) ++
        (losses.map (·.receipt) ++ machine.connection.slips.map (·.receipt)))).Nodup := by
  have numbers := congrArg (List.map (·.receipt)) receipted.slips
  simp only [List.map_append, receipted.numbered, ← verdictsIn_numbers] at numbers
  change _ ++ (_ ++ (_ ++ machine.connection.slips.map (·.receipt))) = _ at numbers
  rw [numbers]
  exact List.nodup_range

private theorem fatesOf_eq
    (receipted : Receipted issued entries losses machine) (receipt : Nat) :
    machine.connection.fatesOf receipt =
      (valuesOf receipt (losses.map fun lost => (lost.receipt, .error .closed))).reverse ++
        ((valuesOf receipt (verdictsIn entries)).map (·.ruling.fate)).reverse := by
  have receipts : machine.connection.receipts = _ := receipted.receipts
  rw [Connection.fatesOf, receipts, loseSlips_eq, valuesOf_append, valuesOf_reverse,
    valuesOf_reverse, fatesIn, valuesOf_map fun verdict : Verdict => verdict.ruling.fate]

private theorem lost_numbers (losses : List Slip) :
    (losses.map fun lost => (lost.receipt, (.error .closed : Except Failure Unit))).map Prod.fst =
      losses.map (·.receipt) := by
  rw [List.map_map]
  rfl

/-- A notification that has its verdict. -/
theorem ruled
    (receipted : Receipted issued entries losses machine) {entry : Entry}
    (isEntry : entry ∈ entries) (isSlip : entry.slip = some slip) :
    valuesOf slip.receipt (verdictsIn entries) = [entry.verdict] ∧
      machine.connection.fatesOf slip.receipt = [entry.verdict.ruling.fate] := by
  have distinct := receipted.distinct
  have isRuled : (slip.receipt, entry.verdict) ∈ verdictsIn entries := by
    refine List.mem_filterMap.mpr ⟨entry, isEntry, ?_⟩
    rw [isSlip]
    rfl
  have verdicts := valuesOf_of_mem distinct.of_append_left isRuled
  refine ⟨verdicts, ?_⟩
  rw [receipted.fatesOf_eq, verdicts, valuesOf_eq_nil]
  · rfl
  · rw [lost_numbers]
    intro isLost
    refine List.disjoint_of_nodup_append distinct (List.mem_map_of_mem isRuled) ?_
    exact List.mem_append_right _ (List.mem_append_left _ isLost)

/-- A notification that is lost. -/
theorem unheard
    (receipted : Receipted issued entries losses machine) (isLost : slip ∈ losses) :
    valuesOf slip.receipt (verdictsIn entries) = [] ∧
      machine.connection.fatesOf slip.receipt = [.error .closed] := by
  have distinct := receipted.distinct
  have isNumber : slip.receipt ∈ losses.map (·.receipt) := List.mem_map_of_mem isLost
  have verdicts : valuesOf slip.receipt (verdictsIn entries) = [] := by
    refine valuesOf_eq_nil fun isRuled => ?_
    refine List.disjoint_of_nodup_append distinct isRuled ?_
    exact List.mem_append_right _ (List.mem_append_left _ isNumber)
  have lostOnce : valuesOf slip.receipt
      (losses.map fun lost => (lost.receipt, (.error .closed : Except Failure Unit))) =
        [.error .closed] := by
    refine valuesOf_of_mem ?_ (List.mem_map.mpr ⟨slip, isLost, rfl⟩)
    rw [lost_numbers]
    exact distinct.of_append_right.of_append_right.of_append_left
  refine ⟨verdicts, ?_⟩
  rw [receipted.fatesOf_eq, verdicts, lostOnce]
  rfl

/-- A notification that is before the worker or in the inbox. -/
theorem unsettled
    (receipted : Receipted issued entries losses machine)
    (isWaiting : slip ∈ slipsOf machine.agenda ∨ slip ∈ machine.connection.slips) :
    valuesOf slip.receipt (verdictsIn entries) = [] ∧
      machine.connection.fatesOf slip.receipt = [] := by
  have distinct := receipted.distinct
  have unruled : slip.receipt ∉ (verdictsIn entries).map Prod.fst := by
    intro isRuled
    refine List.disjoint_of_nodup_append distinct isRuled ?_
    rcases isWaiting with isAhead | isInside
    · exact List.mem_append_left _ (List.mem_map_of_mem isAhead)
    · exact List.mem_append_right _ (List.mem_append_right _ (List.mem_map_of_mem isInside))
  have unlost : slip.receipt ∉ losses.map (·.receipt) := by
    intro isLost
    have others := distinct.of_append_right
    rcases isWaiting with isAhead | isInside
    · exact List.disjoint_of_nodup_append others (List.mem_map_of_mem isAhead)
        (List.mem_append_left _ isLost)
    · exact List.disjoint_of_nodup_append others.of_append_right isLost
        (List.mem_map_of_mem isInside)
  have verdicts := valuesOf_eq_nil unruled
  refine ⟨verdicts, ?_⟩
  rw [receipted.fatesOf_eq, verdicts, valuesOf_eq_nil]
  · rfl
  · rwa [lost_numbers]

/-- A notification somebody waits for has its verdict, is lost, or waits. -/
theorem places
    (receipted : Receipted issued entries losses machine) (isIssued : slip ∈ issued) :
    (∃ entry ∈ entries, entry.slip = some slip) ∨ slip ∈ losses ∨
      slip ∈ slipsOf machine.agenda ∨ slip ∈ machine.connection.slips := by
  rw [← receipted.slips] at isIssued
  simp only [List.mem_append] at isIssued
  rcases isIssued with isRuled | isAhead | isLost | isInside
  · exact .inl (List.mem_filterMap.mp isRuled)
  · exact .inr (.inr (.inl isAhead))
  · exact .inr (.inl isLost)
  · exact .inr (.inr (.inr isInside))

/-- Of a machine whose worker has stopped, nobody waits. -/
private theorem running
    (receipted : Receipted issued entries losses machine) (orderly : Orderly machine)
    (isWaiting : slip ∈ slipsOf machine.agenda ∨ slip ∈ machine.connection.slips) :
    machine.connection.running = true := by
  rcases isWaiting with isAhead | isInside
  · obtain ⟨job, isJob, isSlip⟩ := List.mem_filterMap.mp isAhead
    cases job with
    | carryOut command =>
        exact (orderly.carried command isJob).2
    | _ =>
        contradiction
  · refine (Bool.eq_false_or_eq_true _).resolve_right fun hasStopped => ?_
    have noSlips : machine.connection.slips = [] := receipted.stopped hasStopped
    rw [noSlips] at isInside
    contradiction

theorem standing
    (receipted : Receipted issued entries losses machine) (orderly : Orderly machine)
    (isIssued : slip ∈ issued) :
    Standing (.notification slip.message) (machine.connection.fatesOf slip.receipt)
      (valuesOf slip.receipt (verdictsIn entries)) machine := by
  rcases receipted.places isIssued with ⟨entry, isEntry, isSlip⟩ | isLost | isWaiting
  · obtain ⟨verdicts, fates⟩ := receipted.ruled isEntry isSlip
    have isMessage := receipted.messages entry isEntry slip isSlip
    have closes := receipted.closes entry isEntry slip
    obtain ⟨held, message, ruling⟩ := entry
    obtain rfl : message = .notification slip.message := isMessage
    cases ruling with
    | accepted =>
        exact .accepted fates verdicts
    | refused failure =>
        exact .refused failure fates verdicts
    | dropped failure =>
        exact .dropped failure fates verdicts (closes failure isSlip rfl)
  · obtain ⟨verdicts, fates⟩ := receipted.unheard isLost
    refine .lost fates verdicts (Bool.eq_false_iff.mpr fun isRunning => ?_)
    rw [receipted.kept isRunning] at isLost
    contradiction
  · obtain ⟨verdicts, fates⟩ := receipted.unsettled isWaiting
    exact .waiting fates verdicts (receipted.running orderly isWaiting)

end Receipted

/-! ## The way to the end -/

/-- Only the worker comes, and it takes commands and works. -/
def Undisturbed (schedule : List (Choice app ω)) : Prop :=
  ∀ choice ∈ schedule, choice = .take ∨ choice = .work

theorem Undisturbed.append
    {left right : List (Choice app ω)} (first : Undisturbed left) (later : Undisturbed right) :
    Undisturbed (left ++ right) :=
  fun choice isChoice => (List.mem_append.mp isChoice).elim (first choice) (later choice)

theorem undisturbed_take : Undisturbed ([.take] : List (Choice app ω)) :=
  fun _ isTake => .inl (List.mem_singleton.mp isTake)

theorem undisturbed_work (count : Nat) :
    Undisturbed (List.replicate count .work : List (Choice app ω)) :=
  fun _ isWork => .inr (List.eq_of_mem_replicate isWork)

section Alone

variable [Wire ω] {machine : Machine app ω}

/-- As long as the worker goes on and takes nothing, the inbox only grows. -/
private theorem inbox_run_work
    (reachable : machine.Reachable) (isRunning : machine.connection.running = true) {count : Nat}
    (goesOn : (machine.run (List.replicate count .work)).connection.running = true) :
    machine.connection.inbox <+:
      (machine.run (List.replicate count .work)).connection.inbox := by
  have kept {reached : Machine app ω} (reachable : reached.Reachable)
      (isRunning : reached.connection.running = true) :
      reached.entered = reached.taken ++ reached.connection.inbox := by
    obtain ⟨wire, memory, defaultTimeout, schedule, rfl⟩ := reachable
    exact (((Balanced.start wire memory defaultTimeout).run schedule).kept isRunning).2
  have entered := Machine.run_induction (fun reached => machine.entered <+: reached.entered)
    (List.replicate count .work) List.prefix_rfl fun _ _ held stroke =>
      held.trans stroke.entered_prefix
  rw [kept reachable isRunning, kept (reachable.run _) goesOn, Machine.taken_run_work] at entered
  exact (List.prefix_append_right_inj _).mp entered

/-- The worker alone gets to each command of the inbox, unless it stops before. -/
private theorem reaches
    (reachable : machine.Reachable) (idle : machine.agenda = [])
    (isRunning : machine.connection.running = true)
    {ahead rest : List (Command app)} {command : Command app}
    (inbox : machine.connection.inbox = ahead ++ command :: rest) :
    ∃ alone : List (Choice app ω), Undisturbed alone ∧
      ((machine.run alone).agenda = [.carryOut command, .sweep] ∨
        (machine.run alone).connection.running = false) := by
  -- The induction is on the commands that are ahead of this one; others may come behind it.
  induction ahead generalizing machine rest with
  | nil =>
      refine ⟨[.take], undisturbed_take, .inl ?_⟩
      simp [Machine.run, Machine.next, idle, isRunning, inbox]
  | cons first ahead inductionHypothesis =>
      let taken := machine.run [.take]
      have isTaken : taken.connection.inbox = ahead ++ command :: rest ∧
          taken.connection.running = true := by
        simp [taken, Machine.run, Machine.next, idle, isRunning, inbox]
      have tookReachable : taken.Reachable := reachable.run [.take]
      obtain ⟨count, isClear⟩ := taken.clears
      have turn : Undisturbed ([.take] ++ List.replicate count .work : List (Choice app ω)) :=
        undisturbed_take.append (undisturbed_work count)
      cases goesOn : (taken.run (List.replicate count .work)).connection.running with
      | false =>
          exact ⟨_, turn, .inr goesOn⟩
      | true =>
          obtain ⟨more, grown⟩ := inbox_run_work tookReachable isTaken.2 goesOn
          rw [isTaken.1, List.append_assoc] at grown
          obtain ⟨alone, undisturbed, reached⟩ :=
            inductionHypothesis (tookReachable.run _) isClear goesOn grown.symm
          refine ⟨_, turn.append undisturbed, ?_⟩
          rw [Machine.run_append, Machine.run_append]
          exact reached

end Alone

/-! ## Calls -/

namespace Receipted

variable [Wire ω] {wire : ω} {memory : app.Memory} {defaultTimeout : Option Duration} {slip : Slip}

private theorem mem_issued_append
    {machine : Machine app ω} {earlier : List (Choice app ω)}
    (isIssued : slip ∈ machine.issued earlier) (later : List (Choice app ω)) :
    slip ∈ machine.issued (earlier ++ later) := by
  rw [Machine.issued_append]
  exact List.mem_append_left _ isIssued

private theorem reachable_run (schedule : List (Choice app ω)) :
    ((Machine.start wire memory defaultTimeout).run schedule : Machine app ω).Reachable :=
  ⟨wire, memory, defaultTimeout, schedule, rfl⟩

/-- What is reported once stays, and nothing is added to it. -/
theorem stays {schedule : List (Choice app ω)} (further : List (Choice app ω)) :
    let start : Machine app ω := .start wire memory defaultTimeout
    slip ∈ start.issued schedule →
      (start.run schedule).connection.fatesOf slip.receipt ≠ [] →
      (start.run (schedule ++ further)).connection.fatesOf slip.receipt =
          (start.run schedule).connection.fatesOf slip.receipt ∧
        start.verdictsOf slip.receipt (schedule ++ further) =
          start.verdictsOf slip.receipt schedule := by
  intro start isIssued reported
  have receipted := receipted_run wire memory defaultTimeout schedule
  have later := receipted_run wire memory defaultTimeout (schedule ++ further)
  unfold Machine.verdictsOf
  -- Entries and losses are only added to, so the notification is where it was.
  rcases receipted.places isIssued with ⟨entry, isEntry, isSlip⟩ | isLost | isWaiting
  · have isStill : entry ∈ start.entries (schedule ++ further) := by
      rw [Machine.entries, Machine.jottings_append]
      exact List.mem_append_left _ isEntry
    obtain ⟨verdicts, fates⟩ := receipted.ruled isEntry isSlip
    obtain ⟨verdictsLater, fatesLater⟩ := later.ruled isStill isSlip
    exact ⟨fatesLater.trans fates.symm, verdictsLater.trans verdicts.symm⟩
  · have isStill : slip ∈ start.losses (schedule ++ further) := by
      rw [Machine.losses, Machine.jottings_append]
      exact List.mem_append_left _ isLost
    obtain ⟨verdicts, fates⟩ := receipted.unheard isLost
    obtain ⟨verdictsLater, fatesLater⟩ := later.unheard isStill
    exact ⟨fatesLater.trans fates.symm, verdictsLater.trans verdicts.symm⟩
  · exact absurd (receipted.unsettled isWaiting).2 reported

/-- The call comes back when nothing waits any longer. -/
private theorem reported
    {schedule : List (Choice app ω)} :
    let start : Machine app ω := .start wire memory defaultTimeout
    let reached := start.run schedule
    slip ∈ start.issued schedule →
      ¬ (slip ∈ slipsOf reached.agenda ∨ slip ∈ reached.connection.slips) →
      reached.connection.fatesOf slip.receipt ≠ [] := by
  intro start reached isIssued settled
  have receipted := receipted_run wire memory defaultTimeout schedule
  rcases receipted.places isIssued with ⟨entry, isEntry, isSlip⟩ | isLost | isWaiting
  · have fates : reached.connection.fatesOf slip.receipt = _ := (receipted.ruled isEntry isSlip).2
    simp [fates]
  · have fates : reached.connection.fatesOf slip.receipt = _ := (receipted.unheard isLost).2
    simp [fates]
  · exact absurd isWaiting settled

/-- A notification that is carried out is reported. -/
private theorem heard
    {schedule : List (Choice app ω)} {command : Command app} {rest : List (Job app)} :
    let start : Machine app ω := .start wire memory defaultTimeout
    (start.run schedule).agenda = .carryOut command :: rest → command.slip? = some slip →
      (start.run (schedule ++ [.work])).connection.fatesOf slip.receipt ≠ [] := by
  intro start agenda isSlip
  have receipted := receipted_run wire memory defaultTimeout (schedule ++ [.work])
  have isNew : slip ∈ slipsIn (start.entries (schedule ++ [.work])) := by
    have sameSlip : (Job.carryOut command).slip? = some slip := isSlip
    rw [Machine.entries, Machine.jottings_snoc, slipsIn_append, Machine.jotted_work _ agenda,
      Job.slipsIn_rulings, sameSlip]
    exact List.mem_append_right _ List.mem_cons_self
  obtain ⟨entry, isEntry, hasSlip⟩ := List.mem_filterMap.mp isNew
  have fates := (receipted.ruled isEntry hasSlip).2
  change (start.run (schedule ++ [.work])).connection.fatesOf slip.receipt = _ at fates
  simp [fates]

/-- Between two commands, the worker alone gets to a notification in the inbox, or stops before. -/
private theorem heard_from_inbox {schedule : List (Choice app ω)} :
    let start : Machine app ω := .start wire memory defaultTimeout
    let reached := start.run schedule
    slip ∈ start.issued schedule → reached.agenda = [] → slip ∈ reached.connection.slips →
      ∃ alone : List (Choice app ω), Undisturbed alone ∧
        (start.run (schedule ++ alone)).connection.fatesOf slip.receipt ≠ [] := by
  intro start reached isIssued idle isInside
  have reachable : reached.Reachable := reachable_run schedule
  have receipted := receipted_run wire memory defaultTimeout schedule
  have isRunning := receipted.running (orderly_of_reachable reachable) (.inr isInside)
  obtain ⟨command, isCommand, isSlip⟩ := List.mem_filterMap.mp isInside
  obtain ⟨ahead, rest, inbox⟩ := List.append_of_mem isCommand
  obtain ⟨alone, undisturbed, agenda | hasStopped⟩ := reaches reachable idle isRunning inbox
  · refine ⟨alone ++ List.replicate 1 .work, undisturbed.append (undisturbed_work 1), ?_⟩
    rw [← Machine.run_append] at agenda
    rw [← List.append_assoc]
    exact heard agenda isSlip
  · refine ⟨alone, undisturbed, ?_⟩
    rw [← Machine.run_append] at hasStopped
    have later := receipted_run wire memory defaultTimeout (schedule ++ alone)
    refine reported (mem_issued_append isIssued alone) fun isWaiting => ?_
    have goesOn := later.running (orderly_of_reachable (reachable_run _)) isWaiting
    exact Bool.noConfusion (goesOn.symm.trans hasStopped)

/-- When nobody else comes, the call comes back. -/
theorem comes_back {schedule : List (Choice app ω)} :
    let start : Machine app ω := .start wire memory defaultTimeout
    slip ∈ start.issued schedule →
      ∃ alone : List (Choice app ω), Undisturbed alone ∧
        (start.run (schedule ++ alone)).connection.fatesOf slip.receipt ≠ [] := by
  intro start isIssued
  obtain ⟨count, isClear⟩ := (start.run schedule).clears
  rw [← Machine.run_append] at isClear
  have stillIssued := mem_issued_append isIssued (List.replicate count .work)
  by_cases isInside :
      slip ∈ (start.run (schedule ++ List.replicate count .work)).connection.slips
  · obtain ⟨alone, undisturbed, fates⟩ := heard_from_inbox stillIssued isClear isInside
    rw [List.append_assoc] at fates
    exact ⟨_, (undisturbed_work count).append undisturbed, fates⟩
  · refine ⟨_, undisturbed_work count, reported stillIssued ?_⟩
    rw [isClear]
    exact not_or.mpr ⟨List.not_mem_nil, isInside⟩

end Receipted

private theorem unchanged (machine : Machine app ω) :
    machine.absorb machine.agenda { jobs := [], connection := machine.connection } = machine := by
  simp [Machine.absorb]

/-- A call that sends a notification and waits for its fate, at any moment of any schedule. It fails
at once, and then nothing has happened, when the parameters have no JSON form or when the worker has
stopped. Otherwise it comes back with a success exactly if the notification was accepted by the
wire, and this was once and before; in all other cases it comes back with what the wire has said,
with the reason for which the connection was closed, or, when the worker has stopped before it came
to the notification, with the failure that says so. What the call came back with does not change,
and its notification gets no other verdict; as long as it has not come back, the worker alone brings
this about. The frames that were written are those of the messages with an accepting verdict, and no
others. -/
theorem acknowledgements_are_truthful [Wire ω]
    (wire : ω) (memory : app.Memory) (defaultTimeout : Option Duration)
    (earlier later : List (Choice app ω)) (method : String) (params : Params) :
    let start : Machine app ω := .start wire memory defaultTimeout
    let call : Choice app ω := .act (.notifyWithReceipt method params)
    let before := start.run earlier
    let schedule := earlier ++ call :: later
    let reached := start.run schedule
    (match (before.connection.notifyWithReceipt method params).1 with
      | .error failure =>
        before.next call = before ∧
          match params with
          | .error fault => failure = .encoding fault
          | .ok _ => failure = .closed ∧ before.connection.running = false
      | .ok receipt =>
        ∃ encoded, params = .ok encoded ∧
          let message : Outgoing := .notification (.new method encoded)
          let fates := reached.connection.fatesOf receipt
          let verdicts := start.verdictsOf receipt schedule
          Standing message fates verdicts reached ∧
            (fates = [.ok ()] ↔ verdicts = [⟨message, .accepted⟩]) ∧
            (fates ≠ [] → ∀ further,
              (start.run (schedule ++ further)).connection.fatesOf receipt = fates ∧
                start.verdictsOf receipt (schedule ++ further) = verdicts) ∧
            ∃ alone : List (Choice app ω), Undisturbed alone ∧
              (start.run (schedule ++ alone)).connection.fatesOf receipt ≠ []) ∧
      (start.entries schedule).map (·.verdict) = start.verdicts schedule ∧
      reached.connection.written =
        (acceptedAmong (start.verdicts schedule)).map Outgoing.frame := by
  intro start call before schedule reached
  refine ⟨?_, start.map_verdict_entries schedule, ?_⟩
  · cases params with
    | error fault =>
        exact ⟨unchanged before, rfl⟩
    | ok encoded =>
        cases isRunning : before.connection.running with
        | false =>
            have refused : before.connection.notifyWithReceipt method (.ok encoded) =
                (.error .closed, before.connection) := by
              simp [notifyWithReceipt, isRunning]
            have sameMachine : before.next call = before := by
              change before.absorb before.agenda
                { jobs := []
                  connection := (before.connection.notifyWithReceipt method (.ok encoded)).2 } = _
              rw [refused]
              exact unchanged before
            rw [refused]
            exact ⟨sameMachine, rfl, rfl⟩
        | true =>
            let receipt := before.connection.nextReceipt
            have sent : (before.connection.notifyWithReceipt method (.ok encoded)).1 =
                .ok receipt := by
              simp [notifyWithReceipt, isRunning, receipt]
            have isIssued : ⟨receipt, .new method encoded⟩ ∈ start.issued schedule := by
              have isSlip : before.slip? call = some ⟨receipt, .new method encoded⟩ :=
                if_pos isRunning
              rw [Machine.issued_append, Machine.issued, isSlip]
              exact List.mem_append_right _ List.mem_cons_self
            have receipted := receipted_run wire memory defaultTimeout schedule
            have orderly := orderly_of_reachable
              (⟨wire, memory, defaultTimeout, schedule, rfl⟩ : reached.Reachable)
            have standing := receipted.standing orderly isIssued
            rw [sent]
            refine ⟨encoded, rfl, standing, standing.truthful, ?_, Receipted.comes_back isIssued⟩
            intro isReported further
            exact Receipted.stays further isIssued isReported
  · have output := (judged_nothing wire memory defaultTimeout schedule).output
    have put := congrArg Output.written output
    rw [Output.written_foldl] at put
    exact put

/-- A call before anything happens, one at a wire that refuses writes, one after the close, and one
that the worker does not come to. -/
def fourCalls : List (Choice bare (MemoryWire Unit)) :=
  let turn : List (Choice bare (MemoryWire Unit)) := .take :: List.replicate 5 .work
  let call : Choice bare (MemoryWire Unit) := .act (.notifyWithReceipt "told" (.ok none))
  call :: turn ++
    .act (.disturb (MemoryWire.setRefusal (some .closed))) :: call :: turn ++
    .act (.order (.close .unavailable)) :: call :: turn ++ turn ++
    .act (.order .shutdown) :: call :: turn

example :
    let reached : Machine bare (MemoryWire Unit) := (Machine.start .new () none).run fourCalls
    (List.range 4).map (fun receipt => (reached.connection.fatesOf receipt).map fun fate =>
      match fate with
      | .ok () => "written"
      | .error failure => failure.message) =
      [["written"], [Failure.message (.wire .closed)], [Failure.message .unavailable],
        [Failure.message .closed]] := by
  decide +kernel

end RpcEndpoint
