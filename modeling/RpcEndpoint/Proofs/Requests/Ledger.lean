import Mathlib.Algebra.Order.Group.Multiset
import Mathlib.Tactic.Abel
import RpcEndpoint.Proofs.Schedule.Stroke

/-!
# The ledger of promises

Every request that was accepted is a promise to its sender. The ledger of a machine says where the
promises are: in the inbox, in the agenda of the worker, in the table, or kept. Each move passes
promises on and loses none (`Move.balance`), so the ledger holds after every schedule.
-/

namespace RpcEndpoint

variable {app : Application} {ω : Type}

/-! ## What deeds keep -/

/-- The promise that a deed keeps. -/
def Deed.kept? : Deed app → Option (Promise app)
  | .completed promise _ => some promise
  | .sent _ | .routed _ _ => none

/-- The outcome that a deed gives. -/
def Deed.outcome? : Deed app → Option (MessageId × Except Failure Bytes)
  | .completed promise outcome => some (promise.id, outcome)
  | .sent _ | .routed _ _ => none

/-- The promises that were kept, one for each call of a sink. -/
def keptIn (deeds : List (Deed app)) : List (Promise app) :=
  deeds.filterMap Deed.kept?

/-- The outcomes that were given. -/
def outcomesIn (deeds : List (Deed app)) : List (MessageId × Except Failure Bytes) :=
  deeds.filterMap Deed.outcome?

theorem map_id_keptIn (deeds : List (Deed app)) :
    (keptIn deeds).map (·.id) = (outcomesIn deeds).map (·.1) := by
  induction deeds with
  | nil =>
      rfl
  | cons deed rest inductionHypothesis =>
      cases deed with
      | completed promise outcome =>
          simpa [keptIn, outcomesIn, Deed.kept?, Deed.outcome?] using inductionHypothesis
      | sent id =>
          exact inductionHypothesis
      | routed payload pending =>
          exact inductionHypothesis

/-- The promises that jobs have to keep. -/
def promisesOf (jobs : List (Job app)) : List (Promise app) :=
  jobs.flatMap Job.promises

/-! ## What a move does to promises -/

open Connection

theorem Job.Light.promises_eq_nil {job : Job app} (light : job.Light) : job.promises = [] := by
  cases light <;> rfl

theorem promisesOf_eq_nil
    {jobs : List (Job app)} (light : ∀ job ∈ jobs, job.Light) : promisesOf jobs = [] :=
  List.flatMap_eq_nil_iff.mpr fun job isJob => (light job isJob).promises_eq_nil

namespace Move

variable {before : Connection app ω} {progress : Progress app ω} {job : Job app}

/-- Until the worker leaves its loop, a move puts down an outcome, or enters or removes requests,
and does nothing else but sends. -/
private theorem base (move : Move before progress job) (goesOn : job ≠ .halt) :
    ∃ base : Connection app ω,
      Sends progress.accepted base progress.connection ∧
        base.running = before.running ∧
        base.nextNumber = before.nextNumber ∧
        base.inbox = before.inbox ∧
        base.outcomes = before.outcomes ++ outcomesIn progress.deeds := by
  cases move with
  | light isLight lightly deeds =>
      exact ⟨before, lightly.sends, rfl, rfl, rfl, by simp [deeds, outcomesIn]⟩
  | fed lights other goesOn jobs areLight sends deeds =>
      exact ⟨_, sends, rfl, rfl, rfl, by simp [deeds, outcomesIn, Connection.outcomes]⟩
  | rejected failure isProgress =>
      subst isProgress
      exact ⟨before, .refl before, rfl, rfl, rfl, by simp [outcomesIn]⟩
  | admitted isProgress =>
      subst isProgress
      exact ⟨before, .refl before, rfl, rfl, rfl, by simp [outcomesIn]⟩
  | entered entry promise jobs sends deeds =>
      exact ⟨_, sends, rfl, rfl, rfl, by simp [deeds, outcomesIn, Connection.outcomes]⟩
  | sent jobs sends deeds =>
      exact ⟨before, sends, rfl, rfl, rfl, by simp [deeds, outcomesIn, Deed.outcome?]⟩
  | withdrawn entries kept unconcerned noPayload parted jobs promises stops nothingKept unwritten
      sends deeds =>
      exact ⟨_, sends, rfl, rfl, rfl, by simp [deeds, outcomesIn, Connection.outcomes]⟩
  | passed unanswered lightly deeds =>
      exact ⟨before, lightly.sends, rfl, rfl, rfl, by simp [deeds, outcomesIn, Deed.outcome?]⟩
  | answered entry answers found jobs sends deeds =>
      exact ⟨_, sends, rfl, rfl, rfl,
        by simp [deeds, outcomesIn, Deed.outcome?, Connection.outcomes]⟩
  | late isProgress =>
      subst isProgress
      exact ⟨before, .refl before, rfl, rfl, rfl, by simp [outcomesIn]⟩
  | finished jobs sends deeds =>
      exact ⟨before, sends, rfl, rfl, rfl, by simp [deeds, outcomesIn]⟩
  | delivered lightly deeds =>
      refine ⟨_, lightly.sends, rfl, rfl, rfl, ?_⟩
      rw [deeds, outcomes_record_completed]
      rfl
  | halted isProgress =>
      contradiction

/-- Until the worker leaves its loop, the inbox only grows. -/
theorem grows (move : Move before progress job) (goesOn : job ≠ .halt) :
    Grows progress.accepted before progress.connection := by
  obtain ⟨base, sends, running, nextNumber, inbox, -⟩ := move.base goesOn
  have grows := sends.grows
  refine ⟨grows.running.trans running, ?_, ?_, ?_⟩
  · rw [grows.nextNumber, nextNumber]
  · rw [← nextNumber]
    exact grows.numbered
  · rw [← inbox, ← running]
    exact grows.inbox

/-- The log tells the outcomes that were given. -/
theorem outcomes (move : Move before progress job) :
    progress.connection.outcomes = before.outcomes ++ outcomesIn progress.deeds := by
  by_cases goesOn : job = .halt
  · subst goesOn
    cases move with
    | light isLight lightly deeds =>
        contradiction
    | withdrawn entries kept unconcerned noPayload parted jobs promises stops nothingKept unwritten
        sends deeds =>
        rw [sends.outcomes, deeds]
        exact (List.append_nil _).symm
    | halted isProgress =>
        subst isProgress
        exact (sends_halt before).outcomes.trans (List.append_nil _).symm
  · obtain ⟨base, sends, -, -, -, outcomes⟩ := move.base goesOn
    exact sends.outcomes.trans outcomes

/-- A move loses no promise and makes none up. -/
theorem balance
    (move : Move before progress job)
    (distinct : ((job.promises ++ before.pending.promises).map (·.id)).Nodup) :
    (job.promises ++ before.pending.promises).Perm
      (promisesOf progress.jobs ++ progress.connection.pending.promises ++
        keptIn progress.deeds) := by
  cases move with
  | light isLight lightly deeds =>
      rw [isLight.promises_eq_nil, promisesOf_eq_nil lightly.jobs, lightly.sends.pending, deeds]
      simp [keptIn]
  | fed lights other goesOn jobs areLight sends deeds =>
      have routed : ∀ payloads : List Bytes,
          promisesOf (payloads.map (.route : Bytes → Job app)) = [] := by
        intro payloads
        simp [promisesOf, Job.promises]
      have noPromise : promisesOf progress.jobs = [] := by
        rw [jobs, promisesOf, List.flatMap_append]
        exact congrArg₂ (· ++ ·) (promisesOf_eq_nil areLight) (routed _)
      rw [noPromise, sends.pending, deeds]
      simp [keptIn, Job.promises, other]
  | rejected failure isProgress =>
      subst isProgress
      simp [promisesOf, Job.promises, Command.promise?, keptIn]
  | admitted isProgress =>
      subst isProgress
      simp [promisesOf, Job.promises, Command.promise?, keptIn]
  | @entered message options sink entry promise jobs sends deeds =>
      have sameId : entry.id = message.id := congrArg Promise.id promise
      have isNew : entry.id ∉ before.pending.ids := by
        rw [List.map_append, PendingTable.map_id_promises] at distinct
        rw [sameId]
        exact (List.nodup_cons.mp distinct).1
      rw [sends.pending, PendingTable.insert_of_not_mem isNew, jobs, deeds]
      simpa [promisesOf, Job.promises, keptIn, PendingTable.promises, promise] using
        (List.perm_append_singleton _ _).symm
  | sent jobs sends deeds =>
      rw [jobs, sends.pending, deeds]
      simp [promisesOf, Job.promises, keptIn, Deed.kept?, List.filterMap_cons]
  | withdrawn entries kept unconcerned noPayload parted jobs promises stops nothingKept unwritten
      sends deeds =>
      rw [unconcerned, promisesOf, promises, sends.pending, deeds]
      simpa [keptIn, PendingTable.promises] using parted.map (·.promise)
  | passed unanswered lightly deeds =>
      rw [promisesOf_eq_nil lightly.jobs, lightly.sends.pending, deeds]
      simp [Job.promises, keptIn, Deed.kept?, List.filterMap_cons]
  | answered entry answers found jobs sends deeds =>
      have tableDistinct : before.pending.ids.Nodup := by
        rwa [← PendingTable.map_id_promises]
      rw [jobs, sends.pending, deeds]
      simpa [promisesOf, Job.promises, keptIn, Deed.kept?, List.filterMap_cons,
        PendingTable.promises] using
        (PendingTable.perm_remove tableDistinct found).map (·.promise)
  | late isProgress =>
      subst isProgress
      simp [promisesOf, Job.promises, keptIn]
  | finished jobs sends deeds =>
      rw [jobs, sends.pending, deeds]
      simp [promisesOf, Job.promises, keptIn]
  | delivered lightly deeds =>
      rw [promisesOf_eq_nil lightly.jobs, lightly.sends.pending, deeds]
      simpa [Job.promises, keptIn, Deed.kept?, record] using
        (List.perm_append_singleton _ _).symm
  | halted isProgress =>
      subst isProgress
      rw [(sends_halt before).pending]
      simp [promisesOf, Job.promises, keptIn]

end Move

/-! ## Identifiers -/

/-- Numbers are told apart by their identifiers as long as these do not start over. -/
theorem numberedId_injective
    {left right : Nat} (leftBound : left ≤ 2 ^ 64) (rightBound : right ≤ 2 ^ 64)
    (leftPositive : 1 ≤ left) (rightPositive : 1 ≤ right)
    (same : numberedId left = numberedId right) : left = right := by
  have sameBits := congrArg Int64.toBitVec (MessageId.number.inj same)
  simp only [Int64.toBitVec_ofNat'] at sameBits
  have sameRest : left % 2 ^ 64 = right % 2 ^ 64 := by
    simpa using congrArg BitVec.toNat sameBits
  omega

theorem nodup_numbered {count : Nat} (bound : count ≤ 2 ^ 64) :
    ((List.range' 1 count).map numberedId).Nodup := by
  refine List.Nodup.map_on ?_ List.nodup_range'
  intro left isLeft right isRight same
  rw [List.mem_range'_1] at isLeft isRight
  exact numberedId_injective (by omega) (by omega) isLeft.1 isRight.1 same

/-! ## The ledger of a machine -/

/-- Where the promises of a machine are. -/
structure Ledger (machine : Machine app ω) : Prop where
  /-- Each identifier that was given out came with a request to the inbox, in this order. -/
  ids : (promisesIn machine.entered).map (·.id) = machine.accepted
  numbered : machine.accepted = (List.range' 1 machine.accepted.length).map numberedId
  nextNumber : machine.connection.nextNumber = 1 + machine.accepted.length
  outcomes : machine.connection.outcomes = outcomesIn machine.history
  /-- What was not taken is in the inbox, until the worker stops. -/
  inbox : ∃ waiting,
    machine.entered = machine.taken ++ waiting ∧
      machine.connection.inbox = if machine.connection.running then waiting else []
  /-- The promises that the worker has taken are owed or kept. -/
  balance :
    (promisesOf machine.agenda ++ machine.connection.pending.promises ++
      keptIn machine.history).Perm (promisesIn machine.taken)

namespace Ledger

variable {machine : Machine app ω}

theorem start (wire : ω) (memory : app.Memory) (defaultTimeout : Option Duration) :
    Ledger (Machine.start wire memory defaultTimeout) :=
  ⟨rfl, rfl, rfl, rfl, ⟨[], rfl, rfl⟩, .refl _⟩

/-- No identifier was given out twice. -/
theorem nodup_accepted (ledger : Ledger machine) (bound : machine.accepted.length ≤ 2 ^ 64) :
    machine.accepted.Nodup := by
  rw [ledger.numbered]
  exact nodup_numbered bound

/-- No two promises that were taken have one identifier. -/
theorem nodup_taken (ledger : Ledger machine) (bound : machine.accepted.length ≤ 2 ^ 64) :
    ((promisesIn machine.taken).map (·.id)).Nodup := by
  obtain ⟨waiting, entered, -⟩ := ledger.inbox
  have distinct := ledger.nodup_accepted bound
  rw [← ledger.ids, entered, promisesIn_append, List.map_append] at distinct
  exact distinct.of_append_left

theorem nodup_places (ledger : Ledger machine) (bound : machine.accepted.length ≤ 2 ^ 64) :
    ((promisesOf machine.agenda ++ machine.connection.pending.promises ++
      keptIn machine.history).map (·.id)).Nodup :=
  (ledger.balance.map (·.id)).nodup_iff.mpr (ledger.nodup_taken bound)

/-- No two pending requests have one identifier. -/
theorem distinct (ledger : Ledger machine) (bound : machine.accepted.length ≤ 2 ^ 64) :
    machine.connection.pending.Distinct := by
  have places := ledger.nodup_places bound
  rw [List.map_append, List.map_append, PendingTable.map_id_promises] at places
  exact places.of_append_left.of_append_right

/-- What the first job and the table owe has no identifier twice. -/
theorem nodup_head
    (ledger : Ledger machine) (bound : machine.accepted.length ≤ 2 ^ 64)
    {job : Job app} {rest : List (Job app)} (agenda : machine.agenda = job :: rest) :
    ((job.promises ++ machine.connection.pending.promises).map (·.id)).Nodup := by
  have places := ledger.nodup_places bound
  rw [agenda, promisesOf, List.flatMap_cons, List.append_assoc] at places
  refine places.sublist (List.Sublist.map _ ?_)
  exact (List.sublist_append_left _ _).append (List.sublist_append_left _ _)

/-- Some promises change their places while the others stay. -/
private theorem perm_exchange
    {α : Type} {jobs rest table kept newJobs newTable newKept : List α}
    (balance : (jobs ++ table).Perm (newJobs ++ newTable ++ newKept)) :
    (newJobs ++ rest ++ newTable ++ (kept ++ newKept)).Perm (jobs ++ rest ++ table ++ kept) := by
  rw [← Multiset.coe_eq_coe] at balance ⊢
  simp only [← Multiset.coe_add] at balance ⊢
  calc
    (newJobs + rest + newTable + (kept + newKept) : Multiset α) =
        (newJobs + newTable + newKept) + (rest + kept) := by abel
    _ = (jobs + table) + (rest + kept) := by rw [balance]
    _ = jobs + rest + table + kept := by abel

/-- The ledger holds when progress takes the place of some jobs, if it has their promises. -/
theorem absorb
    (ledger : Ledger machine) (jobs : List (Job app)) {rest : List (Job app)}
    {progress : Progress app ω}
    (agenda : machine.agenda = jobs ++ rest)
    (grows : Grows progress.accepted machine.connection progress.connection)
    (outcomes : progress.connection.outcomes =
      machine.connection.outcomes ++ outcomesIn progress.deeds)
    (balance : (promisesOf jobs ++ machine.connection.pending.promises).Perm
      (promisesOf progress.jobs ++ progress.connection.pending.promises ++
        keptIn progress.deeds)) :
    Ledger (machine.absorb rest progress) := by
  obtain ⟨waiting, entered, inbox⟩ := ledger.inbox
  obtain ⟨commands, grown, ids, stopped⟩ := grows.inbox
  have arrived : progress.connection.inbox.drop machine.connection.inbox.length = commands := by
    rw [grown, List.drop_left]
  refine ⟨?_, ?_, ?_, ?_, ⟨waiting ++ commands, ?_, ?_⟩, ?_⟩
  · change (promisesIn (machine.entered ++ _)).map (·.id) = machine.accepted ++ progress.accepted
    rw [arrived, promisesIn_append, List.map_append, ← ids, ← ledger.ids]
  · change machine.accepted ++ progress.accepted =
      (List.range' 1 (machine.accepted ++ progress.accepted).length).map numberedId
    rw [List.length_append, ← List.range'_append_1, List.map_append, ← ledger.numbered,
      ← ledger.nextNumber, ← grows.numbered]
  · change progress.connection.nextNumber = 1 + (machine.accepted ++ progress.accepted).length
    rw [grows.nextNumber, ledger.nextNumber, List.length_append, Nat.add_assoc]
  · change progress.connection.outcomes = outcomesIn (machine.history ++ progress.deeds)
    rw [outcomes, ledger.outcomes, outcomesIn, outcomesIn, outcomesIn, List.filterMap_append]
  · change machine.entered ++ _ = machine.taken ++ (waiting ++ commands)
    rw [arrived, entered, List.append_assoc]
  · change progress.connection.inbox =
      if progress.connection.running = true then waiting ++ commands else []
    rw [grown, inbox, grows.running]
    by_cases isRunning : machine.connection.running = true
    · rw [if_pos isRunning, if_pos isRunning]
    · rw [if_neg isRunning, if_neg isRunning, stopped (Bool.eq_false_iff.mpr isRunning)]
      rfl
  · change (promisesOf (progress.jobs ++ rest) ++ progress.connection.pending.promises ++
      keptIn (machine.history ++ progress.deeds)).Perm (promisesIn machine.taken)
    have held := ledger.balance
    rw [agenda, promisesOf, List.flatMap_append] at held
    rw [promisesOf, List.flatMap_append, keptIn, List.filterMap_append]
    exact (perm_exchange balance).trans held

/-- What is in the inbox when the worker leaves its loop stays behind. -/
private theorem halt
    (ledger : Ledger machine) {rest : List (Job app)}
    (agenda : machine.agenda = .halt :: rest) :
    Ledger (machine.absorb rest { jobs := [], connection := machine.connection.halt }) := by
  obtain ⟨waiting, entered, -⟩ := ledger.inbox
  have lost := sends_halt machine.connection
  have noInbox : machine.connection.halt.inbox = [] := by
    obtain ⟨commands, grown, -, stopped⟩ := lost.grows.inbox
    rw [grown, stopped rfl]
    rfl
  have stopped : machine.connection.halt.running = false := lost.grows.running
  refine ⟨?_, ?_, ?_, ?_, ⟨waiting, ?_, ?_⟩, ?_⟩
  · change (promisesIn (machine.entered ++ _)).map (·.id) = machine.accepted ++ []
    rw [noInbox, List.drop_nil, List.append_nil, List.append_nil, ledger.ids]
  · change machine.accepted ++ [] =
      (List.range' 1 (machine.accepted ++ []).length).map numberedId
    rw [List.append_nil]
    exact ledger.numbered
  · change machine.connection.halt.nextNumber = 1 + (machine.accepted ++ []).length
    rw [lost.grows.nextNumber, List.append_nil]
    exact ledger.nextNumber
  · change machine.connection.halt.outcomes = outcomesIn (machine.history ++ [])
    rw [lost.outcomes, List.append_nil]
    exact ledger.outcomes
  · change machine.entered ++ _ = machine.taken ++ waiting
    rw [noInbox, List.drop_nil, List.append_nil, entered]
  · change machine.connection.halt.inbox =
      if machine.connection.halt.running = true then waiting else []
    rw [noInbox, stopped]
    rfl
  · change (promisesOf rest ++ machine.connection.halt.pending.promises ++
      keptIn (machine.history ++ [])).Perm (promisesIn machine.taken)
    have held := ledger.balance
    rw [agenda] at held
    rw [lost.pending, List.append_nil]
    exact held

/-- The ledger holds when the worker does the first step of a job. -/
private theorem work [Wire ω]
    (ledger : Ledger machine) (bound : machine.accepted.length ≤ 2 ^ 64)
    {job : Job app} {rest : List (Job app)} (agenda : machine.agenda = job :: rest) :
    Ledger (machine.absorb rest (job.step machine.now machine.connection)) := by
  by_cases goesOn : job = .halt
  · subst goesOn
    exact ledger.halt agenda
  · have distinct := ledger.nodup_head bound agenda
    have move := job.move machine.now machine.connection (ledger.distinct bound)
    refine ledger.absorb [job] agenda (move.grows goesOn) move.outcomes ?_
    rw [promisesOf, List.flatMap_singleton]
    exact move.balance distinct

/-- The ledger holds when nothing but sends has happened. -/
private theorem sends
    (ledger : Ledger machine) {accepted : List MessageId} {after : Connection app ω}
    (sends : Sends accepted machine.connection after) :
    Ledger (machine.absorb machine.agenda { jobs := [], connection := after, accepted }) := by
  refine ledger.absorb [] rfl sends.grows ?_ ?_
  · rw [sends.outcomes]
    exact (List.append_nil _).symm
  · rw [sends.pending]
    simp [promisesOf, keptIn]

/-- The ledger holds when the worker takes a command, with its promise. -/
private theorem taken
    (ledger : Ledger machine) {command : Command app} {rest : List (Command app)}
    (agenda : machine.agenda = []) (isRunning : machine.connection.running = true)
    (inbox : machine.connection.inbox = command :: rest) :
    Ledger { machine with
      connection := { machine.connection with inbox := rest }
      agenda := [.carryOut command, .sweep]
      taken := machine.taken ++ [command] } := by
  obtain ⟨waiting, entered, isInbox⟩ := ledger.inbox
  rw [if_pos isRunning, inbox] at isInbox
  refine ⟨ledger.ids, ledger.numbered, ledger.nextNumber, ledger.outcomes, ⟨rest, ?_, ?_⟩, ?_⟩
  · change machine.entered = machine.taken ++ [command] ++ rest
    rw [entered, ← isInbox, List.append_assoc, List.singleton_append]
  · exact (if_pos isRunning).symm
  · have held := ledger.balance
    rw [agenda] at held
    have promise : promisesOf [.carryOut command, .sweep] = command.promise?.toList := by
      simp [promisesOf, Job.promises]
    change (promisesOf [.carryOut command, .sweep] ++ machine.connection.pending.promises ++
      keptIn machine.history).Perm (promisesIn (machine.taken ++ [command]))
    rw [promise, promisesIn_append, promisesIn_singleton, List.append_assoc]
    exact List.perm_append_comm.trans (held.append_right _)

end Ledger

/-! ## Every schedule -/

/-- The ledger survives every stroke. -/
theorem Ledger.stroke [Wire ω]
    {before after : Machine app ω} (ledger : Ledger before)
    (bound : before.accepted.length ≤ 2 ^ 64) (stroke : Stroke before after) :
    Ledger after := by
  cases stroke with
  | taken agenda isRunning inbox =>
      exact ledger.taken agenda isRunning inbox
  | woken agenda isRunning =>
      have held := ledger.balance
      rw [agenda] at held
      exact ⟨ledger.ids, ledger.numbered, ledger.nextNumber, ledger.outcomes, ledger.inbox, held⟩
  | worked agenda =>
      exact ledger.work bound agenda
  | reordered agenda =>
      have held := ledger.balance
      rw [agenda] at held
      exact ⟨ledger.ids, ledger.numbered, ledger.nextNumber, ledger.outcomes, ledger.inbox, held⟩
  | sent flying sends =>
      have other : Ledger { before with flying } :=
        ⟨ledger.ids, ledger.numbered, ledger.nextNumber, ledger.outcomes, ledger.inbox,
          ledger.balance⟩
      exact other.sends sends
  | still now =>
      exact ⟨ledger.ids, ledger.numbered, ledger.nextNumber, ledger.outcomes, ledger.inbox,
        ledger.balance⟩

/-- The ledger holds after every schedule, as long as the identifiers last. -/
theorem ledger_run [Wire ω]
    {machine : Machine app ω} (ledger : Ledger machine) (schedule : List (Choice app ω))
    (bound : (machine.run schedule).accepted.length ≤ 2 ^ 64) :
    Ledger (machine.run schedule) :=
  Machine.lasting_induction Ledger schedule ledger
    (fun _ _ boundBefore held stroke => held.stroke boundBefore stroke) bound

theorem Ledger.of_reachable [Wire ω]
    {machine : Machine app ω} (reachable : machine.Reachable)
    (bound : machine.accepted.length ≤ 2 ^ 64) : Ledger machine := by
  obtain ⟨wire, memory, defaultTimeout, schedule, rfl⟩ := reachable
  exact ledger_run (Ledger.start wire memory defaultTimeout) schedule bound

end RpcEndpoint
