import RpcEndpoint.Proofs.Requests.Places

/-!
# Requests and the end of the worker

The worker leaves its loop at the first order to shut down. What is pending then fails, and what
came to the inbox after that order is lost: a request among it never has an outcome, although it was
accepted.
-/

namespace RpcEndpoint

open Connection

variable {app : Application} {ω : Type}

/-! ## Jobs that enter requests -/

/-- Whether the first step of a job may enter a request or prepare that. -/
def Job.enters : Job app → Bool
  | .carryOut _ | .launch _ _ _ => true
  | _ => false

theorem Job.Light.enters_eq_false {job : Job app} (light : job.Light) : job.enters = false := by
  cases light <;> rfl

theorem Job.Light.stops_eq_false {job : Job app} (light : job.Light) : job.stops = false := by
  cases light <;> rfl

theorem Job.Fails.enters_eq_false {job : Job app} (fails : job.Fails) : job.enters = false := by
  cases fails <;> rfl

namespace Move

variable {before : Connection app ω} {progress : Progress app ω} {job : Job app}

/-- The end of the worker is passed on to one of the jobs that come of a job, and only from
there. -/
theorem stops (move : Move before progress job) (goesOn : job ≠ .halt) :
    progress.jobs.any Job.stops = job.stops := by
  have lightly {jobs : List (Job app)} (light : ∀ next ∈ jobs, next.Light) :
      jobs.any Job.stops = false :=
    List.any_eq_false.mpr fun next isNext =>
      Bool.eq_false_iff.mp (light next isNext).stops_eq_false
  cases move with
  | light isLight light deeds =>
      rw [lightly light.jobs, isLight.stops_eq_false]
  | fed lights other isOther jobs areLight sends deeds =>
      have routed : ∀ payloads : List Bytes,
          (payloads.map (.route : Bytes → Job app)).any Job.stops = false := by
        intro payloads
        rw [List.any_map]
        exact List.any_eq_false.mpr fun _ _ => Bool.false_ne_true
      rw [jobs, List.any_append, lightly areLight, routed]
      exact isOther.symm
  | rejected failure isProgress =>
      rw [isProgress]
      rfl
  | admitted isProgress =>
      rw [isProgress]
      rfl
  | entered entry promise jobs sends deeds =>
      rw [jobs]
      rfl
  | sent jobs sends deeds =>
      rw [jobs]
      rfl
  | withdrawn entries kept unconcerned noPayload parted jobs promises stops nothingKept unwritten
      sends deeds =>
      exact stops
  | passed unanswered light deeds =>
      exact lightly light.jobs
  | answered entry answers found jobs sends deeds =>
      rw [jobs]
      rfl
  | late isProgress =>
      rw [isProgress]
      rfl
  | finished jobs sends deeds =>
      rw [jobs]
      rfl
  | delivered light deeds =>
      exact lightly light.jobs
  | halted isProgress =>
      contradiction

/-- Without a job that enters requests an empty table stays empty. -/
theorem settles (move : Move before progress job) (settled : job.enters = false) :
    (∀ next ∈ progress.jobs, next.enters = false) ∧
      (before.pending = [] → progress.connection.pending = []) := by
  cases move with
  | light isLight lightly deeds =>
      refine ⟨fun next isNext => (lightly.jobs next isNext).enters_eq_false, ?_⟩
      intro isEmpty
      rw [lightly.sends.pending, isEmpty]
  | fed | rejected | admitted | entered =>
      contradiction
  | sent jobs sends deeds =>
      refine ⟨by simp [jobs], ?_⟩
      intro isEmpty
      rw [sends.pending, isEmpty]
  | withdrawn entries kept unconcerned noPayload parted jobs promises stops nothingKept unwritten
      sends deeds =>
      refine ⟨?_, ?_⟩
      · intro next isNext
        rcases jobs next isNext with light | fails | rfl
        · exact light.enters_eq_false
        · exact fails.enters_eq_false
        · rfl
      · intro isEmpty
        rw [isEmpty] at parted
        rw [sends.pending]
        exact (List.append_eq_nil_iff.mp parted.nil_eq.symm).2
  | passed unanswered lightly deeds =>
      refine ⟨fun next isNext => (lightly.jobs next isNext).enters_eq_false, ?_⟩
      intro isEmpty
      rw [lightly.sends.pending, isEmpty]
  | answered entry answers found jobs sends deeds =>
      refine ⟨by simp [jobs, Job.enters], ?_⟩
      intro isEmpty
      rw [isEmpty] at found
      contradiction
  | late isProgress =>
      refine ⟨by simp [isProgress, Job.enters], ?_⟩
      intro isEmpty
      rw [isProgress, isEmpty]
  | finished jobs sends deeds =>
      refine ⟨by simp [jobs, Job.enters], ?_⟩
      intro isEmpty
      rw [sends.pending, isEmpty]
  | delivered lightly deeds =>
      refine ⟨fun next isNext => (lightly.jobs next isNext).enters_eq_false, ?_⟩
      intro isEmpty
      rw [lightly.sends.pending]
      exact isEmpty
  | halted isProgress =>
      refine ⟨by simp [isProgress], ?_⟩
      intro isEmpty
      rw [isProgress, (sends_halt before).pending]
      exact isEmpty

/-- The order to shut down empties the table. -/
theorem empties (move : Move before progress (.carryOut (.order .shutdown))) :
    (∀ next ∈ progress.jobs, next.enters = false) ∧ progress.connection.pending = [] := by
  cases move with
  | light isLight lightly deeds =>
      contradiction
  | fed lights other isOther jobs areLight sends deeds =>
      contradiction
  | withdrawn entries kept unconcerned noPayload parted jobs promises stops nothingKept unwritten
      sends deeds =>
      refine ⟨?_, ?_⟩
      · intro next isNext
        rcases jobs next isNext with light | fails | rfl
        · exact light.enters_eq_false
        · exact fails.enters_eq_false
        · rfl
      · rw [sends.pending, nothingKept rfl]

end Move

/-! ## How a machine comes to its end -/

/-- The worker has not come to an order to shut down. -/
structure GoingOn (machine : Machine app ω) : Prop where
  running : machine.connection.running = true
  taken : machine.taken.any Command.stops = false
  agenda : machine.agenda.any Job.stops = false

/-- The worker has come to an order to shut down; it is the last command that it has taken. -/
structure Ending (machine : Machine app ω) : Prop where
  taken : ∃ front, machine.taken = front ++ [.order .shutdown] ∧ front.any Command.stops = false
  /-- As long as the worker has not left its loop, it has that before it. -/
  ahead : machine.connection.running = true → machine.agenda.any Job.stops = true
  /-- From the first step of the order on, nothing is pending. -/
  settled : machine.agenda = [.carryOut (.order .shutdown), .sweep] ∨
    machine.connection.pending = [] ∧ ∀ job ∈ machine.agenda, job.enters = false

theorem Command.eq_shutdown {command : Command app} (stops : command.stops = true) :
    command = .order .shutdown := by
  cases command with
  | order wanted =>
      cases wanted with
      | shutdown =>
          rfl
      | _ =>
          contradiction
  | _ =>
      contradiction

theorem GoingOn.stroke [Wire ω]
    {before after : Machine app ω} (goingOn : GoingOn before)
    (distinct : before.connection.pending.Distinct) (stroke : Stroke before after) :
    GoingOn after ∨ Ending after := by
  cases stroke with
  | @taken command rest agenda isRunning inbox =>
      cases stops : command.stops with
      | false =>
          refine .inl ⟨isRunning, ?_, ?_⟩
          · simp [goingOn.taken, stops]
          · simp [Job.stops, stops]
      | true =>
          rw [Command.eq_shutdown stops]
          exact .inr ⟨⟨before.taken, rfl, goingOn.taken⟩, fun _ => rfl, .inl rfl⟩
  | woken agenda isRunning =>
      exact .inl ⟨isRunning, goingOn.taken, rfl⟩
  | @worked job rest agenda =>
      have noStop := goingOn.agenda
      rw [agenda, List.any_cons, Bool.or_eq_false_iff] at noStop
      have goesOn : job ≠ .halt := by
        rintro rfl
        exact Bool.noConfusion noStop.1
      have move := job.move before.now before.connection distinct
      refine .inl ⟨(move.grows goesOn).running.trans goingOn.running, goingOn.taken, ?_⟩
      change (_ ++ rest).any Job.stops = false
      rw [List.any_append, move.stops goesOn, noStop.1, noStop.2]
      rfl
  | reordered agenda =>
      have noStop := goingOn.agenda
      rw [agenda] at noStop
      exact .inl ⟨goingOn.running, goingOn.taken, noStop⟩
  | sent flying sends =>
      exact .inl ⟨sends.grows.running.trans goingOn.running, goingOn.taken, goingOn.agenda⟩
  | still now =>
      exact .inl ⟨goingOn.running, goingOn.taken, goingOn.agenda⟩

/-- Where nothing is pending and no job enters a request, this stays so until the worker takes a
command. -/
theorem Stroke.stays_settled [Wire ω]
    {before after : Machine app ω} (stroke : Stroke before after)
    (distinct : before.connection.pending.Distinct) (sameTaken : after.taken = before.taken)
    (settled : before.connection.pending = [] ∧ ∀ job ∈ before.agenda, job.enters = false) :
    after.connection.pending = [] ∧ ∀ job ∈ after.agenda, job.enters = false := by
  obtain ⟨isEmpty, settled⟩ := settled
  cases stroke with
  | taken agenda isRunning inbox =>
      exact absurd (List.append_right_eq_self.mp sameTaken) (List.cons_ne_nil _ _)
  | woken agenda isRunning =>
      refine ⟨isEmpty, ?_⟩
      intro next isNext
      rw [List.mem_singleton.mp isNext]
      rfl
  | @worked job rest agenda =>
      rw [agenda] at settled
      have move := job.move before.now before.connection distinct
      obtain ⟨jobs, staysEmpty⟩ := move.settles (settled job List.mem_cons_self)
      refine ⟨staysEmpty isEmpty, ?_⟩
      intro next isNext
      rcases List.mem_append.mp isNext with isNew | isLater
      · exact jobs next isNew
      · exact settled next (List.mem_cons_of_mem job isLater)
  | reordered agenda =>
      rw [agenda] at settled
      refine ⟨isEmpty, ?_⟩
      intro next isNext
      rcases List.mem_cons.mp isNext with rfl | isLater
      · rfl
      · exact settled next (List.mem_cons_of_mem _ isLater)
  | sent flying sends =>
      exact ⟨sends.pending.trans isEmpty, settled⟩
  | still now =>
      exact ⟨isEmpty, settled⟩

theorem Ending.stroke [Wire ω]
    {before after : Machine app ω} (ending : Ending before)
    (distinct : before.connection.pending.Distinct) (stroke : Stroke before after) :
    Ending after := by
  cases stroke with
  | taken agenda isRunning inbox =>
      have stops := ending.ahead isRunning
      rw [agenda] at stops
      contradiction
  | woken agenda isRunning =>
      have stops := ending.ahead isRunning
      rw [agenda] at stops
      contradiction
  | @worked job rest agenda =>
      have move := job.move before.now before.connection distinct
      refine ⟨ending.taken, ?_, ?_⟩
      · intro isRunning
        by_cases goesOn : job = .halt
        · subst goesOn
          have stopped : before.connection.halt.running = false :=
            (sends_halt before.connection).grows.running
          exact Bool.noConfusion (stopped.symm.trans isRunning)
        · have wasRunning := (move.grows goesOn).running.symm.trans isRunning
          have stops := ending.ahead wasRunning
          rw [agenda, List.any_cons, ← move.stops goesOn, ← List.any_append] at stops
          exact stops
      · right
        rcases ending.settled with isOrder | settled
        · rw [isOrder] at agenda
          obtain ⟨rfl, rfl⟩ := List.cons.inj agenda
          obtain ⟨jobs, isEmpty⟩ := move.empties
          refine ⟨isEmpty, ?_⟩
          intro next isNext
          rcases List.mem_append.mp isNext with isNew | isLast
          · exact jobs next isNew
          · rw [List.mem_singleton.mp isLast]
            rfl
        · exact (Stroke.worked agenda).stays_settled distinct rfl settled
  | @reordered listed hooks rest agenda =>
      have ahead := ending.ahead
      rw [agenda] at ahead
      refine ⟨ending.taken, ahead, .inr ?_⟩
      rcases ending.settled with isOrder | settled
      · rw [isOrder] at agenda
        have sameHead := (List.cons.inj agenda).1
        contradiction
      · exact (Stroke.reordered agenda).stays_settled distinct rfl settled
  | sent flying sends =>
      refine ⟨ending.taken, ?_, ?_⟩
      · intro isRunning
        exact ending.ahead (sends.grows.running.symm.trans isRunning)
      · exact ending.settled.imp_right
          ((Stroke.sent flying sends).stays_settled distinct rfl)
  | still now =>
      exact ⟨ending.taken, ending.ahead, ending.settled⟩

/-- A worker that goes on may come to an end, and one that has come to it stays there. -/
theorem goingOn_or_ending_stroke [Wire ω]
    {before after : Machine app ω} (phase : GoingOn before ∨ Ending before)
    (distinct : before.connection.pending.Distinct) (stroke : Stroke before after) :
    GoingOn after ∨ Ending after := by
  rcases phase with goingOn | ending
  · exact goingOn.stroke distinct stroke
  · exact .inr (ending.stroke distinct stroke)

theorem goingOn_or_ending_of_reachable [Wire ω]
    {machine : Machine app ω} (reachable : machine.Reachable)
    (bound : machine.accepted.length ≤ 2 ^ 64) : GoingOn machine ∨ Ending machine := by
  obtain ⟨wire, memory, defaultTimeout, schedule, rfl⟩ := reachable
  have atStart : GoingOn (Machine.start wire memory defaultTimeout : Machine app ω) :=
    ⟨rfl, rfl, rfl⟩
  refine (Machine.lasting_induction
    (fun reached => Ledger reached ∧ (GoingOn reached ∨ Ending reached)) schedule
    ⟨Ledger.start wire memory defaultTimeout, .inl atStart⟩ ?_ bound).2
  intro before after boundBefore ⟨ledger, phase⟩ stroke
  exact ⟨ledger.stroke boundBefore stroke,
    goingOn_or_ending_stroke phase (ledger.distinct boundBefore) stroke⟩

/-! ## What becomes of the requests -/

/-- The commands that came to the inbox before the first order to shut down. -/
def Machine.ahead (machine : Machine app ω) : List (Command app) :=
  machine.entered.takeWhile fun command => !command.stops

theorem Ending.ahead_eq
    {machine : Machine app ω} (ending : Ending machine) (ledger : Ledger machine) :
    promisesIn machine.ahead = promisesIn machine.taken := by
  obtain ⟨front, taken, noStop⟩ := ending.taken
  obtain ⟨waiting, entered, -⟩ := ledger.inbox
  have isFront : machine.ahead = front := by
    rw [Machine.ahead, entered, taken, List.append_assoc, List.singleton_append,
      List.takeWhile_append_of_pos]
    · exact List.append_nil front
    · intro command isCommand
      simpa using List.any_eq_false.mp noStop command isCommand
  rw [isFront, taken, promisesIn_append]
  exact (List.append_nil _).symm

/-- When the worker has stopped, the requests that came to the inbox ahead of the first order to
shut down have their outcomes, each one, and those that came behind it have none, though they were
accepted. -/
theorem completed_iff_ahead_of_shutdown [Wire ω]
    {machine : Machine app ω} (reachable : machine.Reachable)
    (bound : machine.accepted.length ≤ 2 ^ 64)
    (idle : machine.agenda = []) (stopped : machine.connection.running = false) :
    (keptIn machine.history).Perm (promisesIn machine.ahead) ∧
      ∀ id ∈ machine.accepted,
        machine.completed.count id =
          if id ∈ (promisesIn machine.ahead).map (·.id) then 1 else 0 := by
  have ledger := Ledger.of_reachable reachable bound
  rcases goingOn_or_ending_of_reachable reachable bound with goingOn | ending
  · exact Bool.noConfusion (stopped.symm.trans goingOn.running)
  have isEmpty : machine.connection.pending = [] := by
    rcases ending.settled with isOrder | ⟨isEmpty, -⟩
    · rw [idle] at isOrder
      contradiction
    · exact isEmpty
  have kept : (keptIn machine.history).Perm (promisesIn machine.ahead) := by
    have held := ledger.balance
    rw [idle, isEmpty] at held
    rw [ending.ahead_eq ledger]
    exact held
  refine ⟨kept, ?_⟩
  intro id isAccepted
  have ids := kept.map (·.id)
  rw [← ledger.completed_eq] at ids
  rw [ids.count_eq]
  have distinct : ((promisesIn machine.ahead).map (·.id)).Nodup :=
    ids.nodup_iff.mp (ledger.nodup_everywhere bound).of_append_right
  split
  · rename_i isAhead
    exact List.count_eq_one_of_mem distinct isAhead
  · rename_i isBehind
    exact List.count_eq_zero.mpr isBehind

/-- A request whose callback asks again when it fails, and then an order to shut down. -/
def askAgain : List (Choice bare (MemoryWire Unit)) :=
  [.act (.request "ask" (.ok none) .none (.callback fun _ =>
      .request "again" (.ok none) .none (.callback fun _ => .done) fun _ => .done)),
    .take, .work, .work, .work, .work, .act (.order .shutdown),
    .take, .work, .work, .work, .work, .work, .work, .work]

/-- The machine after that schedule. -/
def afterAskAgain : Machine bare (MemoryWire Unit) :=
  (Machine.start .new () none).run askAgain

/-- The callback of the second request is never called. -/
theorem request_behind_shutdown_is_lost :
    afterAskAgain.Reachable ∧
      afterAskAgain.agenda.isEmpty = true ∧
      afterAskAgain.connection.running = false ∧
      afterAskAgain.accepted = [.number 1, .number 2] ∧
      afterAskAgain.completed = [.number 1] :=
  ⟨⟨.new, (), none, askAgain, rfl⟩, by decide +kernel⟩

theorem completed_ahead_of_shutdown_only :
    afterAskAgain.Reachable ∧
      afterAskAgain.accepted.length ≤ 2 ^ 64 ∧
      afterAskAgain.agenda = [] ∧
      afterAskAgain.connection.running = false ∧
      ∀ id ∈ afterAskAgain.accepted,
        afterAskAgain.completed.count id =
          if id ∈ (promisesIn afterAskAgain.ahead).map (·.id) then 1 else 0 := by
  have reachable : afterAskAgain.Reachable := ⟨.new, (), none, askAgain, rfl⟩
  have bound : afterAskAgain.accepted.length ≤ 2 ^ 64 := by decide +kernel
  have isEmpty : afterAskAgain.agenda.isEmpty = true := by decide +kernel
  have idle := List.isEmpty_iff.mp isEmpty
  have stopped : afterAskAgain.connection.running = false := by decide +kernel
  exact ⟨reachable, bound, idle, stopped,
    (completed_iff_ahead_of_shutdown reachable bound idle stopped).2⟩

end RpcEndpoint
