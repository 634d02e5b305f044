import RpcEndpoint.Proofs.Accounts.Requests
import RpcEndpoint.Proofs.Schedule.Turn

/-!
# Winding up

When requests have left the table, the worker still has to tell their ends and to hand out their
outcomes. These jobs leave the table alone, and each of them owes marks to the log: what stands in
the log and what is owed add up to the same from one step to the next (`Posting.winds`). So when
the worker comes to the end, all marks stand there, in their order, whatever the callbacks and the
other threads do in between.
-/

namespace RpcEndpoint

open Connection

variable {app : Application} {ω : Type}

/-! ## What jobs owe -/

/-- Whether a job only tells the end of a request, or belongs to a callback that is told it. -/
def Job.winds : Job app → Bool
  | .timeOut _ | .emit _ | .finish _ _ | .deliver _ _ => true
  | job => job.runs

/-- The marks that a job still has to leave in the log. -/
def Job.owing : Job app → List (Occurrence app)
  | .timeOut entry =>
    [.emitted (.requestTimedOut entry.id entry.method),
      .completed entry.id (.error entry.lateness)]
  | .emit event => [.emitted event]
  | .finish entry outcome => [.completed entry.id outcome]
  | .deliver promise outcome => [.completed promise.id outcome]
  | _ => []

def owingOf (jobs : List (Job app)) : List (Occurrence app) :=
  jobs.flatMap Job.owing

/-- The counts when all events among some marks have been told. -/
def Stats.told (marks : List (Occurrence app)) (stats : Stats) : Stats :=
  (marks.filterMap Occurrence.event?).foldl Stats.count stats

theorem owingOf_append (left right : List (Job app)) :
    owingOf (left ++ right) = owingOf left ++ owingOf right :=
  List.flatMap_append

theorem Stats.told_append (left right : List (Occurrence app)) (stats : Stats) :
    stats.told (left ++ right) = (stats.told left).told right := by
  rw [told, List.filterMap_append, List.foldl_append]
  rfl

/-- Without an event among the marks, nothing is counted. -/
theorem Stats.told_of_silent
    {marks : List (Occurrence app)} (silent : marks.filterMap Occurrence.event? = [])
    (stats : Stats) : stats.told marks = stats := by
  rw [told, silent]
  rfl

theorem Job.winds_of_runs {job : Job app} (runs : job.runs = true) : job.winds = true := by
  cases job <;> first | rfl | contradiction

/-- Callbacks owe nothing. -/
theorem owingOf_of_runs
    {jobs : List (Job app)} (running : ∀ job ∈ jobs, job.runs = true) : owingOf jobs = [] :=
  List.flatMap_eq_nil_iff.mpr
    (Job.of_runs (fun _ => rfl) (fun _ => rfl) (fun _ => rfl) running)

/-! ## One step -/

/-- What the first step of a job that winds up does. -/
structure Wound (before : Connection app ω) (progress : Progress app ω) (job : Job app) :
    Prop where
  jobs : ∀ next ∈ progress.jobs, next.winds = true
  pending : progress.connection.pending = before.pending
  marks : progress.connection.marks ++ owingOf progress.jobs = before.marks ++ job.owing
  stats : progress.connection.stats.told (owingOf progress.jobs) = before.stats.told job.owing

/-- A job that winds up pays what it owes, or leaves it to the jobs that come of it. -/
theorem Posting.winds [Wire ω]
    {before : Connection app ω} {progress : Progress app ω} {job : Job app}
    (posting : Posting before progress job) (winds : job.winds = true) :
    Wound before progress job := by
  have read {after : Books app} (books : progress.connection.books = after) :
      progress.connection.pending = after.pending ∧ progress.connection.marks = after.marks ∧
        progress.connection.stats = after.stats :=
    ⟨congrArg Books.pending books, congrArg Books.marks books, congrArg Books.stats books⟩
  cases posting with
  | idle isIdle jobs books =>
      obtain ⟨pending, marks, stats⟩ := read books
      have nothing : job.owing = [] := by
        cases job <;> first | rfl | contradiction
      refine ⟨fun next isNext => Job.winds_of_runs (jobs next isNext), pending, ?_, ?_⟩
      · rw [owingOf_of_runs jobs, nothing, marks]
        rfl
      · rw [owingOf_of_runs jobs, nothing, stats]
        rfl
  | honoured jobs books | announced jobs books =>
      obtain ⟨pending, marks, stats⟩ := read books
      refine ⟨fun next isNext => Job.winds_of_runs (jobs next isNext), pending, ?_, ?_⟩
      · rw [owingOf_of_runs jobs, marks, List.append_nil]
        rfl
      · rw [owingOf_of_runs jobs, stats]
        rfl
  | finished jobs books | late jobs books =>
      obtain ⟨pending, marks, stats⟩ := read books
      refine ⟨by simp [jobs, Job.winds], pending, ?_, ?_⟩
      · rw [jobs, marks]
        rfl
      · rw [jobs, stats]
        rfl
  | _ =>
      contradiction

/-! ## The end of an iteration -/

/-- The look at the deadlines comes of no job. -/
theorem Posting.not_swept [Wire ω]
    {before : Connection app ω} {progress : Progress app ω} {job : Job app}
    (posting : Posting before progress job) : .sweep ∉ progress.jobs :=
  fun isNext => posting.mayBring isNext

/-- The look at the deadlines is the last thing that the worker has before it. -/
theorem last_of_sweep [Wire ω]
    {machine : Machine app ω} (reachable : machine.Reachable)
    {earlier rest : List (Job app)} (agenda : machine.agenda = earlier ++ .sweep :: rest) :
    rest = [] := by
  refine reachable.booked_induction
    (fun reached => ∀ earlier rest, reached.agenda = earlier ++ .sweep :: rest → rest = [])
    ?_ ?_ earlier rest agenda
  · intro wire memory defaultTimeout earlier rest agenda
    have nothing := congrArg List.length agenda
    simp [Machine.start] at nothing
  · intro before choice after orderly booked held earlier rest agenda
    cases booked with
    | taken idle =>
        cases earlier with
        | nil =>
            have sameHead := (List.cons.inj agenda).1
            contradiction
        | cons first earlier =>
            have sameRest := (List.cons.inj agenda).2
            cases earlier with
            | nil =>
                exact (List.cons.inj sameRest).2.symm
            | cons second earlier =>
                have tooLong := congrArg List.length sameRest
                simp at tooLong
    | woken idle =>
        cases earlier with
        | nil =>
            exact (List.cons.inj agenda).2.symm
        | cons first earlier =>
            have tooLong := congrArg List.length agenda
            simp at tooLong
    | @worked job others head =>
        have unswept := (job.posting before.now before.connection).not_swept
        change _ ++ others = _ at agenda
        rcases List.append_eq_append_iff.mp agenda with
          ⟨between, isEarlier, isOthers⟩ | ⟨between, isJobs, isRest⟩
        · apply held (job :: between) rest
          rw [head, isOthers]
          rfl
        · cases between with
          | nil =>
              have isOthers : others = .sweep :: rest := isRest.symm
              apply held [job] rest
              rw [head, isOthers]
              rfl
          | cons first between =>
              have isFirst : first = .sweep := (List.cons.inj isRest).1.symm
              exact absurd (by rw [isJobs, isFirst]; simp) unswept
    | @reordered listed hooks others head =>
        cases earlier with
        | nil =>
            have sameHead := (List.cons.inj agenda).1
            contradiction
        | cons first earlier =>
            apply held (.signal listed :: earlier) rest
            rw [head, (List.cons.inj agenda).2]
            rfl
    | called isRunning sameAgenda | beside unworked silent sameAgenda =>
        exact held earlier rest (sameAgenda ▸ agenda)

/-- Whether the worker begins another iteration, if it has nothing before it. -/
def Choice.begins : Choice app ω → Bool
  | .take | .wake => true
  | _ => false

/-- The worker winds up what comes before the rest of its agenda. When it has, the table, the marks
and the counts are these. -/
def Machine.WindsUp
    (rest : List (Job app)) (pending : PendingTable app) (marks : List (Occurrence app))
    (stats : Stats) (machine : Machine app ω) : Prop :=
  ∃ jobs, machine.agenda = jobs ++ rest ∧ (∀ job ∈ jobs, job.winds = true) ∧
    machine.connection.pending = pending ∧
    machine.connection.marks ++ owingOf jobs = marks ∧
    machine.connection.stats.told (owingOf jobs) = stats

namespace Machine.WindsUp

variable [Wire ω] {rest : List (Job app)} {pending : PendingTable app}
  {marks : List (Occurrence app)} {stats : Stats} {machine : Machine app ω}

/-- It goes on to do so, until it comes to the rest. -/
theorem next
    (windsUp : machine.WindsUp rest pending marks stats)
    (noSignal : ∀ hooks, .signal hooks ∉ rest) {choice : Choice app ω}
    (continues : choice.begins = false) :
    (machine.next choice).WindsUp rest pending marks stats ∨
      choice = .work ∧ machine.agenda = rest := by
  obtain ⟨jobs, agenda, winds, isPending, isMarks, isStats⟩ := windsUp
  have booked := machine.booked choice
  generalize machine.next choice = after at booked
  cases booked with
  | taken | woken =>
      contradiction
  | @worked job others head =>
      rw [head] at agenda
      cases jobs with
      | nil =>
          exact .inr ⟨rfl, head.trans agenda⟩
      | cons first jobs =>
          obtain ⟨rfl, rfl⟩ := List.cons.inj agenda
          have wound := (job.posting machine.now machine.connection).winds
            (winds job List.mem_cons_self)
          refine .inl ⟨(job.step machine.now machine.connection).jobs ++ jobs,
            (List.append_assoc _ _ _).symm, ?_, wound.pending.trans isPending, ?_, ?_⟩
          · intro next isNext
            rcases List.mem_append.mp isNext with isNew | isLater
            · exact wound.jobs next isNew
            · exact winds next (List.mem_cons_of_mem _ isLater)
          · change (job.step machine.now machine.connection).connection.marks ++ _ = _
            rw [owingOf_append, ← List.append_assoc, wound.marks, List.append_assoc]
            exact isMarks
          · change (job.step machine.now machine.connection).connection.stats.told _ = _
            rw [owingOf_append, Stats.told_append, wound.stats, ← Stats.told_append]
            exact isStats
  | @reordered listed hooks others head =>
      rw [head] at agenda
      cases jobs with
      | nil =>
          rw [List.nil_append] at agenda
          exact absurd (agenda ▸ List.mem_cons_self) (noSignal listed)
      | cons first jobs =>
          obtain ⟨rfl, rfl⟩ := List.cons.inj agenda
          refine .inl ⟨.signal hooks :: jobs, rfl, ?_, isPending, isMarks, isStats⟩
          intro next isNext
          rcases List.mem_cons.mp isNext with rfl | isLater
          · rfl
          · exact winds next (List.mem_cons_of_mem _ isLater)
  | called isRunning sameAgenda taken history books
  | beside unworked silent sameAgenda taken history books =>
      refine .inl ⟨jobs, sameAgenda.trans agenda, winds, ?_, ?_, ?_⟩
      · exact (congrArg Books.pending books).trans isPending
      · rw [show after.connection.marks = machine.connection.marks from
          congrArg Books.marks books]
        exact isMarks
      · rw [show after.connection.stats = machine.connection.stats from
          congrArg Books.stats books]
        exact isStats

/-- With nothing left behind it, the worker only winds up until another iteration begins. -/
theorem run
    (windsUp : machine.WindsUp [] pending marks stats) {schedule : List (Choice app ω)}
    (continues : ∀ choice ∈ schedule, choice.begins = false) :
    (machine.run schedule).WindsUp [] pending marks stats := by
  induction schedule generalizing machine with
  | nil =>
      exact windsUp
  | cons choice later inductionHypothesis =>
      have continuesLater : ∀ other ∈ later, other.begins = false :=
        fun other isLater => continues other (List.mem_cons_of_mem _ isLater)
      rcases windsUp.next (fun _ => List.not_mem_nil) (continues choice List.mem_cons_self) with
        stillWinds | ⟨rfl, idle⟩
      · exact inductionHypothesis stillWinds continuesLater
      · have same : machine.next .work = machine := by
          rw [Machine.next, idle]
        change ((machine.next .work).run later).WindsUp _ _ _ _
        rw [same]
        exact inductionHypothesis windsUp continuesLater

end Machine.WindsUp

/-- Jobs that wind up, done without interruption. -/
theorem Settles.winds [Wire ω]
    {now : Instant} {jobs : List (Job app)} {before after : Connection app ω}
    (settles : Settles now jobs before after) (winds : ∀ job ∈ jobs, job.winds = true) :
    after.pending = before.pending ∧ after.marks = before.marks ++ owingOf jobs ∧
      after.stats = before.stats.told (owingOf jobs) := by
  induction settles with
  | none connection =>
      exact ⟨rfl, (List.append_nil _).symm, rfl⟩
  | @first job rest before after settles inductionHypothesis =>
      have wound := (job.posting now before).winds (winds job List.mem_cons_self)
      obtain ⟨pending, marks, stats⟩ := inductionHypothesis <| by
        intro next isNext
        rcases List.mem_append.mp isNext with isNew | isLater
        · exact wound.jobs next isNew
        · exact winds next (List.mem_cons_of_mem _ isLater)
      refine ⟨pending.trans wound.pending, ?_, ?_⟩
      · rw [marks, owingOf_append, ← List.append_assoc, wound.marks, List.append_assoc]
        rfl
      · rw [stats, owingOf_append, Stats.told_append, wound.stats, ← Stats.told_append]
        rfl

end RpcEndpoint
