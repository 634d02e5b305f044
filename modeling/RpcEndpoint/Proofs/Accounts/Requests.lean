import RpcEndpoint.Proofs.Accounts.Always
import RpcEndpoint.Proofs.Requests.Leaving

/-!
# The account of requests

Every request that the wire has accepted is pending or has left the table in one of four ways: it
was answered, cancelled or late, or it has failed with all others. The counts, the events and what
was failed all at once add up to that, and the gauge follows the table on every path.
-/

namespace RpcEndpoint

open Connection

variable {app : Application} {ω : Type}

/-! ## The gauge -/

/-- The gauge shows the number of pending requests. -/
def Books.Gauged (books : Books app) : Prop :=
  books.stats.pending = books.pending.length

/-- Events do not count for requests. -/
theorem Stats.requests_count (stats : Stats) (event : Event) :
    (stats.count event).requestsSent = stats.requestsSent ∧
      (stats.count event).responsesMatched = stats.responsesMatched ∧
      (stats.count event).pending = stats.pending := by
  cases event <;> exact ⟨rfl, rfl, rfl⟩

/-- Only between the entry of a request and its write the gauge is behind. -/
theorem Posting.gauged [Wire ω]
    {before : Connection app ω} {progress : Progress app ω} {job : Job app}
    (posting : Posting before progress job)
    (gauged : (∀ message, job ≠ .send message) → before.books.Gauged) :
    (∃ message, progress.jobs = [.send message]) ∨ progress.connection.books.Gauged := by
  cases posting with
  | launched entry promise jobs books =>
      exact .inl ⟨_, jobs⟩
  | expelled | sent | withdrawn | matched | swept =>
      rename_i books
      right
      rw [books]
      rfl
  | idle isIdle jobs books =>
      right
      rw [books]
      apply gauged
      rintro message rfl
      contradiction
  | @drained command failure count fells jobs counted books =>
      right
      rw [books]
      change count = 0
      rw [counted]
      split
      · rename_i isEmpty
        have wasGauged : before.stats.pending = before.pending.length := gauged (by simp)
        rw [wasGauged, isEmpty]
        rfl
      · rfl
  | announced jobs books =>
      right
      rw [books]
      exact (Stats.requests_count _ _).2.2.trans (gauged (by simp))
  | _ =>
      rename_i books
      right
      rw [books]
      exact gauged (by simp)

/-- The gauge shows the number of pending requests, or a request is about to be written. -/
def Machine.Gauged (machine : Machine app ω) : Prop :=
  (∃ message rest, machine.agenda = .send message :: rest) ∨ machine.connection.books.Gauged

theorem Booked.gauged [Wire ω]
    {before after : Machine app ω} {choice : Choice app ω}
    (booked : Booked before choice after) (gauged : before.Gauged) : after.Gauged := by
  cases booked with
  | taken agenda | woken agenda | reordered agenda =>
      refine .inr (gauged.resolve_left ?_)
      rintro ⟨message, rest, isSend⟩
      simp [isSend] at agenda
  | @worked job rest agenda =>
      have posting := job.posting before.now before.connection
      have wasGauged (unsent : ∀ message, job ≠ .send message) :
          before.connection.books.Gauged := by
        refine gauged.resolve_left ?_
        rintro ⟨message, others, isSend⟩
        rw [agenda] at isSend
        exact unsent message (List.cons.inj isSend).1
      rcases posting.gauged wasGauged with ⟨message, jobs⟩ | gauged
      · left
        refine ⟨message, rest, ?_⟩
        rw [Machine.absorb, jobs]
        rfl
      · exact .inr gauged
  | called isRunning agenda taken history books
  | beside unworked silent agenda taken history books =>
      rw [Machine.Gauged, agenda, books]
      exact gauged

/-- While no request is being written, the gauge shows the number of pending requests. -/
theorem Machine.Gauged.pending
    {machine : Machine app ω} (gauged : machine.Gauged)
    (unwritten : ∀ message rest, machine.agenda ≠ .send message :: rest) :
    machine.connection.stats.pending = machine.connection.pending.length := by
  refine gauged.resolve_left ?_
  rintro ⟨message, rest, agenda⟩
  exact unwritten message rest agenda

theorem gauged_of_reachable [Wire ω]
    {machine : Machine app ω} (reachable : machine.Reachable)
    (unwritten : ∀ message rest, machine.agenda ≠ .send message :: rest) :
    machine.connection.stats.pending = machine.connection.pending.length := by
  have gauged : machine.Gauged := reachable.booked_induction Machine.Gauged
    (fun _ _ _ => .inr rfl) fun _ _ _ _ booked held => booked.gauged held
  exact gauged.pending unwritten

/-! ## What a step does to the account -/

/-- Whether an event tells that a request was cancelled. -/
def Event.isCancelled : Event → Bool
  | .requestCancelled _ _ => true
  | _ => false

/-- Whether an event tells that a request was late. -/
def Event.isTimedOut : Event → Bool
  | .requestTimedOut _ _ => true
  | _ => false

/-- The event that an occurrence tells. -/
def Occurrence.event? : Occurrence app → Option Event
  | .emitted event => some event
  | _ => none

/-- Whether an occurrence tells the early end of a request. -/
def Occurrence.ends : Occurrence app → Bool
  | .emitted event => event.isCancelled || event.isTimedOut
  | _ => false

namespace Connection

/-- The events that observers were told. -/
def events (connection : Connection app ω) : List Event :=
  connection.log.filterMap Occurrence.event?

/-- The marks tell of the early ends what the events tell. -/
theorem countP_ends (connection : Connection app ω) :
    connection.marks.countP Occurrence.ends =
      connection.events.countP Event.isCancelled + connection.events.countP Event.isTimedOut := by
  unfold marks events
  induction connection.log with
  | nil =>
      rfl
  | cons occurrence rest inductionHypothesis =>
      rw [List.filter_cons, List.filterMap_cons]
      cases occurrence with
      | emitted event =>
          simp only [Occurrence.isMark, Occurrence.event?, if_true, List.countP_cons,
            inductionHypothesis]
          cases event <;> simp [Occurrence.ends, Event.isCancelled, Event.isTimedOut] <;> omega
      | wrote | refused | noted =>
          exact inductionHypothesis
      | completed | notified | asked | puzzled =>
          simpa [Occurrence.isMark, Occurrence.event?, List.countP_cons, Occurrence.ends] using
            inductionHypothesis

end Connection

/-- The requests that the first step of a job fails all at once, and why they fail: all that are
pending when this is ordered, when the connection is closed or when it is shut down. -/
def Job.felled (connection : Connection app ω) : Job app → List (MessageId × Failure)
  | .carryOut command =>
    match command.fells with
    | some failure => connection.pending.inOrder.map fun entry => (entry.id, failure)
    | none => []
  | _ => []

/-- The requests that were failed all at once along a schedule. -/
def Machine.felled [Wire ω] (machine : Machine app ω) (schedule : List (Choice app ω)) :
    List (MessageId × Failure) :=
  machine.jottings Job.felled schedule

namespace Job

/-- Whether a job writes a request that has been entered. -/
def isSend : Job app → Bool
  | .send _ => true
  | _ => false

/-- Whether a job will tell the early end of a request that has left the table. -/
def tells : Job app → Bool
  | .emit event => event.isCancelled || event.isTimedOut
  | .timeOut _ => true
  | _ => false

/-- A callback writes no request and tells no end. -/
theorem countP_of_runs {jobs : List (Job app)} (running : ∀ job ∈ jobs, job.runs = true) :
    jobs.countP isSend = 0 ∧ jobs.countP tells = 0 := by
  refine ⟨List.countP_eq_zero.mpr ?_, List.countP_eq_zero.mpr ?_⟩
  · exact of_runs (fun _ => Bool.false_ne_true) (fun _ => Bool.false_ne_true)
      (fun _ => Bool.false_ne_true) running
  · exact of_runs (fun _ => Bool.false_ne_true) (fun _ => Bool.false_ne_true)
      (fun _ => Bool.false_ne_true) running

theorem countP_of_mayIdle {job : Job app} (idle : job.mayIdle = true) :
    job.isSend = false ∧ job.tells = false ∧
      ∀ connection : Connection app ω, job.felled connection = [] := by
  cases job with
  | carryOut command =>
      refine ⟨rfl, rfl, fun connection => ?_⟩
      have fellsNobody : command.fells = none := by
        cases command with
        | order order =>
            cases order <;> first | rfl | contradiction
        | _ =>
            rfl
      rw [felled, fellsNobody]
  | release | react | signal | sweep =>
      exact ⟨rfl, rfl, fun _ => rfl⟩
  | _ =>
      contradiction

theorem countP_closing (command : Command app) :
    command.closing.countP isSend = 0 ∧ command.closing.countP tells = 0 := by
  unfold Command.closing
  split <;> exact ⟨rfl, rfl⟩

end Job

/-- The requests that are pending, answered, or told to have ended early. -/
def Books.placed (books : Books app) : Nat :=
  books.stats.responsesMatched + books.marks.countP Occurrence.ends + books.pending.length

/-- What the first step of a job adds to the account on one side it adds on the other. -/
theorem Posting.balance [Wire ω]
    {before : Connection app ω} {progress : Progress app ω} {job : Job app}
    (posting : Posting before progress job) (distinct : before.pending.Distinct)
    (isNew : ∀ message options sink, job = .launch message options sink →
      message.id ∉ before.pending.ids)
    (isEntered : ∀ message, job = .send message → message.id ∈ before.pending.ids) :
    progress.connection.books.stats.requestsSent + progress.jobs.countP Job.isSend +
        (before.books.placed + [job].countP Job.tells) =
      before.books.stats.requestsSent + [job].countP Job.isSend +
        (progress.connection.books.placed + progress.jobs.countP Job.tells) +
        (job.felled before).length := by
  have lengths {id : MessageId} {entry : PendingRequest app}
      (found : before.pending.find id = some entry) :
      before.pending.length = (before.pending.remove id).length + 1 :=
    (PendingTable.perm_remove distinct found).length_eq
  -- Only what touches the table, the counts or the events moves anything; the rest is at the end.
  cases posting with
  | idle isIdle jobs books =>
      obtain ⟨noSend, tellsNothing⟩ := Job.countP_of_runs jobs
      obtain ⟨isNoSend, isNotTold, fellsNobody⟩ := Job.countP_of_mayIdle isIdle
      rw [books, noSend, tellsNothing, fellsNobody]
      simp [isNoSend, isNotTold]
  | fed jobs books =>
      rw [jobs, books]
      simp [Job.isSend, Job.tells, Job.felled, Command.fells, Function.comp_def,
        Event.isCancelled, Event.isTimedOut, Books.placed]
  | expelled entry found jobs books =>
      have oneLess := lengths found
      rw [jobs, books]
      simp [Job.isSend, Job.tells, Job.felled, Command.fells, Event.isCancelled, Books.placed,
        Connection.books]
      omega
  | @drained command failure count fells jobs counted books =>
      obtain ⟨noSend, tellsNothing⟩ := Job.countP_closing command
      have sameLength := before.pending.perm_inOrder.length_eq
      rw [jobs, books]
      simp [Job.isSend, Job.tells, Job.felled, fells, noSend, tellsNothing, Function.comp_def,
        Books.placed, Connection.books]
      omega
  | @launched message options sink entry promise jobs books =>
      have sameId : entry.id = message.id := congrArg Promise.id promise
      have newId := isNew message options sink rfl
      rw [← sameId] at newId
      rw [jobs, books, PendingTable.insert_of_not_mem newId]
      simp [Job.isSend, Job.tells, Job.felled, Books.placed, Connection.books]
      omega
  | sent jobs books =>
      rw [jobs, books]
      simp [Job.isSend, Job.tells, Job.felled, Books.placed, Connection.books]
  | @withdrawn message failure jobs books =>
      cases found : before.pending.find message.id with
      | none =>
          exact absurd (isEntered message rfl) (PendingTable.find_eq_none_iff.mp found)
      | some entry =>
          have oneLess := lengths found
          rw [jobs, books, found]
          simp [Job.isSend, Job.tells, Job.felled, Books.placed, Connection.books]
          omega
  | @announced event jobs books =>
      obtain ⟨noSend, tellsNothing⟩ := Job.countP_of_runs jobs
      obtain ⟨sameSent, sameMatched, -⟩ := before.stats.requests_count event
      rw [books, noSend, tellsNothing]
      simp [Job.isSend, Job.tells, Job.felled, Books.placed, Occurrence.ends, Connection.books,
        sameSent, sameMatched]
      omega
  | late jobs books =>
      rw [jobs, books]
      simp [Job.isSend, Job.tells, Job.felled, Event.isTimedOut]
  | matched entry classified found jobs books =>
      have oneLess := lengths found
      rw [jobs, books]
      simp [Job.isSend, Job.tells, Job.felled, Books.placed, Connection.books]
      omega
  | wondered reason classified jobs books =>
      rw [jobs, books]
      simp [Job.isSend, Job.tells, Job.felled, Event.isCancelled, Event.isTimedOut,
        Function.comp_def]
  | swept now jobs books =>
      have parted := (PendingTable.perm_due now before.pending).length_eq
      rw [List.length_append] at parted
      rw [jobs, books]
      simp [Job.isSend, Job.tells, Job.felled, Books.placed, Function.comp_def, Connection.books]
      omega
  | honoured jobs books =>
      obtain ⟨noSend, tellsNothing⟩ := Job.countP_of_runs jobs
      rw [books, noSend, tellsNothing]
      simp [Job.isSend, Job.tells, Job.felled, Books.placed, Occurrence.ends, Connection.books]
  | notified | asked | puzzled =>
      rename_i jobs books
      rw [jobs, books]
      simp [Job.isSend, Job.tells, Job.felled, Books.placed, Occurrence.ends, Connection.books]
  | _ =>
      rename_i jobs books
      rw [jobs, books]
      rfl

/-! ## The account of a schedule -/

/-- What was sent is on one side of the account, with what is about to be; on the other side is what
has become of it. Whom an order has failed comes to that failure. -/
structure Accounted (felled : List (MessageId × Failure)) (machine : Machine app ω) : Prop where
  balance :
    machine.connection.books.stats.requestsSent + machine.agenda.countP Job.isSend =
      machine.connection.books.placed + machine.agenda.countP Job.tells + felled.length
  fails : ∀ id failure, (id, failure) ∈ felled → machine.Fails id failure

namespace Accounted

variable [Wire ω] {felled : List (MessageId × Failure)} {before after : Machine app ω}

/-- The requests that an order fails are on their way to the failure. -/
private theorem fails_of_felled
    {job : Job app} {rest : List (Job app)} {id : MessageId} {failure : Failure}
    (isFelled : (id, failure) ∈ job.felled before.connection) :
    (before.absorb rest (job.step before.now before.connection)).Fails id failure := by
  have posting := job.posting before.now before.connection
  unfold Job.felled at isFelled
  split at isFelled
  · rename_i command
    split at isFelled
    · rename_i reason fells
      obtain ⟨entry, isEntry, isPair⟩ := List.mem_map.mp isFelled
      obtain ⟨rfl, rfl⟩ := Prod.mk.inj isPair
      have isNext : .finish entry (.error reason) ∈
          ((Job.carryOut command).step before.now before.connection).jobs := by
        cases posting with
        | drained failure count fellsAlso jobs counted books =>
            rw [fells] at fellsAlso
            cases fellsAlso
            rw [jobs]
            exact List.mem_append_left _ (List.mem_map_of_mem isEntry)
        | idle isIdle jobs books =>
            cases command with
            | order order =>
                cases order <;> contradiction
            | _ =>
                contradiction
        | _ =>
            contradiction
      exact .inr ⟨_, List.mem_append_left _ isNext, .finish rfl⟩
    · contradiction
  · contradiction

theorem next
    (accounted : Accounted felled before) (sound : Sound before)
    (bound : before.accepted.length ≤ 2 ^ 64) {choice : Choice app ω}
    (isNext : after = before.next choice) (boundAfter : after.accepted.length ≤ 2 ^ 64)
    (booked : Booked before choice after) :
    Accounted (felled ++ before.jotted Job.felled choice) after := by
  have failing : ∀ id failure, (id, failure) ∈ felled → after.Fails id failure := by
    intro id failure isFelled
    have led : before.Leads after := isNext ▸ .single (before.stroke choice)
    exact (accounted.fails id failure isFelled).leads sound led boundAfter
  have balance := accounted.balance
  cases booked with
  | taken agenda | woken agenda | reordered agenda =>
      have nothing : felled ++ [] = felled := List.append_nil felled
      rw [agenda] at balance
      exact nothing.symm ▸ ⟨balance, failing⟩
  | called isRunning agenda taken history books =>
      have nothing : felled ++ [] = felled := List.append_nil felled
      rw [← agenda] at balance
      refine nothing.symm ▸ ⟨?_, failing⟩
      rw [books]
      exact balance
  | beside unworked silent agenda taken history books =>
      rw [Machine.jotted_of_unworked unworked, List.append_nil]
      refine ⟨?_, failing⟩
      rw [agenda, books]
      exact balance
  | @worked job rest agenda =>
      have isJotted := Machine.jotted_work Job.felled agenda
      have ledger := sound.tracked.ledger
      have added := (job.posting before.now before.connection).balance (ledger.distinct bound) ?_ ?_
      · rw [isJotted]
        refine ⟨?_, ?_⟩
        · rw [agenda, List.countP_cons, List.countP_cons] at balance
          change _ + List.countP _ (_ ++ rest) = _ + List.countP _ (_ ++ rest) + _
          rw [List.countP_append, List.countP_append, List.length_append]
          rw [List.countP_singleton, List.countP_singleton] at added
          change (job.step before.now before.connection).connection.books.stats.requestsSent + _ =
            (job.step before.now before.connection).connection.books.placed + _ + _
          omega
        · intro id failure isFelled
          rcases List.mem_append.mp isFelled with wasFelled | isNew
          · exact failing id failure wasFelled
          · exact fails_of_felled isNew
      · rintro message options sink rfl isPending
        have distinct := ledger.nodup_head bound agenda
        rw [List.map_append, PendingTable.map_id_promises] at distinct
        exact (List.nodup_cons.mp distinct).1 isPending
      · rintro message rfl
        have isSend : .send message ∈ before.agenda := by simp [agenda]
        exact (sound.tracked.sending.written message isSend).1

end Accounted

theorem accounted_run [Wire ω]
    (wire : ω) (memory : app.Memory) (defaultTimeout : Option Duration)
    (schedule : List (Choice app ω)) :
    let start : Machine app ω := .start wire memory defaultTimeout
    (start.run schedule).accepted.length ≤ 2 ^ 64 →
      Accounted (start.felled schedule) (start.run schedule) := by
  intro start
  have reachable : start.Reachable := ⟨wire, memory, defaultTimeout, [], rfl⟩
  refine (reachable.schedule_induction
    (fun schedule reached => reached.Attained ∧
      (reached.accepted.length ≤ 2 ^ 64 → Accounted (start.felled schedule) reached))
    ?_ ?_ schedule).2
  · refine ⟨⟨wire, memory, defaultTimeout, .refl⟩, fun _ => ⟨rfl, ?_⟩⟩
    intro id failure isFelled
    contradiction
  · rintro schedule choice - booked ⟨attained, accounted⟩
    have stroke := (start.run schedule).stroke choice
    refine ⟨attained.leads (.single stroke), fun boundAfter => ?_⟩
    have bound := stroke.bound boundAfter
    rw [Machine.felled, Machine.jottings_snoc]
    exact (accounted bound).next (attained.sound bound) bound rfl boundAfter booked

/-- Between two commands, the requests that the wire has accepted are those that were answered,
those that observers were told to be cancelled or late, those that were failed all at once, and
those that are pending. Whoever was failed all at once has come to that failure, once. The gauge
shows the number of pending requests then and whenever the worker has anything else before it than
to write a request that it has just entered: so it does whenever a callback runs. Identifiers must
not start over for the account, which they do after `2 ^ 64` requests. -/
theorem requests_are_accounted_for [Wire ω]
    (wire : ω) (memory : app.Memory) (defaultTimeout : Option Duration)
    (schedule : List (Choice app ω)) :
    let start : Machine app ω := .start wire memory defaultTimeout
    let machine := start.run schedule
    let connection := machine.connection
    (machine.accepted.length ≤ 2 ^ 64 → machine.agenda = [] →
      connection.stats.requestsSent =
          connection.stats.responsesMatched + connection.events.countP Event.isCancelled +
            connection.events.countP Event.isTimedOut + (start.felled schedule).length +
            connection.pending.length ∧
        ∀ id failure, (id, failure) ∈ start.felled schedule →
          (id, .error failure) ∈ connection.outcomes ∧ machine.completed.count id = 1) ∧
      ((∀ message rest, machine.agenda ≠ .send message :: rest) →
        connection.stats.pending = connection.pending.length) := by
  intro start machine connection
  have reachable : machine.Reachable := ⟨wire, memory, defaultTimeout, schedule, rfl⟩
  refine ⟨?_, gauged_of_reachable reachable⟩
  intro bound idle
  have accounted : Accounted (start.felled schedule) machine :=
    accounted_run wire memory defaultTimeout schedule bound
  have ledger := Ledger.of_reachable reachable bound
  refine ⟨?_, ?_⟩
  · have balance := accounted.balance
    rw [idle] at balance
    have ends := connection.countP_ends
    change connection.stats.requestsSent =
      connection.stats.responsesMatched + connection.marks.countP Occurrence.ends +
        connection.pending.length + 0 + (start.felled schedule).length at balance
    omega
  · intro id failure isFelled
    rcases accounted.fails id failure isFelled with isGiven | ⟨job, isJob, -⟩
    · rw [← ledger.outcomes] at isGiven
      have isCompleted : id ∈ machine.completed := List.mem_map_of_mem isGiven
      have distinct := (ledger.nodup_everywhere bound).of_append_right
      exact ⟨isGiven, List.count_eq_one_of_mem distinct isCompleted⟩
    · rw [idle] at isJob
      contradiction

/-- Of five requests one is answered, one is cancelled, one is late, one fails when this is ordered,
and one is sent afterwards. -/
def fiveRequests : List (Choice bare (MemoryWire Unit)) :=
  let ask (options : Options) : List (Choice bare (MemoryWire Unit)) :=
    .act (.request "ask" (.ok none) options (.callback fun _ => .done)) ::
      .take :: List.replicate 4 .work
  (List.replicate 3 (ask .none)).flatten ++ ask ⟨some ⟨1⟩, none⟩ ++
    .act (.arrive (.chunk (Framing.encodeFrame (responseTo "1")))) ::
      .act (.order (.cancel (.number 2))) ::
      (List.replicate 2 (.take :: List.replicate 8 .work)).flatten ++
    .pass ⟨5⟩ :: .wake :: List.replicate 8 .work ++
    .act (.order (.failPending .unavailable)) :: .take :: List.replicate 8 .work ++
    ask .none

/-- The machine after that schedule. -/
def afterFiveRequests : Machine bare (MemoryWire Unit) :=
  (Machine.start .new () none).run fiveRequests

theorem five_requests_are_accounted_for :
    let start : Machine bare (MemoryWire Unit) := .start .new () none
    let connection := afterFiveRequests.connection
    afterFiveRequests.accepted.length ≤ 2 ^ 64 ∧ afterFiveRequests.agenda.isEmpty = true ∧
      connection.stats.responsesMatched = 1 ∧
      connection.events.countP Event.isCancelled = 1 ∧
      connection.events.countP Event.isTimedOut = 1 ∧
      (start.felled fiveRequests).map Prod.fst = [.number 3] ∧
      connection.pending.length = 1 ∧ connection.stats.pending = 1 ∧
      connection.stats.requestsSent = 1 + 1 + 1 + (start.felled fiveRequests).length + 1 := by
  intro start connection
  have facts : afterFiveRequests.accepted.length ≤ 2 ^ 64 ∧
      afterFiveRequests.agenda.isEmpty = true ∧
      connection.stats.responsesMatched = 1 ∧
      connection.events.countP Event.isCancelled = 1 ∧
      connection.events.countP Event.isTimedOut = 1 ∧
      (start.felled fiveRequests).map Prod.fst = [.number 3] ∧
      connection.pending.length = 1 := by
    decide +kernel
  obtain ⟨bound, isIdle, matched, cancelled, timedOut, felled, pending⟩ := facts
  have idle := List.isEmpty_iff.mp isIdle
  obtain ⟨account, gauge⟩ :=
    @requests_are_accounted_for bare (MemoryWire Unit) _ .new () none fiveRequests
  have unwritten : ∀ message rest, afterFiveRequests.agenda ≠ .send message :: rest := by
    intro message rest isSend
    rw [idle] at isSend
    exact List.cons_ne_nil _ _ isSend.symm
  have sameSum := (account bound idle).1
  have sameGauge := gauge unwritten
  change connection.stats.pending = connection.pending.length at sameGauge
  rw [pending] at sameGauge
  refine ⟨bound, isIdle, matched, cancelled, timedOut, felled, pending, sameGauge, ?_⟩
  change connection.stats.requestsSent = connection.stats.responsesMatched +
    connection.events.countP Event.isCancelled + connection.events.countP Event.isTimedOut +
    (start.felled fiveRequests).length + connection.pending.length at sameSum
  rw [matched, cancelled, timedOut, pending] at sameSum
  exact sameSum

end RpcEndpoint
