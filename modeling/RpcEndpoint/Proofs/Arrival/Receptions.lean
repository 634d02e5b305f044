import RpcEndpoint.Proofs.Accounts.Always

/-!
# What becomes of payloads

Each payload of the stream meets with one reception: its form, the table and the installed callbacks
decide which. A reception leaves its traces in the log and in the counts, and there are no others,
so that no payload is lost and none is taken twice.
-/

namespace RpcEndpoint

open Connection

variable {app : Application} {ω : Type}

/-! ## Receptions -/

/-- How a payload is received. -/
inductive Course where
  /-- It is the response to a pending request. -/
  | matched (id : MessageId)
  | unmatched (id : MessageId)
  /-- A handler is called. -/
  | notified (notification : IncomingNotification)
  | unhandled (method : String)
  | asked (request : IncomingRequest)
  /-- No handler is there, and the peer is told so. -/
  | turnedAway (request : IncomingRequest)
  /-- The payload is no message; it may be shown to a callback. -/
  | undecodable (reason : Unrecognized) (shown : Bool)

structure Reception where
  payload : Bytes
  course : Course

/-- The reception that a payload meets with now. -/
def Connection.course (payload : Bytes) (connection : Connection app ω) : Course :=
  match Incoming.classify payload with
  | .response response =>
    if (connection.pending.find response.id).isSome then .matched response.id
    else .unmatched response.id
  | .notification message =>
    if (connection.handlers.forNotification message.method).isSome then
      .notified ⟨message.method, message.params, payload⟩
    else .unhandled message.method
  | .request message =>
    if (connection.handlers.forRequest message.method).isSome then
      .asked ⟨message.id, message.method, message.params, payload⟩
    else .turnedAway ⟨message.id, message.method, message.params, payload⟩
  | .unrecognized reason => .undecodable reason connection.handlers.undecodable.isSome

/-- The bytes that the handler of a message is shown. -/
def Course.shown? : Course → Option Bytes
  | .notified notification => some notification.payload
  | .asked request => some request.payload
  | _ => none

/-- Handlers are shown the payload as it is. -/
theorem Connection.shown_course
    {payload shown : Bytes} {connection : Connection app ω}
    (isShown : (connection.course payload).shown? = some shown) : shown = payload := by
  unfold Connection.course at isShown
  split at isShown <;> (try split at isShown) <;> simp_all [Course.shown?]

/-- The payload that is received with the first step of a job. -/
def Job.received (connection : Connection app ω) : Job app → List Reception
  | .route payload => [⟨payload, connection.course payload⟩]
  | _ => []

/-- The payloads that are received along a schedule. -/
def Machine.receptions [Wire ω] (machine : Machine app ω) (schedule : List (Choice app ω)) :
    List Reception :=
  machine.jottings Job.received schedule

/-- What the log tells of a reception. -/
def Reception.traces (reception : Reception) : List (Occurrence app) :=
  match reception.course with
  | .matched id => [.completed id (.ok reception.payload)]
  | .unmatched id => [.emitted (.unmatchedResponse id)]
  | .notified notification => [.notified notification]
  | .unhandled method => [.emitted (.unhandledNotification method)]
  | .asked request => [.asked request]
  | .turnedAway _ => []
  | .undecodable reason shown =>
    .emitted (.undecodablePayload reception.payload.length reason) ::
      if shown then [.puzzled reception.payload] else []

/-- The reply that a reception sends. -/
def Course.reply? : Course → Option Response
  | .turnedAway request => some (.ofOutcome request.id (.error (.methodNotFound request.method)))
  | _ => none

/-- Whether an occurrence tells of a payload. -/
def Occurrence.isTrace : Occurrence app → Bool
  | .completed _ (.ok _) | .notified _ | .asked _ | .puzzled _ => true
  | .emitted (.unmatchedResponse _) | .emitted (.unhandledNotification _)
  | .emitted (.undecodablePayload _ _) => true
  | _ => false

/-- What the log tells of payloads. -/
def Connection.traces (connection : Connection app ω) : List (Occurrence app) :=
  connection.log.filter Occurrence.isTrace

theorem Connection.traces_eq (connection : Connection app ω) :
    connection.traces = connection.marks.filter Occurrence.isTrace := by
  rw [traces, marks, List.filter_filter]
  refine List.filter_congr fun occurrence _ => ?_
  cases occurrence with
  | emitted event =>
      exact (Bool.and_true _).symm
  | completed id outcome =>
      exact (Bool.and_true _).symm
  | _ =>
      rfl

/-! ## Traces to come -/

/-- What a job will leave in the log of the payload that it comes from. -/
def Job.traces : Job app → List (Occurrence app)
  | .emit event => [.emitted event].filter Occurrence.isTrace
  | .puzzle payload _ => [.puzzled payload]
  | .finish entry outcome => [.completed entry.id outcome].filter Occurrence.isTrace
  | .deliver promise outcome => [.completed promise.id outcome].filter Occurrence.isTrace
  | _ => []

namespace Job

/-- What a callback does is no reception. -/
theorem traces_of_runs
    {jobs : List (Job app)} (running : ∀ job ∈ jobs, job.runs = true) :
    jobs.flatMap traces = [] :=
  List.flatMap_eq_nil_iff.mpr (of_runs (fun _ => rfl) (fun _ => rfl) (fun _ => rfl) running)

theorem traces_of_mayIdle {job : Job app} (idle : job.mayIdle = true) :
    job.traces = [] ∧ ∀ connection : Connection app ω, job.received connection = [] := by
  cases job <;> first | exact ⟨rfl, fun _ => rfl⟩ | contradiction

/-- Requests that fail leave no trace of a payload. -/
theorem traces_of_fails (entries : List (PendingRequest app)) (failure : Failure) :
    (entries.map fun entry => (.finish entry (.error failure) : Job app)).flatMap traces = [] := by
  simp [List.flatMap_map, traces, Occurrence.isTrace]

theorem traces_closing (command : Command app) : command.closing.flatMap traces = [] := by
  unfold Command.closing
  split <;> rfl

theorem Follows.traces_eq_nil
    {payload : Bytes} {behind : Job app} (follows : Follows (.route payload) behind) :
    behind.traces = [] := by
  obtain rfl | ⟨other, rfl⟩ := follows ⟨payload, rfl⟩ <;> rfl

end Job

/-- The traces of a payload are left by its reception or by the jobs that come of it. -/
theorem Posting.traces [Wire ω]
    {before : Connection app ω} {progress : Progress app ω} {job : Job app}
    (posting : Posting before progress job) :
    progress.connection.books.marks.filter Occurrence.isTrace ++ progress.jobs.flatMap Job.traces =
      before.marks.filter Occurrence.isTrace ++
        ((job.received before).flatMap Reception.traces ++ job.traces) := by
  cases posting with
  | idle isIdle jobs books =>
      obtain ⟨noTraces, noReception⟩ := Job.traces_of_mayIdle (ω := ω) isIdle
      rw [books, Job.traces_of_runs jobs, noTraces, noReception]
      rfl
  | drained failure count fells jobs counted books =>
      rw [jobs, books, List.flatMap_append, Job.traces_of_fails, Job.traces_closing]
      rfl
  | withdrawn failure jobs books =>
      rw [jobs, books, Job.traces_of_fails]
      rfl
  | honoured jobs books =>
      rw [books, Job.traces_of_runs jobs]
      simp [Job.received, Job.traces]
  | announced jobs books =>
      rw [books, Job.traces_of_runs jobs]
      simp [Job.received, Job.traces]
  | matched entry classified found jobs books =>
      have sameId := PendingTable.id_of_find found
      rw [jobs, books]
      simp [Job.received, Job.traces, course, classified, found, Reception.traces,
        Occurrence.isTrace, sameId, Connection.books]
  | unmatched classified absent jobs books =>
      rw [jobs, books]
      simp [Job.received, Job.traces, course, classified, absent, Reception.traces,
        Occurrence.isTrace, Connection.books]
  | notified react classified handler jobs books | unhandled classified handler jobs books
  | asked react classified handler jobs books | turnedAway classified handler jobs books =>
      rw [jobs, books]
      simp [Job.received, Job.traces, course, classified, handler, Reception.traces,
        Occurrence.isTrace, Connection.books]
  | wondered reason classified jobs books =>
      rw [jobs, books]
      cases handler : before.handlers.undecodable with
      | none =>
          simp [Job.received, Job.traces, course, classified, handler, Reception.traces,
            Occurrence.isTrace, Connection.books]
      | some react =>
          simp [Job.received, Job.traces, course, classified, handler, Reception.traces,
            Connection.books]
          rfl
  | puzzled jobs books =>
      rw [jobs, books]
      simp [Job.received, Job.traces, Occurrence.isTrace]
  | _ =>
      rename_i jobs books
      rw [jobs, books]
      simp [Job.received, Job.traces, Occurrence.isTrace, Connection.books, PendingRequest.promise,
        List.flatMap_map]

/-! ## Counts -/

/-- The payloads that a connection has counted. -/
def Stats.consumed (stats : Stats) : Nat :=
  stats.responsesMatched + stats.unmatchedResponses + stats.incomingNotifications +
    stats.incomingRequests + stats.undecodablePayloads

/-- Whether a payload is counted when observers are told an event. -/
def Event.counts : Event → Bool
  | .unmatchedResponse _ | .undecodablePayload _ _ => true
  | _ => false

theorem Stats.consumed_count (stats : Stats) (event : Event) :
    (stats.count event).consumed = stats.consumed + event.counts.toNat := by
  cases event <;> simp [Stats.count, consumed, Event.counts] <;> omega

/-- Whether a job will count the payload that it comes from. -/
def Job.counts : Job app → Bool
  | .emit event => event.counts
  | _ => false

theorem Job.countP_counts_of_runs
    {jobs : List (Job app)} (running : ∀ job ∈ jobs, job.runs = true) :
    jobs.countP counts = 0 :=
  List.countP_eq_zero.mpr (of_runs (fun _ => Bool.false_ne_true) (fun _ => Bool.false_ne_true)
    (fun _ => Bool.false_ne_true) running)

/-- A payload is counted with its reception or with the event that comes of it. -/
theorem Posting.consumed [Wire ω]
    {before : Connection app ω} {progress : Progress app ω} {job : Job app}
    (posting : Posting before progress job) :
    progress.connection.books.stats.consumed + progress.jobs.countP Job.counts =
      before.stats.consumed + (job.received before).length + job.counts.toNat := by
  cases posting with
  | idle isIdle jobs books =>
      have noReception := (Job.traces_of_mayIdle (ω := ω) isIdle).2 before
      have uncounted : job.counts = false := by
        cases job <;> first | rfl | contradiction
      rw [books, Job.countP_counts_of_runs jobs, noReception, uncounted]
      rfl
  | drained failure count fells jobs counted books =>
      have closes (command : Command app) : command.closing.countP Job.counts = 0 := by
        unfold Command.closing
        split <;> rfl
      rw [jobs, books, List.countP_append, closes]
      simp [Job.received, Job.counts, Stats.consumed, Function.comp_def]
  | honoured jobs books =>
      rw [books, Job.countP_counts_of_runs jobs]
      rfl
  | announced jobs books =>
      rw [books, Job.countP_counts_of_runs jobs]
      exact Stats.consumed_count _ _
  | wondered reason classified jobs books =>
      have notCounted (reaction : Option (Bytes → Reaction app)) (payload : Bytes) :
          (reaction.toList.map fun react =>
            (.puzzle payload (react payload) : Job app)).countP Job.counts = 0 := by
        cases reaction <;> rfl
      rw [jobs, books, List.countP_cons, notCounted]
      rfl
  | matched entry classified found jobs books =>
      rw [jobs, books]
      simp [Job.received, Job.counts, Stats.consumed]
      omega
  | notified | unhandled | asked | turnedAway =>
      rename_i jobs books
      rw [jobs, books]
      simp [Job.received, Job.counts, Event.counts, Stats.consumed]
      omega
  | _ =>
      rename_i jobs books
      rw [jobs, books]
      simp [Job.received, Job.counts, Event.counts, Stats.consumed, Function.comp_def,
        Connection.books]

/-! ## Malformed header blocks -/

/-- The malformed header block that an occurrence tells. -/
def Occurrence.fault? : Occurrence app → Option Framing.HeaderFault
  | .emitted (.malformedHeader fault) => some fault
  | _ => none

/-- The malformed header blocks that observers were told. -/
def Connection.faults (connection : Connection app ω) : List Framing.HeaderFault :=
  connection.log.filterMap Occurrence.fault?

theorem Connection.faults_eq (connection : Connection app ω) :
    connection.faults = connection.marks.filterMap Occurrence.fault? := by
  refine (filterMap_marks (fun occurrence unmarked => ?_) connection).symm
  cases occurrence <;> first | rfl | contradiction

/-- The malformed header block at which a command stalls a decoder. -/
def Command.stalls (decoder : Framing.Decoder) : Command app → List Framing.HeaderFault
  | .received chunk => (decoder.push chunk).1.fault.toList
  | _ => []

/-- The malformed header blocks at which commands stall a decoder. -/
def stalls (decoder : Framing.Decoder) : List (Command app) → List Framing.HeaderFault
  | [] => []
  | command :: rest => command.stalls decoder ++ stalls (command.feed decoder).2 rest

theorem stalls_append
    (decoder : Framing.Decoder) (left right : List (Command app)) :
    stalls decoder (left ++ right) =
      stalls decoder left ++ stalls (extract decoder left).2 right := by
  induction left generalizing decoder with
  | nil =>
      rfl
  | cons command rest inductionHypothesis =>
      simp only [List.cons_append, stalls, extract, inductionHypothesis, List.append_assoc]

/-- The malformed header block that a job will tell. -/
def Job.faults (decoder : Framing.Decoder) : Job app → List Framing.HeaderFault
  | .carryOut command => command.stalls decoder
  | .emit (.malformedHeader fault) => [fault]
  | _ => []

/-- Only commands bring anything to the decoder. -/
theorem Job.faults_eq
    {job : Job app} (notCarried : ∀ command, job ≠ .carryOut command)
    (decoder other : Framing.Decoder) : job.faults decoder = job.faults other := by
  cases job with
  | carryOut command =>
      exact absurd rfl (notCarried command)
  | emit event =>
      cases event <;> rfl
  | _ =>
      rfl

theorem Job.faults_of_runs
    {jobs : List (Job app)} (running : ∀ job ∈ jobs, job.runs = true)
    (decoder : Framing.Decoder) : jobs.flatMap (faults decoder) = [] :=
  List.flatMap_eq_nil_iff.mpr (of_runs (fun _ => rfl) (fun _ => rfl) (fun _ => rfl) running)

theorem Job.faults_of_mayIdle
    {job : Job app} (idle : job.mayIdle = true) (decoder : Framing.Decoder) :
    job.faults decoder = [] := by
  cases job with
  | carryOut command =>
      cases command <;> first | rfl | contradiction
  | _ =>
      first | rfl | contradiction

/-- What stalls the decoder is told. -/
theorem Posting.faults [Wire ω]
    {before : Connection app ω} {progress : Progress app ω} {job : Job app}
    (posting : Posting before progress job) :
    let books := progress.connection.books
    books.marks.filterMap Occurrence.fault? ++ progress.jobs.flatMap (Job.faults books.decoder) =
      before.marks.filterMap Occurrence.fault? ++ job.faults before.framer.decoder := by
  intro books
  cases posting with
  | idle isIdle jobs sameBooks =>
      rw [Job.faults_of_runs jobs, Job.faults_of_mayIdle isIdle]
      simp only [books, sameBooks]
      rfl
  | @drained command failure count fells jobs counted isBooks =>
      have noStall : command.stalls before.framer.decoder = [] := by
        cases command <;> first | rfl | contradiction
      have closes : command.closing.flatMap (Job.faults books.decoder) = [] := by
        unfold Command.closing
        split <;> rfl
      rw [jobs, List.flatMap_append, closes]
      simp [books, isBooks, Job.faults, noStall, Connection.books, List.flatMap_map]
  | fed jobs isBooks =>
      rw [jobs]
      simp [books, isBooks, Job.faults, Command.stalls, Connection.books, List.flatMap_map]
  | honoured jobs isBooks =>
      rw [Job.faults_of_runs jobs]
      simp [books, isBooks, Job.faults, Occurrence.fault?]
  | @announced event jobs isBooks =>
      rw [Job.faults_of_runs jobs]
      cases event <;> simp [books, isBooks, Job.faults, Occurrence.fault?]
  | _ =>
      rename_i jobs isBooks
      rw [jobs]
      simp [books, isBooks, Job.faults, Command.stalls, Occurrence.fault?, Connection.books,
        List.flatMap_map]

/-- What is told of malformed header blocks is counted. -/
theorem Posting.malformed [Wire ω]
    {before : Connection app ω} {progress : Progress app ω} {job : Job app}
    (posting : Posting before progress job) :
    let books := progress.connection.books
    books.stats.malformedHeaders + (before.marks.filterMap Occurrence.fault?).length =
      before.stats.malformedHeaders + (books.marks.filterMap Occurrence.fault?).length := by
  intro books
  cases posting with
  | @announced event jobs isBooks =>
      simp only [books, isBooks]
      cases event with
      | malformedHeader fault =>
          simp [Stats.count, Occurrence.fault?]
          omega
      | _ =>
          simp [Stats.count, Occurrence.fault?]
  | idle isIdle jobs sameBooks =>
      simp only [books, sameBooks]
      rfl
  | _ =>
      rename_i jobs isBooks
      simp [books, isBooks, Occurrence.fault?, Connection.books]

end RpcEndpoint
