import RpcEndpoint.Proofs.Arrival.Receptions
import RpcEndpoint.Proofs.Closing.Reasons

/-!
# What a closed connection rejects

A closed connection rejects requests and notifications with the reason of the last order to close,
and does not even look at their tokens. It matches no response, for nothing is pending. All else
goes on.
-/

namespace RpcEndpoint

open Connection

variable {app : Application} {ω : Type}

/-! ## Rejections -/

/-- A request or a notification that was rejected, and why. -/
structure Rejection (app : Application) where
  command : Command app
  reason : Failure

/-- The rejection that comes to a command. -/
def Command.rejection? (reason : Failure) : Command app → Option (Rejection app)
  | .request message options sink => some ⟨.request message options sink, reason⟩
  | .notification message receipt => some ⟨.notification message receipt, reason⟩
  | _ => none

/-- The reason that holds after commands. -/
def latestReason (reason : Failure) (commands : List (Command app)) : Failure :=
  (reasonsIn commands).getLastD reason

theorem latestReason_cons (reason : Failure) (command : Command app) (rest : List (Command app)) :
    latestReason reason (command :: rest) =
      latestReason (command.reason?.getD reason) rest := by
  unfold latestReason reasonsIn
  rw [List.filterMap_cons]
  cases command.reason? with
  | none =>
      rfl
  | some failure =>
      exact List.getLastD_cons

theorem latestReason_append
    (reason : Failure) (left right : List (Command app)) :
    latestReason reason (left ++ right) = latestReason (latestReason reason left) right := by
  induction left generalizing reason with
  | nil =>
      rfl
  | cons command rest inductionHypothesis =>
      rw [List.cons_append, latestReason_cons, latestReason_cons, inductionHypothesis]

/-- The rejections that come to commands, each for the reason that holds then. -/
def rejections (reason : Failure) : List (Command app) → List (Rejection app)
  | [] => []
  | command :: rest =>
    (command.rejection? reason).toList ++ rejections (command.reason?.getD reason) rest

theorem rejections_append
    (reason : Failure) (left right : List (Command app)) :
    rejections reason (left ++ right) =
      rejections reason left ++ rejections (latestReason reason left) right := by
  induction left generalizing reason with
  | nil =>
      rfl
  | cons command rest inductionHypothesis =>
      rw [List.cons_append, rejections, inductionHypothesis, ← List.append_assoc, latestReason_cons]
      rfl

namespace Rejection

/-- What a rejected request comes to. -/
def outcome? (rejection : Rejection app) : Option (MessageId × Except Failure Bytes) :=
  match rejection.command with
  | .request message _ _ => some (message.id, .error rejection.reason)
  | _ => none

/-- What the sender of a rejected notification is told. -/
def receipt? (rejection : Rejection app) : Option (Nat × Except Failure Unit) :=
  match rejection.command with
  | .notification _ receipt => receipt.map (·, .error rejection.reason)
  | _ => none

/-- A rejected message is not offered to the wire. -/
def verdict? (rejection : Rejection app) : Option Verdict :=
  rejection.command.outgoing?.map (⟨·, .dropped rejection.reason⟩)

end Rejection

/-- The rejection that comes to a job. -/
def Job.rejection? (reason : Failure) : Job app → Option (Rejection app)
  | .carryOut command => command.rejection? reason
  | _ => none

/-- The rejection that comes with the first step of a job. -/
def Job.rejected (connection : Connection app ω) (job : Job app) : List (Rejection app) :=
  (connection.closed.bind fun reason => job.rejection? reason).toList

/-- The rejections along a schedule. -/
def Machine.rejected [Wire ω] (machine : Machine app ω) (schedule : List (Choice app ω)) :
    List (Rejection app) :=
  machine.jottings Job.rejected schedule

/-! ## Jobs of a closed connection -/

namespace Job

/-- Whether a job belongs to a request that is pending or was. -/
def pursues : Job app → Bool
  | .launch _ _ _ | .send _ | .finish _ _ | .timeOut _ => true
  | _ => false

/-- The outcome that a job will hand out. -/
def handout? : Job app → Option (MessageId × Except Failure Bytes)
  | .deliver promise outcome => some (promise.id, outcome)
  | _ => none

theorem pursues_of_runs {jobs : List (Job app)} (running : ∀ job ∈ jobs, job.runs = true) :
    jobs.any pursues = false :=
  List.any_eq_false.mpr (of_runs (fun _ => Bool.false_ne_true) (fun _ => Bool.false_ne_true)
    (fun _ => Bool.false_ne_true) running)

theorem handouts_of_runs {jobs : List (Job app)} (running : ∀ job ∈ jobs, job.runs = true) :
    jobs.filterMap handout? = [] :=
  List.filterMap_eq_nil_iff.mpr (of_runs (fun _ => rfl) (fun _ => rfl) (fun _ => rfl) running)

theorem rejected_of_mayIdle {job : Job app} (idle : job.mayIdle = true) :
    job.handout? = none ∧ ∀ connection : Connection app ω, job.rejected connection = [] := by
  cases job with
  | carryOut command =>
      refine ⟨rfl, fun connection => ?_⟩
      have notRejected (reason : Failure) : command.rejection? reason = none := by
        cases command <;> first | rfl | contradiction
      simp [rejected, rejection?, notRejected]
  | release | react | signal | sweep =>
      exact ⟨rfl, fun connection => by simp [rejected, rejection?]⟩
  | _ =>
      contradiction

end Job

/-- What the first step of a job does to requests and notifications when the connection is closed.
-/
structure Rejects (before after : Books app) (jobs : List (Job app)) (job : Job app)
    (rejected : List (Rejection app)) : Prop where
  fresh : jobs.any Job.pursues = false
  outcomes : after.marks.filterMap Occurrence.outcome? ++ jobs.filterMap Job.handout? =
    before.marks.filterMap Occurrence.outcome? ++
      (job.handout?.toList ++ rejected.filterMap Rejection.outcome?)
  receipts : ∀ held ∈ before.receipts ++ rejected.filterMap Rejection.receipt?,
    held ∈ after.receipts

theorem Posting.rejects [Wire ω]
    {before : Connection app ω} {progress : Progress app ω} {job : Job app} {reason : Failure}
    (posting : Posting before progress job) (isEmpty : before.pending = [])
    (isClosed : before.closed = some reason) (fresh : job.pursues = false) :
    Rejects before.books progress.connection.books progress.jobs job (job.rejected before) := by
  cases posting with
  | idle isIdle jobs books =>
      obtain ⟨noOutcome, notRejected⟩ := Job.rejected_of_mayIdle (ω := ω) isIdle
      rw [books, notRejected]
      refine ⟨Job.pursues_of_runs jobs, ?_, by simp⟩
      rw [Job.handouts_of_runs jobs, noOutcome]
      rfl
  | rejected failure refusal jobs books =>
      have isReason : reason = failure := by simpa [refusal?, isClosed] using refusal
      rw [jobs, books]
      refine ⟨rfl, ?_, ?_⟩
      · simp [Job.handout?, Job.rejected, Job.rejection?, isClosed, Command.rejection?,
          Rejection.outcome?, isReason]
      · simp [Job.rejected, Job.rejection?, isClosed, Command.rejection?, Rejection.receipt?]
  | admitted refusal jobs books =>
      simp [refusal?, isClosed] at refusal
  | @ruled message receipt jobs books =>
      have isDropped : before.rule message = .dropped reason := by rw [rule, isClosed]
      rw [jobs, books]
      refine ⟨rfl, ?_, ?_⟩
      · simp [Job.handout?, Job.rejected, Job.rejection?, isClosed, Command.rejection?,
          Rejection.outcome?, Connection.books]
      · intro held isHeld
        cases receipt <;>
          simpa [Job.rejected, Job.rejection?, isClosed, Command.rejection?, Rejection.receipt?,
            isDropped, Ruling.fate, Connection.books, or_comm] using isHeld
  | expelled entry found | matched entry classified found =>
      rw [isEmpty] at found
      contradiction
  | launched | sent | withdrawn | finished | late =>
      contradiction
  | @drained command failure count fells jobs counted books =>
      have notRejected : command.rejection? reason = none := by
        cases command <;> first | rfl | contradiction
      have closes : command.closing.any Job.pursues = false ∧
          command.closing.filterMap Job.handout? = [] := by
        unfold Command.closing
        split <;> exact ⟨rfl, rfl⟩
      have nobody : (before.pending.inOrder.map fun entry =>
          (.finish entry (.error failure) : Job app)) = [] := by
        rw [PendingTable.inOrder_eq_nil_iff.mpr isEmpty]
        rfl
      rw [jobs, books, nobody, List.nil_append, Job.rejected, isClosed, Option.bind_some,
        Job.rejection?, notRejected]
      refine ⟨closes.1, ?_, by simp [Connection.books]⟩
      rw [closes.2]
      rfl
  | honoured jobs books =>
      rw [books]
      refine ⟨Job.pursues_of_runs jobs, ?_, ?_⟩
      · rw [Job.handouts_of_runs jobs]
        simp [Job.handout?, Job.rejected, Job.rejection?, Occurrence.outcome?]
        rfl
      · simp [Job.rejected, Job.rejection?, Connection.books]
  | announced jobs books =>
      rw [books]
      refine ⟨Job.pursues_of_runs jobs, ?_, ?_⟩
      · rw [Job.handouts_of_runs jobs]
        simp [Job.handout?, Job.rejected, Job.rejection?, Occurrence.outcome?, Connection.books]
      · simp [Job.rejected, Job.rejection?, Connection.books]
  | wondered reason classified jobs books =>
      rw [jobs, books]
      cases before.handlers.undecodable with
      | none | some react =>
          refine ⟨rfl, ?_, ?_⟩ <;> simp [Job.rejected, Job.rejection?, Job.handout?]
  | halted jobs books =>
      rw [jobs, books, loseSlips_eq]
      refine ⟨rfl, ?_, ?_⟩
      · simp [Job.rejected, Job.rejection?, Job.handout?]
      · intro held isHeld
        refine List.mem_append_right _ ?_
        simpa [Job.rejected, Job.rejection?, Connection.books] using isHeld
  | _ =>
      rename_i jobs books
      rw [jobs, books]
      refine ⟨?_, ?_, ?_⟩
      · simp [Job.pursues, isEmpty, PendingTable.due, PendingTable.inOrder]
      · simp [Job.handout?, Job.rejected, Job.rejection?, Command.rejection?, Occurrence.outcome?,
          Connection.books, isEmpty, PendingTable.due, PendingTable.inOrder]
      · simp [Job.rejected, Job.rejection?, Command.rejection?, Connection.books]

/-- A closed connection offers replies only, and it offers each of them. -/
theorem Job.verdict_of_closed [Wire ω]
    {connection : Connection app ω} {reason : Failure} (isClosed : connection.closed = some reason)
    {job : Job app} (fresh : job.pursues = false) :
    (job.verdict connection).toList.filter (fun verdict => verdict.message.reply?.isNone) =
      (job.rejected connection).filterMap Rejection.verdict? := by
  cases job with
  | carryOut command =>
      cases command with
      | request message options sink =>
          simp [verdict, rejected, rejection?, Command.rejection?, Rejection.verdict?, refusal?,
            isClosed, Command.outgoing?, Outgoing.reply?]
      | notification message receipt =>
          simp [verdict, rejected, rejection?, Command.rejection?, Rejection.verdict?, isClosed,
            Command.outgoing?, Outgoing.reply?]
      | reply | received | order =>
          simp [verdict, rejected, rejection?, Command.rejection?, judge, Outgoing.reply?]
  | launch | send | finish | timeOut =>
      contradiction
  | _ =>
      simp [verdict, rejected, rejection?]

/-- A reply is offered, whatever comes of it. -/
theorem Job.offers_reply [Wire ω]
    {connection : Connection app ω} {job : Job app} {verdict : Verdict}
    (isVerdict : job.verdict connection = some verdict)
    (isReply : verdict.message.reply?.isSome = true) (failure : Failure) :
    verdict.ruling ≠ .dropped failure := by
  cases job with
  | carryOut command =>
      cases command with
      | request message options sink =>
          obtain ⟨reason, -, rfl⟩ := Option.map_eq_some_iff.mp isVerdict
          contradiction
      | notification message receipt =>
          rw [Job.verdict_notification, Option.some.injEq] at isVerdict
          subst isVerdict
          contradiction
      | reply response =>
          obtain rfl := Option.some.inj isVerdict
          exact not_dropped_of_judge _ connection failure
      | received | order =>
          contradiction
  | send message =>
      obtain rfl := Option.some.inj isVerdict
      contradiction
  | _ =>
      contradiction

end RpcEndpoint
