import RpcEndpoint.Proofs.Replies.Balance
import RpcEndpoint.Proofs.Schedule.Terms

/-!
# What became of the messages

The worker comes to the messages of this side in the order of the inbox, and each gets one verdict:
the wire has accepted it, the wire has refused it, or it was not offered at all. What a connection
has put out are the messages that were accepted.
-/

namespace RpcEndpoint

open Connection

variable {app : Application} {ω α : Type}

namespace Outgoing

/-- The message in its JSON form. -/
def payload : Outgoing → Bytes
  | .request message => message.toValue.encode
  | .notification message => message.toValue.encode
  | .reply response => response.toValue.encode

theorem frame_eq (message : Outgoing) : message.frame = Framing.encodeFrame message.payload := by
  cases message <;> rfl

def request? : Outgoing → Option Request
  | .request message => some message
  | _ => none

def notification? : Outgoing → Option Notification
  | .notification message => some message
  | _ => none

end Outgoing

/-- The requests among messages. -/
def requestsAmong (messages : List Outgoing) : List Request :=
  messages.filterMap Outgoing.request?

/-- The notifications among messages. -/
def notificationsAmong (messages : List Outgoing) : List Notification :=
  messages.filterMap Outgoing.notification?

/-! ## Verdicts -/

inductive Ruling where
  | accepted
  | refused (failure : WireFailure)
  /-- The message was not offered to the wire. -/
  | dropped (failure : Failure)

/-- What became of a message that was to be written. -/
structure Verdict where
  message : Outgoing
  ruling : Ruling

def Verdict.accepted? (verdict : Verdict) : Option Outgoing :=
  match verdict.ruling with
  | .accepted => some verdict.message
  | _ => none

/-- The messages that the wire has accepted. -/
def acceptedAmong (verdicts : List Verdict) : List Outgoing :=
  verdicts.filterMap Verdict.accepted?

/-- What the wire says to a message. -/
def Connection.judge [Wire ω] (message : Outgoing) (connection : Connection app ω) : Verdict :=
  ⟨message, match (Wire.write message.frame connection.framer.wire).1 with
    | .ok () => .accepted
    | .error failure => .refused failure⟩

/-- The verdict that comes with the first step of a job. A closed connection offers no request and
no notification, but replies; a request whose token was triggered is not offered either. -/
def Job.verdict [Wire ω] (connection : Connection app ω) : Job app → Option Verdict
  | .carryOut (.request message options _) =>
    (connection.refusal? options).map fun failure => ⟨.request message, .dropped failure⟩
  | .carryOut (.notification message _) =>
    some (match connection.closed with
      | some failure => ⟨.notification message, .dropped failure⟩
      | none => connection.judge (.notification message))
  | .carryOut (.reply response) => some (connection.judge (.reply response))
  | .send message => some (connection.judge (.request message))
  | _ => none

/-- The verdict that comes with a choice. -/
def Machine.verdict [Wire ω] (machine : Machine app ω) : Choice app ω → Option Verdict
  | .work => machine.agenda.head?.bind (Job.verdict machine.connection)
  | _ => none

/-- The verdicts of a schedule. -/
def Machine.verdicts [Wire ω] : Machine app ω → List (Choice app ω) → List Verdict
  | _, [] => []
  | machine, choice :: rest =>
    (machine.verdict choice).toList ++ (machine.next choice).verdicts rest

/-! ## The output -/

/-- The output with one more message. -/
def Output.add [Wire ω] (view : View ω α) (output : Output α) (message : Outgoing) : Output α where
  written := output.written ++ [message.frame]
  requestsSent := output.requestsSent + message.request?.toList.length
  notificationsSent := output.notificationsSent + message.notification?.toList.length
  wire := view.add output.wire message.frame

theorem Output.written_foldl [Wire ω]
    (view : View ω α) (messages : List Outgoing) (output : Output α) :
    (messages.foldl (Output.add view) output).written =
      output.written ++ messages.map Outgoing.frame := by
  induction messages generalizing output with
  | nil =>
      simp
  | cons message rest inductionHypothesis =>
      simp [inductionHypothesis, Output.add]

private theorem Output.count_foldl {β : Type} [Wire ω]
    (view : View ω α) (count : Output α → Nat) (select : Outgoing → Option β)
    (adds : ∀ output message,
      count (Output.add view output message) = count output + (select message).toList.length)
    (messages : List Outgoing) (output : Output α) :
    count (messages.foldl (Output.add view) output) =
      count output + (messages.filterMap select).length := by
  induction messages generalizing output with
  | nil =>
      rfl
  | cons message rest inductionHypothesis =>
      have counted : ((message :: rest).filterMap select).length =
          (select message).toList.length + (rest.filterMap select).length := by
        cases found : select message with
        | none =>
            simp [found]
        | some item =>
            simp [found, Nat.add_comm]
      rw [List.foldl_cons, inductionHypothesis, counted, adds, Nat.add_assoc]

theorem Output.requestsSent_foldl [Wire ω]
    (view : View ω α) (messages : List Outgoing) (output : Output α) :
    (messages.foldl (Output.add view) output).requestsSent =
      output.requestsSent + (requestsAmong messages).length :=
  Output.count_foldl view Output.requestsSent Outgoing.request? (fun _ _ => rfl) messages output

theorem Output.notificationsSent_foldl [Wire ω]
    (view : View ω α) (messages : List Outgoing) (output : Output α) :
    (messages.foldl (Output.add view) output).notificationsSent =
      output.notificationsSent + (notificationsAmong messages).length :=
  Output.count_foldl view Output.notificationsSent Outgoing.notification? (fun _ _ => rfl)
    messages output

theorem Output.wire_foldl [Wire ω]
    (view : View ω α) (messages : List Outgoing) (output : Output α) :
    (messages.foldl (Output.add view) output).wire =
      (messages.map Outgoing.frame).foldl view.add output.wire := by
  induction messages generalizing output with
  | nil =>
      rfl
  | cons message rest inductionHypothesis =>
      simp [inductionHypothesis, Output.add]

/-! ## Steps -/

variable [Wire ω]

/-- An offer adds its frame to what was written, and to the wire, if the wire accepts it. Nothing
is counted yet. -/
theorem output_transmit
    (view : View ω α) (message : Outgoing) (connection : Connection app ω) :
    (connection.transmit message.payload).2.output view =
      match (connection.transmit message.payload).1 with
      | .ok () =>
        { connection.output view with
          written := connection.written ++ [message.frame]
          wire := view.add (view.see connection.framer.wire) message.frame }
      | .error _ => connection.output view := by
  have seen := view.writes message.frame connection.framer.wire
  rw [message.frame_eq] at seen ⊢
  unfold transmit Framing.Framer.write
  rcases written : Wire.write (Framing.encodeFrame message.payload) connection.framer.wire with
    ⟨outcome, wire⟩
  rw [written] at seen
  dsimp only
  rw [(keeps_takeArrivals _).output]
  cases outcome with
  | ok done =>
      simp [output, Connection.written, record, seen]
  | error failure =>
      simp [output, Connection.written, record, seen]

private theorem ruling_judge (message : Outgoing) (connection : Connection app ω) :
    (connection.judge message).accepted? =
      match (connection.transmit message.payload).1 with
      | .ok () => some message
      | .error _ => none := by
  have sameOutcome : (connection.transmit message.payload).1 =
      (Wire.write message.frame connection.framer.wire).1 := by
    rw [message.frame_eq]
    rfl
  rw [sameOutcome, judge, Verdict.accepted?]
  cases (Wire.write message.frame connection.framer.wire).1 <;> rfl

/-- The output after a verdict. -/
def Output.after (view : View ω α) (output : Output α) (verdict : Option Verdict) : Output α :=
  ((verdict.bind Verdict.accepted?).toList).foldl (Output.add view) output

private theorem output_send
    (view : View ω α) (message : Request) (connection : Connection app ω) :
    (connection.offer message).connection.output view =
      (connection.output view).after view (some (connection.judge (.request message))) := by
  have transmitted := output_transmit view (.request message) connection
  have ruling := ruling_judge (.request message) connection
  rw [Outgoing.payload] at transmitted ruling
  unfold offer Output.after
  rw [Option.bind_some, ruling]
  rcases written : connection.transmit message.toValue.encode with ⟨outcome, sent⟩
  rw [written] at transmitted
  cases outcome with
  | ok done =>
      have counted : sent.confirm.output view =
          { sent.output view with requestsSent := (sent.output view).requestsSent + 1 } := rfl
      change sent.confirm.output view = (connection.output view).add view (.request message)
      rw [counted, transmitted]
      rfl
  | error failure =>
      exact transmitted

private theorem output_writeNotification
    (view : View ω α) (message : Notification) (receipt : Option Nat)
    (connection : Connection app ω) :
    (connection.writeNotification message receipt).output view =
      (connection.output view).after view
        (Job.verdict connection (.carryOut (.notification message receipt))) := by
  have transmitted := output_transmit view (.notification message) connection
  have ruling := ruling_judge (.notification message) connection
  rw [Outgoing.payload] at transmitted ruling
  unfold writeNotification Job.verdict Output.after
  cases connection.closed with
  | some failure =>
      exact (keeps_reportFate receipt _ connection).output
  | none =>
      dsimp only
      rw [Option.bind_some, ruling]
      rcases written : connection.transmit message.toValue.encode with ⟨outcome, sent⟩
      rw [written] at transmitted
      cases outcome with
      | ok done =>
          change (reportFate receipt (.ok ()) { sent with
            stats := { sent.stats with
              notificationsSent := sent.stats.notificationsSent + 1 } }).output view =
            (connection.output view).add view (.notification message)
          rw [(keeps_reportFate receipt _ _).output]
          have counted : { sent with
              stats := { sent.stats with
                notificationsSent := sent.stats.notificationsSent + 1 } }.output view =
              { sent.output view with
                notificationsSent := (sent.output view).notificationsSent + 1 } := rfl
          rw [counted, transmitted]
          rfl
      | error failure =>
          exact (keeps_reportFate receipt _ sent).output.trans transmitted

private theorem output_reply
    (view : View ω α) (response : Response) (connection : Connection app ω) :
    (connection.writeReply response).output view =
      (connection.output view).after view (some (connection.judge (.reply response))) := by
  have transmitted := output_transmit view (.reply response) connection
  have ruling := ruling_judge (.reply response) connection
  rw [Outgoing.payload] at transmitted ruling
  unfold writeReply Output.after
  rw [Option.bind_some, ruling, transmitted]
  cases (connection.transmit response.toValue.encode).1 <;> rfl

/-- The first step of a job puts out what its verdict has accepted. -/
theorem Job.output_verdict
    (view : View ω α) (now : Instant) (job : Job app) (connection : Connection app ω) :
    (job.step now connection).connection.output view =
      (connection.output view).after view (job.verdict connection) := by
  by_cases unwritten : job.writes = false
  · rw [job.output_step now connection unwritten]
    have nothing : (job.verdict connection).bind Verdict.accepted? = none := by
      cases job with
      | carryOut command =>
          cases command with
          | request message options sink =>
              rw [Job.verdict]
              cases connection.refusal? options <;> rfl
          | notification | reply =>
              contradiction
          | received | order =>
              rfl
      | send message =>
          contradiction
      | _ =>
          rfl
    rw [Output.after, nothing]
    rfl
  · cases job with
    | carryOut command =>
        cases command with
        | notification message receipt =>
            exact output_writeNotification view message receipt connection
        | reply response =>
            exact output_reply view response connection
        | _ =>
            contradiction
    | send message =>
        exact output_send view message connection
    | _ =>
        contradiction

/-- What happens behind the wire is not seen. -/
def Choice.Unseen (view : View ω α) : Choice app ω → Prop
  | .act (.disturb change) => ∀ wire, view.see (change wire) = view.see wire
  | _ => True

/-- Where nothing is seen of the wire, nothing behind it is. -/
theorem Choice.unseen_nothing (choice : Choice app ω) :
    choice.Unseen (View.nothing : View ω Unit) := by
  cases choice with
  | act act =>
      cases act <;> simp [Choice.Unseen, View.nothing]
  | _ =>
      trivial

namespace Machine

/-- Only a job of the worker gives a verdict. -/
theorem verdict_of_unworked
    {machine : Machine app ω} {choice : Choice app ω}
    (unworked : choice = .work → machine.agenda = []) : machine.verdict choice = none := by
  cases choice with
  | work =>
      rw [verdict, unworked rfl]
      rfl
  | _ =>
      rfl

theorem verdict_work
    {machine : Machine app ω} {job : Job app} {rest : List (Job app)}
    (agenda : machine.agenda = job :: rest) :
    machine.verdict .work = job.verdict machine.connection := by
  rw [verdict, agenda]
  rfl

/-- A choice puts out what its verdict has accepted. -/
theorem output_next
    {view : View ω α} (machine : Machine app ω) {choice : Choice app ω}
    (unseen : choice.Unseen view) :
    (machine.next choice).connection.output view =
      (machine.connection.output view).after view (machine.verdict choice) := by
  cases choice with
  | take | wake | reorder =>
      rw [next]
      split
      · first | rfl | (split <;> rfl)
      · rfl
  | work =>
      cases agenda : machine.agenda with
      | nil =>
          rw [verdict_of_unworked fun _ => agenda, next, agenda]
          rfl
      | cons job rest =>
          rw [verdict_work agenda, next, agenda]
          exact job.output_verdict view machine.now machine.connection
  | pass | trigger =>
      rfl
  | act act =>
      by_cases mild : act.meddles = false
      · exact (act.keeps machine.connection mild).output
      · cases act with
        | disturb change =>
            change Connection.output view { machine.connection with
              framer := { machine.connection.framer with
                wire := change machine.connection.framer.wire } } =
              machine.connection.output view
            simp [Connection.output, written, unseen machine.connection.framer.wire]
        | attach | detach =>
            rfl
        | _ =>
            contradiction
  | fire hook =>
      rw [next]
      split
      · exact output_setOff machine.connection hook
      · rfl

/-- Without an accepted message nothing is written. -/
theorem written_next
    {machine : Machine app ω} {choice : Choice app ω}
    (nothing : (machine.verdict choice).bind Verdict.accepted? = none) :
    (machine.next choice).connection.written = machine.connection.written := by
  have output := machine.output_next choice.unseen_nothing
  rw [Output.after, nothing] at output
  exact congrArg Output.written output

end Machine

/-- A job gives a verdict on its message or leaves it to the jobs that come of it. -/
theorem Job.messages_step
    (now : Instant) {connection : Connection app ω} (numbered : connection.Numbered)
    (job : Job app) :
    (job.verdict connection).toList.map (·.message) ++
      outgoingOf (job.step now connection).jobs = job.outgoing?.toList := by
  have noneLeft (noMessage : job.outgoing? = none) :
      outgoingOf (job.step now connection).jobs = [] := by
    by_cases goesOn : job = .halt
    · rw [goesOn]
      rfl
    · obtain ⟨offered, handles⟩ := Job.handles now numbered job goesOn
      have passedOn := handles.passedOn
      rw [noMessage] at passedOn
      exact (List.append_eq_nil_iff.mp (List.sublist_nil.mp passedOn)).2
  cases job with
  | carryOut command =>
      cases command with
      | request message options sink =>
          simp only [Job.verdict, Job.step, Connection.begin, weigh]
          cases connection.refusal? options <;> rfl
      | notification message receipt =>
          have same : (Job.verdict connection
              (.carryOut (.notification message receipt))).toList.map (·.message) =
              [.notification message] := by
            rw [Job.verdict]
            cases connection.closed <;> rfl
          rw [same]
          rfl
      | reply response =>
          rfl
      | received | order =>
          rw [noneLeft rfl]
          rfl
  | launch message options sink =>
      rfl
  | send message =>
      obtain ⟨offered, handles⟩ := Job.handles now numbered (.send message : Job app) (by simp)
      have noJobs : outgoingOf ((Job.send message : Job app).step now connection).jobs = [] := by
        simp only [Job.step, offer]
        split
        · rfl
        · refine List.filterMap_eq_nil_iff.mpr ?_
          intro job isJob
          obtain ⟨entry, -, rfl⟩ := List.mem_map.mp isJob
          rfl
      rw [noJobs]
      rfl
  | _ =>
      rw [noneLeft rfl]
      rfl

/-! ## Schedules -/

/-- Each message that was taken has a verdict or is still before the worker, in the order of the
inbox, and the output is what was accepted. -/
structure Judged (view : View ω α) (verdicts : List Verdict) (first : Output α)
    (machine : Machine app ω) : Prop where
  messages : verdicts.map (·.message) ++ outgoingOf machine.agenda = messagesIn machine.taken
  output : machine.connection.output view =
    (acceptedAmong verdicts).foldl (Output.add view) first

namespace Judged

variable {view : View ω α} {verdicts : List Verdict} {first : Output α} {machine : Machine app ω}

/-- A choice that gives no verdict leaves the same messages before the worker. -/
private theorem messages_quiet
    (judged : Judged view verdicts first machine) {reached : Machine app ω}
    (agenda : outgoingOf reached.agenda = outgoingOf machine.agenda)
    (taken : reached.taken = machine.taken) :
    (verdicts ++ []).map Verdict.message ++ outgoingOf reached.agenda =
      messagesIn reached.taken := by
  rw [List.append_nil, agenda, taken]
  exact judged.messages

/-- Each message that is taken has its verdict or is still before the worker. -/
private theorem messages_next
    (judged : Judged view verdicts first machine) (numbered : machine.connection.Numbered)
    (choice : Choice app ω) :
    (verdicts ++ (machine.verdict choice).toList).map Verdict.message ++
        outgoingOf (machine.next choice).agenda =
      messagesIn (machine.next choice).taken := by
  cases choice with
  | take =>
      rw [Machine.next]
      split
      · rename_i command rest agenda isRunning inbox
        change (verdicts ++ []).map _ ++ _ = _
        have held := judged.messages
        have nothing : outgoingOf ([] : List (Job app)) = [] := rfl
        rw [agenda, nothing, List.append_nil] at held
        have taken : messagesIn (machine.taken ++ [command]) =
            messagesIn machine.taken ++ messagesIn [command] := List.filterMap_append
        have ahead : outgoingOf [.carryOut command, .sweep] = messagesIn [command] := rfl
        rw [List.append_nil, ahead, taken, held]
      · exact judged.messages_quiet rfl rfl
  | wake =>
      rw [Machine.next]
      split
      · rename_i agenda isRunning
        refine judged.messages_quiet ?_ rfl
        rw [agenda]
        rfl
      · exact judged.messages_quiet rfl rfl
  | work =>
      cases agenda : machine.agenda with
      | nil =>
          rw [Machine.next, Machine.verdict, agenda]
          exact judged.messages_quiet rfl rfl
      | cons job rest =>
          have held := judged.messages
          have passedOn := job.messages_step machine.now numbered
          have first : outgoingOf (job :: rest) = job.outgoing?.toList ++ outgoingOf rest := by
            cases isMessage : job.outgoing? with
            | none =>
                exact List.filterMap_cons_none isMessage
            | some message =>
                exact List.filterMap_cons_some isMessage
          rw [agenda, first, ← passedOn] at held
          rw [Machine.verdict_work agenda, Machine.next, agenda]
          refine Eq.trans ?_ held
          simp [Machine.absorb, outgoingOf]
  | reorder hooks =>
      rw [Machine.next]
      split
      · rename_i held rest agenda
        split
        · refine judged.messages_quiet ?_ rfl
          rw [agenda]
          rfl
        · exact judged.messages_quiet rfl rfl
      · exact judged.messages_quiet rfl rfl
  | pass | trigger =>
      exact judged.messages_quiet rfl rfl
  | act act =>
      have noJobs : (act.apply machine.connection).jobs = [] := by
        cases act <;> rfl
      have sameAgenda : (machine.next (.act act)).agenda = machine.agenda := by
        rw [Machine.next, Machine.absorb, noJobs]
        rfl
      exact judged.messages_quiet (congrArg outgoingOf sameAgenda) rfl
  | fire hook =>
      rw [Machine.next]
      split <;> exact judged.messages_quiet rfl rfl

theorem next
    (judged : Judged view verdicts first machine) (numbered : machine.connection.Numbered)
    (choice : Choice app ω) (unseen : choice.Unseen view) :
    Judged view (verdicts ++ (machine.verdict choice).toList) first (machine.next choice) := by
  refine ⟨judged.messages_next numbered choice, ?_⟩
  rw [machine.output_next unseen, judged.output, Output.after, acceptedAmong, acceptedAmong,
    List.filterMap_append, List.foldl_append]
  cases machine.verdict choice with
  | none =>
      rfl
  | some verdict =>
      simp only [Option.toList_some, Option.bind_some, List.filterMap_cons, List.filterMap_nil]
      cases verdict.accepted? <;> rfl

end Judged

/-- Every message that was taken has its verdict, and the output is what was accepted. -/
theorem judged_run
    (view : View ω α) (wire : ω) (memory : app.Memory) (defaultTimeout : Option Duration)
    (schedule : List (Choice app ω)) (unseen : ∀ choice ∈ schedule, choice.Unseen view) :
    let start : Machine app ω := .start wire memory defaultTimeout
    Judged view (start.verdicts schedule) ⟨[], 0, 0, view.see wire⟩ (start.run schedule) := by
  intro start
  have ran {machine : Machine app ω} {settled : List Settlement} {verdicts : List Verdict}
      (balanced : Balanced settled machine)
      (judged : Judged view verdicts ⟨[], 0, 0, view.see wire⟩ machine) :
      Judged view (verdicts ++ machine.verdicts schedule) ⟨[], 0, 0, view.see wire⟩
        (machine.run schedule) := by
    clear_value start
    induction schedule generalizing machine settled verdicts with
    | nil =>
        rw [Machine.verdicts, List.append_nil]
        exact judged
    | cons choice rest inductionHypothesis =>
        have here := judged.next balanced.numbered choice (unseen choice List.mem_cons_self)
        have later := inductionHypothesis
          (fun other isLater => unseen other (List.mem_cons_of_mem choice isLater))
          (balanced.next choice) here
        rwa [List.append_assoc] at later
  have judged : Judged view [] ⟨[], 0, 0, view.see wire⟩ start := ⟨rfl, rfl⟩
  have reached := ran (Balanced.start wire memory defaultTimeout) judged
  rwa [List.nil_append] at reached

end RpcEndpoint
