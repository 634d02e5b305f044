import RpcEndpoint.Proofs.Replies.Settling

/-!
# The balance of a run

`Balanced` ties the requests that the peer has made to the tickets that are open and to those that
were settled, the settled ones to the replies in the inbox, and these to what the wire was offered.
It holds at the start and survives every choice.
-/

namespace RpcEndpoint

open Connection

variable {app : Application} {ω : Type}

/-! ## Requests and settlements of a run -/

/-- The requests of the peer, numbered in the order in which they were routed. -/
def inquiriesIn (history : List (Deed app)) : List Inquiry :=
  ((routedIn history).filterMap inquiry?).mapIdx fun number request =>
    ⟨number, request.id, request.method⟩

theorem number_inquiriesIn (history : List (Deed app)) :
    (inquiriesIn history).map (·.number) = List.range (inquiriesIn history).length := by
  refine List.ext_getElem (by simp) ?_
  intro index inMap inRange
  simp [inquiriesIn]

theorem nodup_inquiriesIn (history : List (Deed app)) : (inquiriesIn history).Nodup := by
  refine List.Nodup.of_map (·.number) ?_
  rw [number_inquiriesIn]
  exact List.nodup_range

/-- A job that brings a request to light adds it under the next number. -/
theorem inquiriesIn_append
    {history deeds : List (Deed app)} {connection : Connection app ω} {job : Job app}
    (routed : (routedIn deeds).filterMap inquiry? = job.requests)
    (nextTicket : connection.nextTicket = (inquiriesIn history).length) :
    inquiriesIn (history ++ deeds) = inquiriesIn history ++ job.asks connection := by
  have atMostOne : job.requests = [] ∨ ∃ request, job.requests = [request] := by
    cases job with
    | route payload =>
        cases found : inquiry? payload with
        | none =>
            exact .inl (by rw [Job.requests, found]; rfl)
        | some request =>
            exact .inr ⟨request, by rw [Job.requests, found]; rfl⟩
    | _ =>
        exact .inl rfl
  have isLength : connection.nextTicket = ((routedIn history).filterMap inquiry?).length := by
    rw [nextTicket, inquiriesIn, List.length_mapIdx]
  unfold inquiriesIn
  rw [routedIn, List.filterMap_append, List.filterMap_append, List.mapIdx_append]
  change _ ++ List.mapIdx _ ((routedIn deeds).filterMap inquiry?) = _
  rw [routed, Job.asks]
  rcases atMostOne with noRequest | ⟨request, isRequest⟩
  · rw [noRequest]
    rfl
  · rw [isRequest]
    simp [Connection.inquiry, isLength, routedIn]

/-- The tickets that a choice settles. -/
def Machine.settles (machine : Machine app ω) : Choice app ω → List Settlement
  | .work =>
    match machine.agenda with
    | job :: _ => job.settles machine.connection
    | [] => []
  | .act act => act.settles machine.connection
  | _ => []

/-- The tickets that a schedule settles, in the order in which it does. -/
def Machine.settlements [Wire ω] (machine : Machine app ω) :
    List (Choice app ω) → List Settlement
  | [] => []
  | choice :: rest => machine.settles choice ++ (machine.next choice).settlements rest

/-- The messages that commands are to write. -/
def messagesIn (commands : List (Command app)) : List Outgoing :=
  commands.filterMap Command.outgoing?

theorem repliesAmong_messagesIn (commands : List (Command app)) :
    repliesAmong (messagesIn commands) = repliesIn commands := by
  rw [repliesAmong, messagesIn, List.filterMap_filterMap]
  refine List.filterMap_congr fun command _ => ?_
  cases command <;> rfl

/-! ## Balance -/

/-- The frames that the wire was offered are those of these messages, and the commands that the
worker has taken are accounted for. -/
structure Offers (machine : Machine app ω) (messages : List Outgoing) : Prop where
  frames : machine.connection.offered = messages.map Outgoing.frame
  passedOn : (messages ++ outgoingOf machine.agenda).Sublist (messagesIn machine.taken)
  replies : repliesAmong (messages ++ outgoingOf machine.agenda) = repliesIn machine.taken

/-- These settlements account for the requests of the peer. -/
structure Balanced (settled : List Settlement) (machine : Machine app ω) : Prop where
  nextTicket : machine.connection.nextTicket = (inquiriesIn machine.history).length
  parted : (inquiriesOf settled ++ machine.connection.open?).Perm (inquiriesIn machine.history)
  replies : repliesIn machine.entered <+: repliesOf settled
  /-- While the worker goes on, no command is lost. -/
  kept : machine.connection.running = true →
    repliesIn machine.entered = repliesOf settled ∧
      machine.entered = machine.taken ++ machine.connection.inbox
  taken : machine.taken <+: machine.entered
  /-- What is not kept will be given up. -/
  loose : ∀ ticket ∈ machine.connection.tickets, ticket.kept = false →
    .release ticket.number ∈ machine.agenda
  offers : ∃ messages, Offers machine messages

namespace Balanced

theorem start (wire : ω) (memory : app.Memory) (defaultTimeout : Option Duration) :
    Balanced [] (Machine.start wire memory defaultTimeout) where
  nextTicket := rfl
  parted := .refl _
  replies := List.prefix_rfl
  kept := fun _ => ⟨rfl, rfl⟩
  taken := List.prefix_rfl
  loose := by
    intro ticket isOpen
    contradiction
  offers := ⟨[], rfl, List.Sublist.refl _, rfl⟩

theorem numbered
    {settled : List Settlement} {machine : Machine app ω} (balanced : Balanced settled machine) :
    machine.connection.Numbered := by
  have numbers := balanced.parted.map (·.number)
  rw [number_inquiriesIn, ← balanced.nextTicket, List.map_append, Connection.open?,
    List.map_map] at numbers
  have openNumbers : machine.connection.tickets.map ((·.number) ∘ Ticket.inquiry) =
      machine.connection.tickets.map (·.number) := rfl
  rw [openNumbers] at numbers
  refine ⟨(numbers.nodup_iff.mpr List.nodup_range).of_append_right, ?_⟩
  intro ticket isOpen
  have isNumber : ticket.number ∈ machine.connection.tickets.map (·.number) :=
    List.mem_map_of_mem isOpen
  exact List.mem_range.mp (numbers.mem_iff.mp (List.mem_append_right _ isNumber))

/-- Progress that takes the place of the first jobs, or of none, keeps the balance. -/
private theorem absorb
    {settled : List Settlement} {machine : Machine app ω} (balanced : Balanced settled machine)
    {asked : List Inquiry} {newly : List Settlement} (first : List (Job app))
    (offered : List Outgoing) {rest : List (Job app)} {progress : Progress app ω}
    (agenda : machine.agenda = first ++ rest)
    (serves : Serves asked newly (offered.map Outgoing.frame) machine.connection
      progress.connection)
    (routed : inquiriesIn (machine.history ++ progress.deeds) =
      inquiriesIn machine.history ++ asked)
    (passedOn : (offered ++ outgoingOf progress.jobs).Sublist (outgoingOf first))
    (replies : repliesAmong (offered ++ outgoingOf progress.jobs) =
      repliesAmong (outgoingOf first))
    (loose : ∀ ticket ∈ progress.connection.tickets, ticket.kept = false →
      .release ticket.number ∈ progress.jobs ++ rest) :
    Balanced (settled ++ newly) (machine.absorb rest progress) := by
  obtain ⟨commands, inbox, stopped, running⟩ := serves.inbox
  have entered : (machine.absorb rest progress).entered = machine.entered ++ commands := by
    rw [Machine.absorb, inbox, List.drop_left]
  have settledReplies : repliesOf (settled ++ newly) = repliesOf settled ++ repliesOf newly :=
    List.map_append
  refine ⟨?_, ?_, ?_, ?_, ?_, loose, ?_⟩
  · change progress.connection.nextTicket = (inquiriesIn (machine.history ++ progress.deeds)).length
    rw [serves.nextTicket, balanced.nextTicket, routed, List.length_append]
  · change (_ ++ progress.connection.open?).Perm (inquiriesIn (machine.history ++ progress.deeds))
    rw [routed, inquiriesOf_append, List.append_assoc]
    refine (serves.tickets.append_left _).trans ?_
    rw [← List.append_assoc]
    exact balanced.parted.append_right asked
  · rw [entered, repliesIn_append, settledReplies]
    cases isRunning : progress.connection.running with
    | true =>
        have wasRunning := serves.running.symm.trans isRunning
        have sameReplies : repliesIn machine.entered ++ repliesIn commands =
            repliesOf settled ++ repliesOf newly := by
          rw [running isRunning, (balanced.kept wasRunning).1]
        exact sameReplies ▸ List.prefix_rfl
    | false =>
        have noReplies : repliesIn commands = [] := by
          rw [stopped isRunning]
          rfl
        rw [noReplies, List.append_nil]
        exact balanced.replies.trans (List.prefix_append _ _)
  · intro isRunning
    have wasRunning := serves.running.symm.trans isRunning
    obtain ⟨sameReplies, sameCommands⟩ := balanced.kept wasRunning
    refine ⟨?_, ?_⟩
    · rw [entered, repliesIn_append, settledReplies, running isRunning, sameReplies]
    · rw [entered, sameCommands, List.append_assoc, ← inbox]
      rfl
  · rw [entered]
    exact balanced.taken.trans (List.prefix_append _ _)
  · obtain ⟨messages, offers⟩ := balanced.offers
    have before := offers.passedOn
    have sameReplies := offers.replies
    have moved : messages ++ offered ++ outgoingOf (progress.jobs ++ rest) =
        messages ++ ((offered ++ outgoingOf progress.jobs) ++ outgoingOf rest) := by
      simp only [outgoingOf, List.filterMap_append, List.append_assoc]
    rw [agenda, outgoingOf, List.filterMap_append] at before sameReplies
    refine ⟨messages ++ offered, ?_, ?_, ?_⟩
    · change progress.connection.offered = _
      rw [serves.offered, offers.frames, List.map_append]
    · change (_ ++ outgoingOf (progress.jobs ++ rest)).Sublist (messagesIn machine.taken)
      rw [moved]
      exact ((passedOn.append_right _).append_left _).trans before
    · change repliesAmong (_ ++ outgoingOf (progress.jobs ++ rest)) = repliesIn machine.taken
      rw [moved, repliesAmong_append, repliesAmong_append, replies, ← sameReplies,
        repliesAmong_append, repliesAmong_append]
      rfl

/-! ## Choices -/

private theorem still
    {settled : List Settlement} {machine : Machine app ω} (balanced : Balanced settled machine)
    (flying : List Hook) (now : Instant) : Balanced settled { machine with flying, now } := by
  obtain ⟨messages, frames, passedOn, replies⟩ := balanced.offers
  exact ⟨balanced.nextTicket, balanced.parted, balanced.replies, balanced.kept, balanced.taken,
    balanced.loose, ⟨messages, frames, passedOn, replies⟩⟩

/-- What another thread does keeps the balance. -/
private theorem beside
    {settled : List Settlement} {machine : Machine app ω} (balanced : Balanced settled machine)
    {newly : List Settlement} {progress : Progress app ω}
    (serves : Serves [] newly [] machine.connection progress.connection)
    (noJobs : progress.jobs = []) (noDeeds : progress.deeds = []) :
    Balanced (settled ++ newly) (machine.absorb machine.agenda progress) := by
  refine balanced.absorb [] [] rfl serves ?_ ?_ ?_ ?_
  · rw [noDeeds, List.append_nil, List.append_nil]
  · rw [noJobs]
    exact List.Sublist.refl _
  · rw [noJobs]
    rfl
  · intro ticket isOpen isLoose
    rw [noJobs]
    rcases serves.loose ticket isOpen isLoose with wasOpen | isNew
    · exact balanced.loose ticket wasOpen isLoose
    · contradiction

private theorem minds_lose (connection : Connection app ω) (command : Command app) :
    Minds connection (connection.lose command) := by
  cases command with
  | request message options sink =>
      cases sink with
      | mailbox schema =>
          exact .quiet rfl rfl rfl rfl rfl
      | callback react =>
          exact .refl connection
  | notification message receipt =>
      exact minds_reportFate receipt _ connection
  | reply | received | order =>
      exact .refl connection

/-- When the worker stops, the replies in the inbox are lost. -/
private theorem halted [Wire ω]
    {settled : List Settlement} {machine : Machine app ω} (balanced : Balanced settled machine)
    {rest : List (Job app)} (agenda : machine.agenda = .halt :: rest) :
    Balanced settled (machine.absorb rest (Job.halt.step machine.now machine.connection)) := by
  let emptied := { machine.connection with running := false, inbox := [] }
  have lost : Minds emptied machine.connection.halt :=
    Serves.foldl minds_lose machine.connection.inbox emptied
  obtain ⟨commands, inbox, noCommands, -⟩ := lost.inbox
  rw [noCommands lost.running] at inbox
  have entered : (machine.absorb rest (Job.halt.step machine.now machine.connection)).entered =
      machine.entered := by
    change machine.entered ++ machine.connection.halt.inbox.drop _ = _
    rw [inbox]
    simp [emptied]
  refine ⟨?_, ?_, ?_, ?_, ?_, ?_, ?_⟩
  · change machine.connection.halt.nextTicket = (inquiriesIn (machine.history ++ [])).length
    rw [lost.nextTicket, List.append_nil]
    exact balanced.nextTicket
  · change (_ ++ machine.connection.halt.open?).Perm (inquiriesIn (machine.history ++ []))
    have tickets := lost.tickets
    rw [List.append_nil] at tickets ⊢
    exact (tickets.append_left _).trans balanced.parted
  · rw [entered]
    exact balanced.replies
  · intro isRunning
    have stopped : machine.connection.halt.running = false := lost.running
    exact Bool.noConfusion (stopped.symm.trans isRunning)
  · rw [entered]
    exact balanced.taken
  · intro ticket isOpen isLoose
    rcases lost.loose ticket isOpen isLoose with wasOpen | isNew
    · have isAhead := balanced.loose ticket wasOpen isLoose
      rw [agenda] at isAhead
      exact (List.mem_cons.mp isAhead).resolve_left (by simp)
    · contradiction
  · obtain ⟨messages, frames, passedOn, replies⟩ := balanced.offers
    rw [agenda] at passedOn replies
    refine ⟨messages, ?_, passedOn, replies⟩
    change machine.connection.halt.offered = _
    rw [lost.offered, List.append_nil]
    exact frames

/-- The worker does the first step of a job. -/
private theorem worked [Wire ω]
    {settled : List Settlement} {machine : Machine app ω} (balanced : Balanced settled machine)
    {job : Job app} {rest : List (Job app)} (agenda : machine.agenda = job :: rest)
    (goesOn : job ≠ .halt) :
    Balanced (settled ++ job.settles machine.connection)
      (machine.absorb rest (job.step machine.now machine.connection)) := by
  obtain ⟨offered, handles⟩ := Job.handles machine.now balanced.numbered job goesOn
  have isAhead : outgoingOf [job] = job.outgoing?.toList := by
    rw [outgoingOf]
    cases isMessage : job.outgoing? with
    | none =>
        exact List.filterMap_cons_none isMessage
    | some message =>
        exact List.filterMap_cons_some isMessage
  have routed := inquiriesIn_append handles.routed balanced.nextTicket
  refine balanced.absorb [job] _ agenda handles.serves routed ?_ ?_ ?_
  · rw [isAhead]
    exact handles.passedOn
  · rw [isAhead]
    exact handles.replies
  · intro ticket isOpen isLoose
    rcases handles.serves.loose ticket isOpen isLoose with wasOpen | isNew
    · have isReleased := balanced.loose ticket wasOpen isLoose
      rw [agenda] at isReleased
      rcases List.mem_cons.mp isReleased with isJob | isLater
      · have isKept := handles.released ticket.number isJob.symm ticket isOpen rfl
        exact Bool.noConfusion (isLoose.symm.trans isKept)
      · exact List.mem_append_right _ isLater
    · -- The ticket that a request has opened is still open, and hence not settled.
      have apart : (inquiriesOf (job.settles machine.connection) ++
          ((job.step machine.now machine.connection).connection).open?).Nodup := by
        refine handles.serves.tickets.nodup_iff.mpr ?_
        have everyone := nodup_inquiriesIn (machine.history ++
          (job.step machine.now machine.connection).deeds)
        rw [routed] at everyone
        have parted := balanced.parted.append_right (job.asks machine.connection)
        have distinct := parted.nodup_iff.mpr everyone
        rw [List.append_assoc] at distinct
        exact distinct.of_append_right
      have isLeft : ticket.inquiry ∉ inquiriesOf (job.settles machine.connection) := by
        intro isSettled
        exact List.disjoint_of_nodup_append apart isSettled (List.mem_map_of_mem isOpen)
      exact List.mem_append_left _ (handles.releases _ isNew isLeft)

private theorem reordered
    {settled : List Settlement} {machine : Machine app ω} (balanced : Balanced settled machine)
    {held hooks : List Hook} {rest : List (Job app)}
    (agenda : machine.agenda = .signal held :: rest) :
    Balanced settled { machine with agenda := .signal hooks :: rest } := by
  obtain ⟨messages, frames, passedOn, replies⟩ := balanced.offers
  have loose := balanced.loose
  rw [agenda] at loose passedOn replies
  refine ⟨balanced.nextTicket, balanced.parted, balanced.replies, balanced.kept, balanced.taken,
    ?_, ⟨messages, frames, passedOn, replies⟩⟩
  intro ticket isOpen isLoose
  have isAhead := (List.mem_cons.mp (loose ticket isOpen isLoose)).resolve_left (by simp)
  exact List.mem_cons_of_mem _ isAhead

private theorem takes
    {settled : List Settlement} {machine : Machine app ω} (balanced : Balanced settled machine)
    {command : Command app} {rest : List (Command app)} (agenda : machine.agenda = [])
    (isRunning : machine.connection.running = true)
    (inbox : machine.connection.inbox = command :: rest) :
    Balanced settled
      { machine with
        connection := { machine.connection with inbox := rest }
        agenda := [.carryOut command, .sweep]
        taken := machine.taken ++ [command] } := by
  obtain ⟨sameReplies, sameCommands⟩ := balanced.kept isRunning
  rw [inbox] at sameCommands
  have entered : machine.entered = machine.taken ++ [command] ++ rest := by
    rw [sameCommands, List.append_assoc]
    rfl
  have loose := balanced.loose
  obtain ⟨messages, frames, passedOn, replies⟩ := balanced.offers
  rw [agenda] at loose passedOn replies
  have isNext : outgoingOf [.carryOut command, .sweep] = messagesIn [command] := rfl
  refine ⟨balanced.nextTicket, balanced.parted, balanced.replies, fun _ => ⟨sameReplies, entered⟩,
    ?_, ?_, ⟨messages, frames, ?_, ?_⟩⟩
  · rw [entered]
    exact List.prefix_append _ _
  · intro ticket isOpen isLoose
    exact absurd (loose ticket isOpen isLoose) List.not_mem_nil
  · change (messages ++ outgoingOf [.carryOut command, .sweep]).Sublist
      (messagesIn (machine.taken ++ [command]))
    have moved : messagesIn (machine.taken ++ [command]) =
        messagesIn machine.taken ++ messagesIn [command] := List.filterMap_append
    rw [show outgoingOf [] = [] from rfl, List.append_nil] at passedOn
    rw [isNext, moved]
    exact passedOn.append_right _
  · change repliesAmong (messages ++ outgoingOf [.carryOut command, .sweep]) =
      repliesIn (machine.taken ++ [command])
    rw [show outgoingOf [] = [] from rfl, List.append_nil] at replies
    rw [isNext, repliesAmong_append, replies, repliesAmong_messagesIn, repliesIn_append]

private theorem woken
    {settled : List Settlement} {machine : Machine app ω} (balanced : Balanced settled machine)
    (agenda : machine.agenda = []) : Balanced settled { machine with agenda := [.sweep] } := by
  obtain ⟨messages, frames, passedOn, replies⟩ := balanced.offers
  have loose := balanced.loose
  rw [agenda] at loose passedOn replies
  refine ⟨balanced.nextTicket, balanced.parted, balanced.replies, balanced.kept, balanced.taken,
    ?_, ⟨messages, frames, passedOn, replies⟩⟩
  intro ticket isOpen isLoose
  exact absurd (loose ticket isOpen isLoose) List.not_mem_nil

theorem next [Wire ω]
    {settled : List Settlement} {machine : Machine app ω} (balanced : Balanced settled machine)
    (choice : Choice app ω) :
    Balanced (settled ++ machine.settles choice) (machine.next choice) := by
  have quietly {reached : Machine app ω} (stays : Balanced settled reached) :
      Balanced (settled ++ []) reached := by
    rw [List.append_nil]
    exact stays
  have same := quietly balanced
  cases choice with
  | take =>
      rw [Machine.next]
      split
      · rename_i command rest agenda isRunning inbox
        exact quietly (balanced.takes agenda isRunning inbox)
      · exact same
  | wake =>
      rw [Machine.next]
      split
      · rename_i agenda isRunning
        exact quietly (balanced.woken agenda)
      · exact same
  | work =>
      cases agenda : machine.agenda with
      | nil =>
          rw [Machine.next, Machine.settles, agenda]
          exact same
      | cons job rest =>
          rw [Machine.next, Machine.settles, agenda]
          by_cases isLast : job = .halt
          · subst isLast
            exact quietly (balanced.halted agenda)
          · exact balanced.worked agenda isLast
  | reorder hooks =>
      rw [Machine.next]
      split
      · rename_i held rest agenda
        by_cases isOrder : hooks.isPerm held = true
        · rw [if_pos isOrder]
          exact quietly (balanced.reordered agenda)
        · rw [if_neg isOrder]
          exact same
      · exact same
  | pass instant =>
      exact quietly (balanced.still machine.flying (machine.now.latest instant))
  | act act =>
      refine balanced.beside (Act.serves balanced.numbered act) ?_ ?_
      · cases act <;> rfl
      · cases act <;> rfl
  | trigger token =>
      have flown := balanced.still
        (machine.flying ++ (machine.connection.tokens.cancel token).1) machine.now
      exact flown.beside (.quiet rfl rfl rfl rfl rfl) rfl rfl
  | fire hook =>
      by_cases isFlying : hook ∈ machine.flying
      · have landed := balanced.still (machine.flying.erase hook) machine.now
        rw [Machine.next, if_pos isFlying]
        exact landed.beside (minds_setOff machine.connection hook) rfl rfl
      · rw [Machine.next, if_neg isFlying]
        exact same

theorem run [Wire ω]
    {settled : List Settlement} {machine : Machine app ω} (balanced : Balanced settled machine)
    (schedule : List (Choice app ω)) :
    Balanced (settled ++ machine.settlements schedule) (machine.run schedule) := by
  induction schedule generalizing settled machine with
  | nil =>
      rw [Machine.settlements, List.append_nil]
      exact balanced
  | cons choice rest inductionHypothesis =>
      have ran := inductionHypothesis (balanced.next choice)
      rwa [List.append_assoc] at ran

end Balanced

end RpcEndpoint
