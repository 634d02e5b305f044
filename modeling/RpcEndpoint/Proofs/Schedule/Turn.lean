import RpcEndpoint.Proofs.Schedule.Stroke

/-!
# Turns as schedules

When nobody comes between, the jobs of a command amount to what `Connection.handle` makes of it, and
a turn of the worker is one of the schedules of a machine.
-/

namespace RpcEndpoint

open Connection

variable {app : Application} {ω : Type} [Wire ω] {now : Instant}

/-- The jobs are done at an instant, one after another, and nobody comes between. -/
inductive Settles (now : Instant) :
    List (Job app) → Connection app ω → Connection app ω → Prop where
  | none (connection : Connection app ω) : Settles now [] connection connection
  | first {job : Job app} {rest : List (Job app)} {before after : Connection app ω}
      (settles : Settles now ((job.step now before).jobs ++ rest)
        (job.step now before).connection after) :
      Settles now (job :: rest) before after

namespace Settles

theorem append
    {left right : List (Job app)} {first second third : Connection app ω}
    (earlier : Settles now left first second) (later : Settles now right second third) :
    Settles now (left ++ right) first third := by
  induction earlier with
  | none connection =>
      exact later
  | first settles inductionHypothesis =>
      have settled := inductionHypothesis later
      rw [List.append_assoc] at settled
      exact .first settled

/-- One job is done when the jobs that come of it are done. -/
theorem one
    {job : Job app} {before after : Connection app ω}
    (settles : Settles now (job.step now before).jobs (job.step now before).connection after) :
    Settles now [job] before after := by
  refine .first ?_
  rwa [List.append_nil]

/-- Jobs of one kind are done one after another. -/
theorem map
    {α : Type} {job : α → Job app} {step : Connection app ω → α → Connection app ω}
    (settles : ∀ connection item, Settles now [job item] connection (step connection item))
    (items : List α) (connection : Connection app ω) :
    Settles now (items.map job) connection (items.foldl step connection) := by
  induction items generalizing connection with
  | nil =>
      exact .none connection
  | cons item rest inductionHypothesis =>
      exact (settles connection item).append (inductionHypothesis _)

/-! ## Callbacks -/

theorem signal (hooks : List Hook) (connection : Connection app ω) :
    Settles now [.signal hooks] connection (hooks.foldl setOff connection) := by
  induction hooks generalizing connection with
  | nil =>
      exact .one (.none connection)
  | cons hook rest inductionHypothesis =>
      exact .one (inductionHypothesis _)

theorem react (reaction : Reaction app) (connection : Connection app ω) :
    Settles now [.react reaction] connection (reaction.run connection) := by
  induction reaction, connection using Reaction.run.induct with
  | case1 connection =>
      exact .one (.none connection)
  | case2 entry next connection inductionHypothesis =>
      exact .one inductionHypothesis
  | case3 next connection inductionHypothesis =>
      exact .one inductionHypothesis
  | case4 memory next connection inductionHypothesis =>
      exact .one inductionHypothesis
  | case5 method params options sink next connection outcome sent requested
      inductionHypothesis =>
      rw [Reaction.run, requested]
      refine .one ?_
      simpa [Job.step, Reaction.advance, requested] using inductionHypothesis
  | case6 method params next connection outcome sent notified inductionHypothesis =>
      rw [Reaction.run, notified]
      refine .one ?_
      simpa [Job.step, Reaction.advance, notified] using inductionHypothesis
  | case7 wanted next connection inductionHypothesis =>
      exact .one inductionHypothesis
  | case8 token next connection inductionHypothesis =>
      exact .one ((signal _ _).append inductionHypothesis)
  | case9 ticket outcome next connection wasOpen answered isAnswer inductionHypothesis =>
      rw [Reaction.run, isAnswer]
      refine .one ?_
      simpa [Job.step, Reaction.advance, isAnswer] using inductionHypothesis
  | case10 ticket next connection wasOpen discarded isDiscard inductionHypothesis =>
      rw [Reaction.run, isDiscard]
      refine .one ?_
      simpa [Job.step, Reaction.advance, isDiscard] using inductionHypothesis
  | case11 ticket next connection wasOpen kept isKept inductionHypothesis =>
      rw [Reaction.run, isKept]
      refine .one ?_
      simpa [Job.step, Reaction.advance, isKept] using inductionHypothesis

/-! ## Outcomes and events -/

theorem deliver
    (promise : Promise app) (outcome : Except Failure Bytes) (connection : Connection app ω) :
    Settles now [.deliver promise outcome] connection
      (connection.deliver promise.id promise.sink outcome) := by
  refine .one ?_
  obtain ⟨id, sink⟩ := promise
  cases sink with
  | mailbox schema =>
      exact .none _
  | callback answer =>
      exact react (answer outcome) _

theorem finish
    (entry : PendingRequest app) (outcome : Except Failure Bytes)
    (connection : Connection app ω) :
    Settles now [.finish entry outcome] connection (connection.finish entry outcome) :=
  .one (deliver entry.promise outcome _)

theorem emit (event : Event) (connection : Connection app ω) :
    Settles now [.emit event] connection (connection.emit event) := by
  refine .one ?_
  exact map (fun told answer => react (answer event) told) connection.handlers.observers _

theorem timeOut (connection : Connection app ω) (entry : PendingRequest app) :
    Settles now [.timeOut entry] connection (connection.timeOut entry) := by
  refine .one ?_
  exact (emit _ connection).append (finish entry (.error entry.lateness) _)

/-! ## Payloads from the peer -/

private theorem resolve
    (id : MessageId) (payload : Bytes) (connection : Connection app ω) :
    Settles now (connection.pair id payload).jobs (connection.pair id payload).connection
      (connection.resolve id payload) := by
  unfold pair Connection.resolve
  cases connection.pending.find id with
  | none =>
      exact emit _ connection
  | some entry =>
      exact finish entry _ _

private theorem dispatchNotification
    (notification : IncomingNotification) (connection : Connection app ω) :
    Settles now (connection.notice notification).jobs (connection.notice notification).connection
      (connection.dispatchNotification notification) := by
  unfold notice Connection.dispatchNotification
  cases connection.handlers.forNotification notification.method with
  | none =>
      exact emit _ _
  | some answer =>
      exact react _ _

private theorem dispatchRequest
    (request : IncomingRequest) (connection : Connection app ω) :
    Settles now (connection.consider request).jobs (connection.consider request).connection
      (connection.dispatchRequest request) := by
  unfold consider Connection.dispatchRequest
  cases connection.handlers.forRequest request.method with
  | none =>
      exact .none _
  | some answer =>
      exact (react _ _).append (.one (.none _))

private theorem reportUndecodable
    (reason : Unrecognized) (payload : Bytes) (connection : Connection app ω) :
    Settles now (connection.wonder reason payload).jobs
      (connection.wonder reason payload).connection
      (connection.reportUndecodable reason payload) := by
  have told : Settles now [.emit (.undecodablePayload payload.length reason)] connection
      (connection.emit (.undecodablePayload payload.length reason)) := emit _ connection
  unfold wonder Connection.reportUndecodable
  cases connection.handlers.undecodable with
  | none =>
      exact told
  | some answer =>
      exact told.append (.one (react _ _))

theorem route (connection : Connection app ω) (payload : Bytes) :
    Settles now [.route payload] connection (connection.route payload) := by
  refine .one ?_
  change Settles now (connection.sort payload).jobs (connection.sort payload).connection _
  unfold sort Connection.route
  cases Incoming.classify payload with
  | response response =>
      exact resolve response.id payload connection
  | notification message =>
      exact dispatchNotification _ connection
  | request message =>
      exact dispatchRequest _ connection
  | unrecognized reason =>
      exact reportUndecodable reason payload connection

/-! ## Commands -/

private theorem receive (chunk : Bytes) (connection : Connection app ω) :
    Settles now (connection.split chunk).jobs (connection.split chunk).connection
      (connection.receive chunk) := by
  unfold Connection.split Connection.receive Connection.unpack
  rcases connection.framer.decoder.push chunk with ⟨⟨payloads, fault⟩, decoder⟩
  cases fault with
  | none =>
      exact map route payloads _
  | some fault =>
      exact (emit (.malformedHeader fault) _).append (map route payloads _)

private theorem failAll (failure : Failure) (connection : Connection app ω) :
    Settles now (connection.drain failure).jobs (connection.drain failure).connection
      (connection.failAll failure) := by
  unfold drain Connection.failAll
  cases connection.pending.inOrder with
  | nil =>
      exact .none connection
  | cons first rest =>
      exact map (fun failed entry => finish entry (.error failure) failed) (first :: rest) _

private theorem cancelPending (id : MessageId) (connection : Connection app ω) :
    Settles now (connection.expel id).jobs (connection.expel id).connection
      (connection.cancelPending id) := by
  unfold expel Connection.cancelPending
  cases connection.pending.find id with
  | none =>
      exact .none connection
  | some entry =>
      exact (emit _ _).append (finish entry _ _)

private theorem obey (order : Order app) (connection : Connection app ω) :
    Settles now (connection.heed order).jobs (connection.heed order).connection
      (connection.obey order) := by
  cases order with
  | register registration =>
      exact .none _
  | cancel id =>
      exact cancelPending id connection
  | failPending failure =>
      exact failAll failure connection
  | close failure =>
      exact (failAll failure connection).append (.one (.none _))
  | resetFramer =>
      exact .none _
  | shutdown =>
      exact (failAll .closed connection).append (.one (.none _))

private theorem send (message : Request) (connection : Connection app ω) :
    Settles now [.send message] connection
      (match connection.transmit message.toValue.encode with
        | (.ok (), sent) => sent.confirm
        | (.error failure, refused) => refused.withdraw message.id failure) := by
  refine .one ?_
  change Settles now (connection.offer message).jobs (connection.offer message).connection _
  unfold offer
  rcases connection.transmit message.toValue.encode with ⟨outcome, written⟩
  cases outcome with
  | ok accepted =>
      exact .none _
  | error failure =>
      dsimp only
      unfold withdraw
      cases written.pending.find message.id with
      | none =>
          exact .none _
      | some entry =>
          exact finish entry _ _

private theorem launch
    (message : Request) (options : Options) (sink : Sink app) (connection : Connection app ω) :
    Settles now [.launch message options sink] connection
      (connection.launch now message options sink) := by
  let watched := connection.watch message.id options.token
  refine .one ?_
  exact send message (watched.2.enter now message options.timeout sink watched.1)

private theorem start
    (message : Request) (options : Options) (sink : Sink app) (connection : Connection app ω) :
    Settles now (connection.weigh message options sink).jobs
      (connection.weigh message options sink).connection
      (connection.start now message options sink) := by
  unfold weigh Connection.start
  cases connection.refusal? options with
  | none =>
      exact launch message options sink connection
  | some failure =>
      exact deliver ⟨message.id, sink⟩ _ connection

theorem handle (command : Command app) (connection : Connection app ω) :
    Settles now [.carryOut command] connection (connection.handle now command) := by
  refine .one ?_
  cases command with
  | request message options sink =>
      exact start message options sink connection
  | notification message receipt =>
      exact .none _
  | reply response =>
      exact .none _
  | received chunk =>
      exact receive chunk connection
  | order order =>
      exact obey order connection

theorem sweep (connection : Connection app ω) :
    Settles now [.sweep] connection
      (if connection.running then connection.expire now else connection) := by
  refine .one ?_
  by_cases isRunning : connection.running = true
  · rw [Job.step, if_pos isRunning, if_pos isRunning]
    unfold Connection.sweep Connection.expire
    cases connection.pending.due now with
    | nil =>
        exact .none connection
    | cons first rest =>
        exact map timeOut (first :: rest) _
  · rw [Job.step, if_neg isRunning, if_neg isRunning]
    exact .none connection

/-- Whatever is before the worker, some steps of it do away with all of it. -/
theorem exist (jobs : List (Job app)) (connection : Connection app ω) :
    ∃ after, Settles now jobs connection after := by
  induction jobs generalizing connection with
  | nil =>
      exact ⟨connection, .none connection⟩
  | cons job rest inductionHypothesis =>
      have settles : ∃ after, Settles now [job] connection after := by
        cases job with
        | carryOut command =>
            exact ⟨_, handle command connection⟩
        | launch message options sink =>
            exact ⟨_, launch message options sink connection⟩
        | send message =>
            exact ⟨_, send message connection⟩
        | deliver promise outcome =>
            exact ⟨_, deliver promise outcome connection⟩
        | finish entry outcome =>
            exact ⟨_, finish entry outcome connection⟩
        | timeOut entry =>
            exact ⟨_, timeOut connection entry⟩
        | emit event =>
            exact ⟨_, emit event connection⟩
        | route payload =>
            exact ⟨_, route connection payload⟩
        | puzzle payload reaction =>
            exact ⟨_, .one (react reaction _)⟩
        | react reaction =>
            exact ⟨_, react reaction connection⟩
        | signal hooks =>
            exact ⟨_, signal hooks connection⟩
        | sweep =>
            exact ⟨_, sweep connection⟩
        | release | shut | halt =>
            exact ⟨_, .one (.none _)⟩
      obtain ⟨between, first⟩ := settles
      obtain ⟨after, others⟩ := inductionHypothesis between
      exact ⟨after, first.append others⟩

end Settles

/-! ## Schedules -/

/-- A worker that goes on working does its first jobs, and the others are still before it. -/
theorem Settles.run
    {jobs rest : List (Job app)} {after : Connection app ω} {machine : Machine app ω}
    (settles : Settles machine.now jobs machine.connection after)
    (agenda : machine.agenda = jobs ++ rest) :
    ∃ count,
      let reached := machine.run (List.replicate count .work)
      reached.connection = after ∧ reached.agenda = rest ∧ reached.now = machine.now := by
  generalize isNow : machine.now = now at settles
  generalize isBefore : machine.connection = before at settles
  induction settles generalizing machine with
  | none connection =>
      exact ⟨0, isBefore, agenda, isNow⟩
  | @first job others before after settles inductionHypothesis =>
      subst isNow isBefore
      have stepped : machine.next .work =
          machine.absorb (others ++ rest) (job.step machine.now machine.connection) := by
        rw [Machine.next, agenda]
        rfl
      have goesOn := @inductionHypothesis (machine.next .work)
      rw [stepped] at goesOn
      obtain ⟨count, reached⟩ := goesOn (List.append_assoc _ _ _).symm rfl rfl
      refine ⟨count + 1, ?_⟩
      rw [List.replicate_succ, Machine.run, List.foldl_cons, stepped]
      exact reached

/-- The worker alone gets to the end of its agenda. -/
theorem Machine.clears (machine : Machine app ω) :
    ∃ count, (machine.run (List.replicate count .work)).agenda = [] := by
  obtain ⟨after, settles⟩ : ∃ after, Settles machine.now machine.agenda machine.connection after :=
    Settles.exist machine.agenda machine.connection
  obtain ⟨count, -, isClear, -⟩ := settles.run (List.append_nil _).symm
  exact ⟨count, isClear⟩

theorem Machine.taken_run_work (machine : Machine app ω) (count : Nat) :
    (machine.run (List.replicate count .work)).taken = machine.taken := by
  induction count generalizing machine with
  | zero =>
      rfl
  | succ count inductionHypothesis =>
      have same : (machine.next .work).taken = machine.taken := by
        rw [Machine.next]
        split <;> rfl
      exact (inductionHypothesis (machine.next .work)).trans same

private theorem run_sweep
    {machine : Machine app ω} (agenda : machine.agenda = [.sweep]) :
    ∃ count,
      let reached := machine.run (List.replicate count .work)
      reached.connection =
          (if machine.connection.running then machine.connection.expire machine.now
            else machine.connection) ∧
        reached.agenda = [] := by
  obtain ⟨count, connection, rest, -⟩ :=
    (Settles.sweep machine.connection).run (agenda.trans (List.append_nil _).symm)
  exact ⟨count, connection, rest⟩

/-- What the worker does in one turn is a schedule of the machine, in which nobody else comes. -/
theorem turn_eq_run
    {machine : Machine app ω} {later : Instant}
    (idle : machine.agenda = []) (inTime : machine.now.latest later = later) :
    ∃ schedule,
      (machine.run schedule).connection = machine.connection.turn machine.now later ∧
        (machine.run schedule).agenda = [] := by
  unfold Connection.turn
  by_cases isRunning : machine.connection.running = true
  · rw [if_pos isRunning]
    cases inbox : machine.connection.inbox with
    | nil =>
        have woken : machine.run [.pass later, .wake] =
            { machine with agenda := [.sweep], now := later } := by
          simp [Machine.run, Machine.next, idle, isRunning, inTime]
        obtain ⟨count, connection, rest⟩ :=
          run_sweep (congrArg Machine.agenda woken)
        rw [← Machine.run_append] at connection rest
        refine ⟨_, ?_, rest⟩
        rw [connection, woken, if_pos isRunning]
    | cons command rest =>
        have taken : machine.run [.take] =
            { machine with
              connection := { machine.connection with inbox := rest }
              agenda := [.carryOut command, .sweep]
              taken := machine.taken ++ [command] } := by
          simp [Machine.run, Machine.next, idle, isRunning, inbox]
        have handled : Settles (machine.run [.take]).now [.carryOut command]
            (machine.run [.take]).connection _ := Settles.handle command _
        have sweepAhead : (machine.run [.take]).agenda = [.carryOut command] ++ [.sweep] :=
          congrArg Machine.agenda taken
        obtain ⟨count, connection, agenda, now⟩ := handled.run sweepAhead
        have sameNow : (machine.run [.take]).now = machine.now := by rw [taken]
        obtain ⟨more, swept, done⟩ :=
          @run_sweep _ _ _
            (((machine.run [.take]).run (List.replicate count .work)).next (.pass later)) agenda
        have isLater :
            (((machine.run [.take]).run (List.replicate count .work)).next (.pass later)).now =
              later := by
          rw [Machine.next, now, sameNow, inTime]
        refine ⟨[.take] ++ List.replicate count .work ++ [.pass later] ++
          List.replicate more .work, ?_, ?_⟩
        · rw [Machine.run_append, Machine.run_append, Machine.run_append]
          refine swept.trans ?_
          rw [isLater]
          change (if ((machine.run [.take]).run (List.replicate count .work)).connection.running
            then ((machine.run [.take]).run (List.replicate count .work)).connection.expire later
            else ((machine.run [.take]).run (List.replicate count .work)).connection) = _
          rw [connection, sameNow, taken]
        · rw [Machine.run_append, Machine.run_append, Machine.run_append]
          exact done
  · rw [if_neg isRunning]
    exact ⟨[], rfl, idle⟩

end RpcEndpoint
