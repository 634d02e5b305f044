import RpcEndpoint.Proofs.Requests.Table
import RpcEndpoint.Proofs.Schedule.Sends

/-!
# The moves of the worker

The first step of a job is one of twelve moves, as far as requests are concerned. Each says what
becomes of the table, of the log and of the bytes that wait, and which jobs come of it; about
everything else it says that nothing but sends has happened.
-/

namespace RpcEndpoint

variable {app : Application} {ω : Type}

/-- A payload is a response to this identifier. -/
def Answers (payload : Bytes) (id : MessageId) : Prop :=
  ∃ response, Incoming.classify payload = .response response ∧ response.id = id

/-- What is no response is no answer. -/
private theorem not_answers
    {payload : Bytes}
    (other : ∀ response, Incoming.classify payload ≠ .response response) (id : MessageId) :
    ¬ Answers payload id := by
  rintro ⟨response, isResponse, -⟩
  exact other response isResponse

private theorem answers_iff
    {payload : Bytes} {response : Response} {id : MessageId}
    (isResponse : Incoming.classify payload = .response response) :
    Answers payload id ↔ response.id = id := by
  constructor
  · rintro ⟨other, isOther, sameId⟩
    rw [isResponse] at isOther
    rw [Incoming.response.inj isOther]
    exact sameId
  · intro sameId
    exact ⟨response, isResponse, sameId⟩

/-- Whether a payload answers a request can be read off it. -/
instance (payload : Bytes) (id : MessageId) : Decidable (Answers payload id) :=
  match classified : Incoming.classify payload with
  | .response _ => decidable_of_iff _ (answers_iff classified).symm
  | .notification _ => .isFalse (not_answers (by simp [classified]) id)
  | .request _ => .isFalse (not_answers (by simp [classified]) id)
  | .unrecognized _ => .isFalse (not_answers (by simp [classified]) id)

/-! ## Commands and jobs -/

/-- The payloads that a command completes, and the decoder behind it. -/
def Command.feed (decoder : Framing.Decoder) : Command app → List Bytes × Framing.Decoder
  | .received chunk => ((decoder.push chunk).1.payloads, (decoder.push chunk).2)
  | .order .resetFramer => ([], decoder.reset)
  | _ => ([], decoder)

/-- Whether a command stops the worker. -/
def Command.stops : Command app → Bool
  | .order .shutdown => true
  | _ => false

namespace Job

/-- The promises that a job has to keep. -/
def promises : Job app → List (Promise app)
  | .carryOut command => command.promise?.toList
  | .launch message _ sink => [⟨message.id, sink⟩]
  | .deliver promise _ => [promise]
  | .finish entry _ | .timeOut entry => [entry.promise]
  | _ => []

/-- The payloads that a job is about to route or to complete, and the decoder behind it. -/
def feed (decoder : Framing.Decoder) : Job app → List Bytes × Framing.Decoder
  | .carryOut command => command.feed decoder
  | .route payload => ([payload], decoder)
  | _ => ([], decoder)

/-- Whether the worker leaves its loop with this job. -/
def stops : Job app → Bool
  | .carryOut command => command.stops
  | .halt => true
  | _ => false

/-- A job that no request of this side hangs on. -/
inductive Light : Job app → Prop where
  | emit (event : Event) : Light (.emit event)
  | puzzle (payload : Bytes) (reaction : Reaction app) : Light (.puzzle payload reaction)
  | release (ticket : TicketNumber) : Light (.release ticket)
  | react (reaction : Reaction app) : Light (.react reaction)
  | signal (hooks : List Hook) : Light (.signal hooks)
  | shut (failure : Failure) : Light (.shut failure)

/-- A job that ends a request without an answer. -/
inductive Fails : Job app → Prop where
  | finish (entry : PendingRequest app) (failure : Failure) :
      Fails (.finish entry (.error failure))
  | timeOut (entry : PendingRequest app) : Fails (.timeOut entry)

end Job

/-! ## Moves -/

open Connection

/-- Nothing but sends has been done, and only light jobs come of it. -/
structure Progress.Lightly (before : Connection app ω) (progress : Progress app ω) : Prop where
  jobs : ∀ next ∈ progress.jobs, next.Light
  sends : Sends progress.accepted before progress.connection

/-- What the first step of a job may amount to. -/
inductive Move (before : Connection app ω) (progress : Progress app ω) : Job app → Prop where
  | light {job : Job app}
      (isLight : job.Light)
      (lightly : progress.Lightly before)
      (deeds : progress.deeds = []) :
      Move before progress job
  /-- A command that completes payloads, most often none. -/
  | fed {command : Command app} (lights : List (Job app))
      (other : command.promise? = none)
      (goesOn : command.stops = false)
      (jobs : progress.jobs =
        lights ++ (command.feed before.framer.decoder).1.map .route)
      (areLight : ∀ next ∈ lights, next.Light)
      (sends : Sends progress.accepted
        { before with
          framer := { before.framer with decoder := (command.feed before.framer.decoder).2 } }
        progress.connection)
      (deeds : progress.deeds = []) :
      Move before progress (.carryOut command)
  | rejected {message : Request} {options : Options} {sink : Sink app} (failure : Failure)
      (isProgress : progress =
        { jobs := [.deliver ⟨message.id, sink⟩ (.error failure)], connection := before }) :
      Move before progress (.carryOut (.request message options sink))
  | admitted {message : Request} {options : Options} {sink : Sink app}
      (isProgress : progress =
        { jobs := [.launch message options sink], connection := before }) :
      Move before progress (.carryOut (.request message options sink))
  | entered {message : Request} {options : Options} {sink : Sink app}
      (entry : PendingRequest app)
      (promise : entry.promise = ⟨message.id, sink⟩)
      (jobs : progress.jobs = [.send message])
      (sends : Sends progress.accepted
        { before with pending := before.pending.insert entry } progress.connection)
      (deeds : progress.deeds = []) :
      Move before progress (.launch message options sink)
  | sent {message : Request}
      (jobs : progress.jobs = [])
      (sends : Sends progress.accepted before progress.connection)
      (deeds : progress.deeds = [.sent message.id]) :
      Move before progress (.send message)
  /-- Entries leave the table without an answer. -/
  | withdrawn {job : Job app} (entries kept : PendingTable app)
      (unconcerned : job.promises = [])
      (noPayload : ∀ decoder, job.feed decoder = ([], decoder))
      (parted : before.pending.Perm (entries ++ kept))
      (jobs : ∀ next ∈ progress.jobs, next.Light ∨ next.Fails ∨ next = .halt)
      (promises : progress.jobs.flatMap Job.promises = entries.promises)
      (stops : progress.jobs.any Job.stops = job.stops)
      (nothingKept : job.stops = true → kept = [])
      (unwritten : ∀ message, job = .send message → message.id ∉ kept.ids)
      (sends : Sends progress.accepted
        { before with pending := kept } progress.connection)
      (deeds : progress.deeds = []) :
      Move before progress job
  | passed {payload : Bytes}
      (unanswered : ∀ id ∈ before.pending.ids, ¬ Answers payload id)
      (lightly : progress.Lightly before)
      (deeds : progress.deeds = [.routed payload before.pending.ids]) :
      Move before progress (.route payload)
  | answered {payload : Bytes} (entry : PendingRequest app)
      (answers : Answers payload entry.id)
      (found : before.pending.find entry.id = some entry)
      (jobs : progress.jobs = [.finish entry (.ok payload)])
      (sends : Sends progress.accepted
        { before with pending := before.pending.remove entry.id } progress.connection)
      (deeds : progress.deeds = [.routed payload before.pending.ids]) :
      Move before progress (.route payload)
  | late {entry : PendingRequest app}
      (isProgress : progress =
        { jobs := [.emit (.requestTimedOut entry.id entry.method),
            .finish entry (.error entry.lateness)]
          connection := before }) :
      Move before progress (.timeOut entry)
  | finished {entry : PendingRequest app} {outcome : Except Failure Bytes}
      (jobs : progress.jobs = [.deliver entry.promise outcome])
      (sends : Sends progress.accepted before progress.connection)
      (deeds : progress.deeds = []) :
      Move before progress (.finish entry outcome)
  | delivered {promise : Promise app} {outcome : Except Failure Bytes}
      (lightly : progress.Lightly (before.record (.completed promise.id outcome)))
      (deeds : progress.deeds = [.completed promise outcome]) :
      Move before progress (.deliver promise outcome)
  | halted
      (isProgress : progress = { jobs := [], connection := before.halt }) :
      Move before progress .halt

/-! ## Early ends -/

namespace Connection

/-- Jobs that each end one entry keep the promises of all. -/
private theorem flatMap_promises
    (entries : PendingTable app) (job : PendingRequest app → Job app)
    (owes : ∀ entry, (job entry).promises = [entry.promise]) :
    (entries.map job).flatMap Job.promises = PendingTable.promises entries := by
  rw [List.flatMap_map, PendingTable.promises, List.map_eq_flatMap]
  simp only [owes]

private theorem eq_nil_of_inOrder {table : PendingTable app} (nothing : table.inOrder = []) :
    table = [] := by
  have same := PendingTable.perm_inOrder table
  rw [nothing] at same
  exact same.eq_nil

/-- All entries leave the table, to fail in their order. -/
theorem drain_spec (failure : Failure) (connection : Connection app ω) :
    (connection.drain failure).jobs =
        connection.pending.inOrder.map (fun entry => .finish entry (.error failure)) ∧
      Sends (connection.drain failure).accepted
        { connection with pending := [] } (connection.drain failure).connection ∧
      (connection.drain failure).deeds = [] := by
  unfold drain
  split
  · rename_i nothing
    have isEmpty := eq_nil_of_inOrder nothing
    refine ⟨by rw [nothing]; rfl, ?_, rfl⟩
    exact .quiet isEmpty rfl rfl rfl rfl rfl
  · rename_i first rest isOrder
    refine ⟨by rw [isOrder], ?_, rfl⟩
    exact .quiet rfl rfl rfl rfl rfl rfl

/-- A command that fails all requests and then has something light or the end before it. -/
private theorem move_drain
    (command : Command app) (failure : Failure) (connection : Connection app ω)
    (last : List (Job app))
    (other : command.promise? = none)
    (noPayload : ∀ decoder, command.feed decoder = ([], decoder))
    (lastJobs : ∀ next ∈ last, next.Light ∨ next = .halt)
    (lastPromises : last.flatMap Job.promises = [])
    (lastStops : last.any Job.stops = command.stops) :
    Move connection
      { connection.drain failure with jobs := (connection.drain failure).jobs ++ last }
      (.carryOut command) := by
  obtain ⟨jobs, sends, deeds⟩ := drain_spec failure connection
  refine .withdrawn connection.pending.inOrder [] ?_ noPayload ?_ ?_ ?_ ?_ (fun _ => rfl)
    (by intros; contradiction) sends deeds
  · simp [Job.promises, other]
  · rw [List.append_nil]
    exact PendingTable.perm_inOrder _
  · intro next isNext
    rw [jobs, List.mem_append, List.mem_map] at isNext
    rcases isNext with ⟨entry, -, rfl⟩ | isLast
    · exact .inr (.inl (.finish entry failure))
    · exact (lastJobs next isLast).imp_right .inr
  · rw [jobs, List.flatMap_append, flatMap_promises _ _ (fun _ => rfl), lastPromises,
      List.append_nil]
  · rw [jobs, List.any_append, lastStops, List.any_map]
    have noneStops :
        connection.pending.inOrder.any
          (Job.stops ∘ fun entry => Job.finish entry (.error failure)) = false :=
      List.any_eq_false.mpr fun _ _ => Bool.false_ne_true
    rw [noneStops]
    rfl

/-- Nobody leaves the table. -/
private theorem move_idle
    {job : Job app}
    (unconcerned : job.promises = [])
    (noPayload : ∀ decoder, job.feed decoder = ([], decoder))
    (goesOn : job.stops = false)
    (noWrite : ∀ message, job ≠ .send message)
    (connection : Connection app ω) :
    Move connection { jobs := [], connection } job := by
  refine .withdrawn [] connection.pending unconcerned noPayload (.refl _) ?_ rfl goesOn.symm ?_
    (fun message isSend => absurd isSend (noWrite message)) (.refl connection) rfl
  · intro next isNext
    contradiction
  · intro stops
    rw [goesOn] at stops
    contradiction

private theorem move_expel
    (id : MessageId) (connection : Connection app ω)
    (distinct : connection.pending.Distinct) :
    Move connection (connection.expel id) (.carryOut (.order (.cancel id))) := by
  unfold expel
  split
  · rename_i entry found
    refine .withdrawn [entry] (connection.pending.remove id) rfl (fun _ => rfl)
      (PendingTable.perm_remove distinct found) ?_ rfl rfl ?_ (by intros; contradiction) ?_ rfl
    · intro next isNext
      rcases List.mem_pair.mp isNext with rfl | rfl
      · exact .inl (.emit _)
      · exact .inr (.inl (.finish entry _))
    · intro stops
      contradiction
    · exact .quiet rfl rfl rfl rfl rfl rfl
  · exact move_idle rfl (fun _ => rfl) rfl (by intros; simp) connection

private theorem move_sweep (now : Instant) (connection : Connection app ω) :
    Move connection (connection.sweep now) .sweep := by
  unfold sweep
  split
  · exact move_idle rfl (fun _ => rfl) rfl (by intros; simp) connection
  · rename_i first rest isDue
    refine .withdrawn (first :: rest) (connection.pending.notDue now) rfl (fun _ => rfl)
      ?_ ?_ ?_ ?_ ?_ (by intros; contradiction) ?_ rfl
    · rw [← isDue]
      exact PendingTable.perm_due now _
    · intro next isNext
      obtain ⟨entry, -, rfl⟩ := List.mem_map.mp isNext
      exact .inr (.inl (.timeOut entry))
    · exact flatMap_promises (first :: rest) Job.timeOut fun _ => rfl
    · exact List.any_eq_false.mpr fun next isNext => by
        obtain ⟨entry, -, rfl⟩ := List.mem_map.mp isNext
        exact Bool.false_ne_true
    · intro stops
      contradiction
    · exact .quiet rfl rfl rfl rfl rfl rfl

/-! ## Requests and payloads -/

private theorem move_weigh
    (message : Request) (options : Options) (sink : Sink app) (connection : Connection app ω) :
    Move connection (connection.weigh message options sink)
      (.carryOut (.request message options sink)) := by
  unfold weigh
  split
  · exact .rejected _ rfl
  · exact .admitted rfl

private theorem move_offer [Wire ω]
    (message : Request) (connection : Connection app ω)
    (distinct : connection.pending.Distinct) :
    Move connection (connection.offer message) (.send message) := by
  have transmitted := sends_transmit message.toValue.encode connection
  unfold offer
  split
  · rename_i sent written
    rw [written] at transmitted
    exact .sent rfl (transmitted.then (.quiet rfl rfl rfl rfl rfl rfl)) rfl
  · rename_i failure refused written
    rw [written] at transmitted
    have samePending : refused.pending = connection.pending := transmitted.pending
    have sends : Sends [] { connection with pending := refused.pending.remove message.id }
        { refused with pending := refused.pending.remove message.id }.countPending :=
      (transmitted.withPending _).then (.quiet rfl rfl rfl rfl rfl rfl)
    rw [samePending] at sends ⊢
    refine .withdrawn (connection.pending.find message.id).toList
      (connection.pending.remove message.id) rfl (fun _ => rfl) ?_ ?_ ?_ ?_ ?_ ?_ sends rfl
    · cases found : connection.pending.find message.id with
      | none =>
          have absent := PendingTable.find_eq_none_iff.mp found
          rw [PendingTable.remove_of_not_mem absent]
          exact .refl _
      | some entry =>
          exact PendingTable.perm_remove distinct found
    · intro next isNext
      obtain ⟨entry, -, rfl⟩ := List.mem_map.mp isNext
      exact .inr (.inl (.finish entry _))
    · exact flatMap_promises _ _ fun _ => rfl
    · exact List.any_eq_false.mpr fun next isNext => by
        obtain ⟨entry, -, rfl⟩ := List.mem_map.mp isNext
        exact Bool.false_ne_true
    · intro stops
      contradiction
    · rintro other isSend
      rw [← Job.send.inj isSend, PendingTable.mem_ids_remove]
      exact fun kept => kept.2 rfl

private theorem lightly_announce (event : Event) (connection : Connection app ω) :
    (connection.announce event).Lightly connection := by
  refine ⟨?_, ?_⟩
  · intro next isNext
    obtain ⟨react, -, rfl⟩ := List.mem_map.mp isNext
    exact .react _
  · have counted : Sends [] connection
        { connection with stats := connection.stats.count event } :=
      .quiet rfl rfl rfl rfl rfl rfl
    exact counted.then (sends_record _ _ rfl)

private theorem lightly_notice
    (notification : IncomingNotification) (connection : Connection app ω) :
    (connection.notice notification).Lightly connection := by
  have counted : Sends [] connection { connection with
      stats := { connection.stats with
        incomingNotifications := connection.stats.incomingNotifications + 1 } } :=
    .quiet rfl rfl rfl rfl rfl rfl
  unfold notice
  split
  · exact ⟨by simpa using .react _, counted.then (sends_record _ _ rfl)⟩
  · exact ⟨by simpa using .emit _, counted⟩

private theorem lightly_consider
    (request : IncomingRequest) (connection : Connection app ω) :
    (connection.consider request).Lightly connection := by
  have opened : Sends [] connection ({ connection with
      stats := { connection.stats with
        incomingRequests := connection.stats.incomingRequests + 1 } }.openTicket request).2 :=
    .quiet rfl rfl rfl rfl rfl rfl
  unfold consider
  split
  · exact ⟨by simpa using ⟨.react _, .release _⟩, opened.then (sends_record _ _ rfl)⟩
  · exact ⟨by simp, opened.then (sends_answer _ _ _)⟩

private theorem lightly_wonder
    (reason : Unrecognized) (payload : Bytes) (connection : Connection app ω) :
    (connection.wonder reason payload).Lightly connection := by
  refine ⟨?_, .refl connection⟩
  intro next isNext
  rcases List.mem_cons.mp isNext with rfl | isShown
  · exact .emit _
  · obtain ⟨react, -, rfl⟩ := List.mem_map.mp isShown
    exact .puzzle _ _

private theorem move_pair
    {payload : Bytes} {response : Response}
    (isResponse : Incoming.classify payload = .response response)
    (connection : Connection app ω) :
    Move connection
      { connection.pair response.id payload with
        deeds := [.routed payload connection.pending.ids] }
      (.route payload) := by
  unfold pair
  split
  · rename_i entry found
    have sameId := PendingTable.id_of_find found
    refine .answered entry ((answers_iff isResponse).mpr sameId.symm) (sameId ▸ found) rfl ?_ rfl
    rw [sameId]
    exact .quiet rfl rfl rfl rfl rfl rfl
  · rename_i absent
    refine .passed ?_ ⟨by simpa using .emit _, .refl connection⟩ rfl
    rintro id held isAnswer
    rw [← (answers_iff isResponse).mp isAnswer] at held
    exact PendingTable.find_eq_none_iff.mp absent held

private theorem move_sort (payload : Bytes) (connection : Connection app ω) :
    Move connection (connection.sort payload) (.route payload) := by
  unfold sort
  cases classified : Incoming.classify payload with
  | response response =>
      exact move_pair classified connection
  | notification message =>
      obtain ⟨jobs, sends⟩ :=
        lightly_notice ⟨message.method, message.params, payload⟩ connection
      exact .passed (fun id _ => not_answers (by simp [classified]) id) ⟨jobs, sends⟩ rfl
  | request message =>
      obtain ⟨jobs, sends⟩ :=
        lightly_consider ⟨message.id, message.method, message.params, payload⟩ connection
      exact .passed (fun id _ => not_answers (by simp [classified]) id) ⟨jobs, sends⟩ rfl
  | unrecognized reason =>
      obtain ⟨jobs, sends⟩ := lightly_wonder reason payload connection
      exact .passed (fun id _ => not_answers (by simp [classified]) id) ⟨jobs, sends⟩ rfl

private theorem move_launch [Wire ω]
    (now : Instant) (message : Request) (options : Options) (sink : Sink app)
    (connection : Connection app ω) :
    Move connection ((Job.launch message options sink).step now connection)
      (.launch message options sink) := by
  have watched := sends_watch message.id options.token connection
  change Move connection
    { jobs := [.send message]
      connection := (connection.watch message.id options.token).2.enter now message
        options.timeout sink (connection.watch message.id options.token).1 }
    (.launch message options sink)
  rcases watching : connection.watch message.id options.token with ⟨attachment, hung⟩
  rw [watching] at watched
  let deadline := (options.timeout.or hung.defaultTimeout).bind (Deadline.after? now)
  let entry : PendingRequest app := ⟨message.id, message.method, sink, deadline, attachment⟩
  refine .entered entry rfl rfl ?_ rfl
  have sends := watched.withPending (connection.pending.insert entry)
  have samePending : hung.pending = connection.pending := watched.pending
  rw [← samePending] at sends ⊢
  exact sends

/-! ## Commands, outcomes and callbacks -/

private theorem move_split (chunk : Bytes) (connection : Connection app ω) :
    Move connection (connection.split chunk) (.carryOut (.received chunk)) := by
  refine .fed ((connection.framer.decoder.push chunk).1.fault.toList.map
    fun fault => .emit (.malformedHeader fault)) rfl rfl rfl ?_ ?_ rfl
  · intro next isNext
    obtain ⟨fault, -, rfl⟩ := List.mem_map.mp isNext
    exact .emit _
  · exact .quiet rfl rfl rfl rfl rfl rfl

private theorem move_heed
    (order : Order app) (connection : Connection app ω)
    (distinct : connection.pending.Distinct) :
    Move connection (connection.heed order) (.carryOut (.order order)) := by
  cases order with
  | register registration =>
      exact .fed [] rfl rfl rfl (by simp) (.quiet rfl rfl rfl rfl rfl rfl) rfl
  | cancel id =>
      exact move_expel id connection distinct
  | failPending failure =>
      have moved := move_drain (.order (.failPending failure)) failure connection [] rfl
        (fun _ => rfl) (by simp) rfl rfl
      rwa [List.append_nil] at moved
  | close failure =>
      refine move_drain _ failure connection [.shut failure] rfl (fun _ => rfl) ?_ rfl rfl
      intro next isNext
      rw [List.mem_singleton.mp isNext]
      exact .inl (.shut failure)
  | resetFramer =>
      exact .fed [] rfl rfl rfl (by simp) (.quiet rfl rfl rfl rfl rfl rfl) rfl
  | shutdown =>
      refine move_drain _ .closed connection [.halt] rfl (fun _ => rfl) ?_ rfl rfl
      intro next isNext
      exact .inr (List.mem_singleton.mp isNext)

private theorem move_begin [Wire ω]
    (command : Command app) (connection : Connection app ω)
    (distinct : connection.pending.Distinct) :
    Move connection (connection.begin command) (.carryOut command) := by
  cases command with
  | request message options sink =>
      exact move_weigh message options sink connection
  | notification message receipt =>
      exact .fed [] rfl rfl rfl (by simp) (sends_writeNotification message receipt connection) rfl
  | reply response =>
      exact .fed [] rfl rfl rfl (by simp) (sends_transmit _ connection) rfl
  | received chunk =>
      exact move_split chunk connection
  | order order =>
      exact move_heed order connection distinct

private theorem move_honour
    (promise : Promise app) (outcome : Except Failure Bytes) (connection : Connection app ω) :
    Move connection (connection.honour promise outcome) (.deliver promise outcome) := by
  unfold honour
  split
  · exact .delivered ⟨by simp, sends_fillMailbox _ _ _⟩ rfl
  · exact .delivered ⟨by simpa using .react _, .refl _⟩ rfl

private theorem move_advance (reaction : Reaction app) (connection : Connection app ω) :
    Move connection (reaction.advance connection) (.react reaction) := by
  refine .light (.react reaction) ⟨?_, sends_advance reaction connection⟩ ?_
  · cases reaction with
    | done =>
        simp [Reaction.advance]
    | cancelToken token next =>
        simpa [Reaction.advance] using ⟨.signal _, .react _⟩
    | _ =>
        simpa [Reaction.advance] using .react _
  · cases reaction <;> rfl

end Connection

/-- Whatever the worker does first for a job is one of the moves. -/
theorem Job.move [Wire ω]
    (now : Instant) (job : Job app) (connection : Connection app ω)
    (distinct : connection.pending.Distinct) :
    Move connection (job.step now connection) job := by
  cases job with
  | carryOut command =>
      exact move_begin command connection distinct
  | launch message options sink =>
      exact move_launch now message options sink connection
  | send message =>
      exact move_offer message connection distinct
  | deliver promise outcome =>
      exact move_honour promise outcome connection
  | finish entry outcome =>
      exact .finished rfl (sends_unhook entry connection) rfl
  | timeOut entry =>
      exact .late rfl
  | emit event =>
      exact .light (.emit event) (lightly_announce event connection) rfl
  | route payload =>
      exact move_sort payload connection
  | puzzle payload reaction =>
      exact .light (.puzzle payload reaction)
        ⟨by simpa [Job.step] using .react _, sends_record _ connection rfl⟩ rfl
  | release ticket =>
      exact .light (.release ticket) ⟨by simp [Job.step], sends_releaseTicket ticket connection⟩ rfl
  | react reaction =>
      exact move_advance reaction connection
  | signal hooks =>
      cases hooks with
      | nil =>
          exact .light (.signal []) ⟨by simp [Job.step], .refl connection⟩ rfl
      | cons hook rest =>
          exact .light (.signal (hook :: rest))
            ⟨by simpa [Job.step] using .signal rest, sends_setOff connection hook⟩ rfl
  | shut failure =>
      exact .light (.shut failure)
        ⟨by simp [Job.step], .quiet rfl rfl rfl rfl rfl rfl⟩ rfl
  | halt =>
      exact .halted rfl
  | sweep =>
      by_cases isRunning : connection.running = true
      · rw [Job.step, if_pos isRunning]
        exact move_sweep now connection
      · rw [Job.step, if_neg isRunning]
        exact move_idle rfl (fun _ => rfl) rfl (by intros; simp) connection

end RpcEndpoint
