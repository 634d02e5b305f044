import Mathlib.Data.List.Forall2
import RpcEndpoint.Proofs.Accounts.Requests
import RpcEndpoint.Proofs.Arrival.Consumption

/-!
# Who handles what arrives

Callbacks change when the worker carries out a registration, and not in the midst of a chunk. So the
handler of a message follows from the registrations ahead of the command that completes its payload,
and the observers of an event follow from the registrations ahead of it.
-/

namespace RpcEndpoint

open Connection

variable {app : Application} {ω : Type}

/-! ## The last registration -/

namespace Registration

/-- The handler that is registered for the notifications of this very method. -/
def notification? (method : String) :
    Registration app → Option (IncomingNotification → Reaction app)
  | .notification name react => if name = method then some react else none
  | _ => none

def anyNotification? : Registration app → Option (IncomingNotification → Reaction app)
  | .anyNotification react => some react
  | _ => none

/-- The handler that is registered for the requests of this very method. -/
def request? (method : String) :
    Registration app → Option (IncomingRequest → TicketNumber → Reaction app)
  | .request name react => if name = method then some react else none
  | _ => none

def anyRequest? : Registration app → Option (IncomingRequest → TicketNumber → Reaction app)
  | .anyRequest react => some react
  | _ => none

def observer? : Registration app → Option (Event → Reaction app)
  | .observer react => some react
  | _ => none

/-- Whether a handler of notifications is registered. -/
def notifies : Registration app → Bool
  | .notification _ _ | .anyNotification _ => true
  | _ => false

/-- Whether a handler of requests is registered. -/
def asks : Registration app → Bool
  | .request _ _ | .anyRequest _ => true
  | _ => false

end Registration

section Last

variable {α : Type} (select : Registration app → Option α)

/-- What is selected of the last registration of which anything is. -/
def lastRegistered (registrations : List (Registration app)) : Option α :=
  (registrations.filterMap select).getLast?

theorem lastRegistered_snoc
    (registrations : List (Registration app)) (registration : Registration app) :
    lastRegistered select (registrations ++ [registration]) =
      (select registration).or (lastRegistered select registrations) := by
  rw [lastRegistered, lastRegistered, List.filterMap_append, List.getLast?_append]
  cases isSelected : select registration with
  | none =>
      simp [isSelected]
  | some item =>
      simp [isSelected]

/-- Registrations of which nothing is selected do not matter. -/
theorem lastRegistered_filter
    {keep : Registration app → Bool}
    (kept : ∀ registration item, select registration = some item → keep registration = true)
    (registrations : List (Registration app)) :
    lastRegistered select (registrations.filter keep) = lastRegistered select registrations := by
  rw [lastRegistered, lastRegistered, List.filterMap_filter]
  congr 1
  refine List.filterMap_congr fun registration _ => ?_
  cases isSelected : select registration with
  | none =>
      simp
  | some item =>
      simp [kept registration item isSelected]

end Last

/-- The handler of a notification: the last one of its method, or else the last one of all
methods. -/
def notificationHandler (method : String) (registrations : List (Registration app)) :
    Option (IncomingNotification → Reaction app) :=
  (lastRegistered (·.notification? method) registrations).or
    (lastRegistered Registration.anyNotification? registrations)

/-- The handler of a request: the last one of its method, or else the last one of all methods. -/
def requestHandler (method : String) (registrations : List (Registration app)) :
    Option (IncomingRequest → TicketNumber → Reaction app) :=
  (lastRegistered (·.request? method) registrations).or
    (lastRegistered Registration.anyRequest? registrations)

/-- The observers, as they were registered. -/
def observersOf (registrations : List (Registration app)) : List (Event → Reaction app) :=
  registrations.filterMap Registration.observer?

/-- Handlers of requests do not matter for notifications. -/
theorem notificationHandler_filter (method : String) (registrations : List (Registration app)) :
    notificationHandler method (registrations.filter Registration.notifies) =
      notificationHandler method registrations := by
  rw [notificationHandler, lastRegistered_filter, lastRegistered_filter]
  · rfl
  all_goals
    intro registration react isSelected
    cases registration <;> first | rfl | contradiction

/-- Handlers of notifications do not matter for requests. -/
theorem requestHandler_filter (method : String) (registrations : List (Registration app)) :
    requestHandler method (registrations.filter Registration.asks) =
      requestHandler method registrations := by
  rw [requestHandler, lastRegistered_filter, lastRegistered_filter]
  · rfl
  all_goals
    intro registration react isSelected
    cases registration <;> first | rfl | contradiction

/-! ## The installed callbacks -/

/-- The callbacks that some registrations install. -/
def handlersOf (registrations : List (Registration app)) : Handlers app :=
  registrations.foldl Handlers.register .empty

/-- What is looked up among the callbacks was registered last. -/
structure Handlers.Reflects (handlers : Handlers app) (registrations : List (Registration app)) :
    Prop where
  notification : ∀ method,
    handlers.notifications.lookup method = lastRegistered (·.notification? method) registrations
  anyNotification :
    handlers.anyNotification = lastRegistered Registration.anyNotification? registrations
  request : ∀ method,
    handlers.requests.lookup method = lastRegistered (·.request? method) registrations
  anyRequest : handlers.anyRequest = lastRegistered Registration.anyRequest? registrations
  observers : handlers.observers = observersOf registrations

theorem Handlers.Reflects.register
    {handlers : Handlers app} {registrations : List (Registration app)}
    (reflects : handlers.Reflects registrations) (registration : Registration app) :
    (handlers.register registration).Reflects (registrations ++ [registration]) := by
  obtain ⟨notification, anyNotification, request, anyRequest, observers⟩ := reflects
  refine ⟨fun method => ?_, ?_, fun method => ?_, ?_, ?_⟩
  · rw [lastRegistered_snoc, ← notification]
    cases registration with
    | notification name react =>
        by_cases same : name = method
        · simp [Handlers.register, Registration.notification?, same]
        · have other : (method == name) = false := by simpa using Ne.symm same
          simp [Handlers.register, Registration.notification?, same, List.lookup_cons, other]
    | _ =>
        rfl
  · rw [lastRegistered_snoc, ← anyNotification]
    cases registration <;> rfl
  · rw [lastRegistered_snoc, ← request]
    cases registration with
    | request name react =>
        by_cases same : name = method
        · simp [Handlers.register, Registration.request?, same]
        · have other : (method == name) = false := by simpa using Ne.symm same
          simp [Handlers.register, Registration.request?, same, List.lookup_cons, other]
    | _ =>
        rfl
  · rw [lastRegistered_snoc, ← anyRequest]
    cases registration <;> rfl
  · rw [observersOf, List.filterMap_append]
    cases registration with
    | observer react =>
        exact congrArg (· ++ [react]) observers
    | _ =>
        exact observers.trans (List.append_nil _).symm

theorem reflects_handlersOf (registrations : List (Registration app)) :
    (handlersOf registrations).Reflects registrations := by
  induction registrations using List.reverseRecOn with
  | nil =>
      exact ⟨fun _ => rfl, rfl, fun _ => rfl, rfl, rfl⟩
  | append_singleton registrations registration inductionHypothesis =>
      rw [handlersOf, List.foldl_append]
      exact inductionHypothesis.register registration

theorem forNotification_handlersOf (method : String) (registrations : List (Registration app)) :
    (handlersOf registrations).forNotification method =
      notificationHandler method registrations := by
  have reflects := reflects_handlersOf registrations
  rw [Handlers.forNotification, reflects.notification, reflects.anyNotification]
  rfl

theorem forRequest_handlersOf (method : String) (registrations : List (Registration app)) :
    (handlersOf registrations).forRequest method = requestHandler method registrations := by
  have reflects := reflects_handlersOf registrations
  rw [Handlers.forRequest, reflects.request, reflects.anyRequest]
  rfl

/-! ## Registrations among commands -/

def Command.registration? : Command app → Option (Registration app)
  | .order (.register registration) => some registration
  | _ => none

/-- The registrations among some commands. -/
def registrationsIn (commands : List (Command app)) : List (Registration app) :=
  commands.filterMap Command.registration?

theorem registrationsIn_snoc (commands : List (Command app)) (command : Command app) :
    registrationsIn (commands ++ [command]) =
      registrationsIn commands ++ command.registration?.toList := by
  rw [registrationsIn, List.filterMap_append, filterMap_cons_eq_append, List.filterMap_nil,
    List.append_nil]
  rfl

/-- What a job still registers. -/
def Job.registrations : Job app → List (Registration app)
  | .carryOut command => command.registration?.toList
  | _ => []

/-- Only the job that registers a callback changes the callbacks. -/
theorem Posting.handlers [Wire ω]
    {before : Connection app ω} {progress : Progress app ω} {job : Job app}
    (posting : Posting before progress job) :
    progress.connection.books.handlers =
      job.registrations.foldl Handlers.register before.handlers := by
  cases posting with
  | idle isIdle jobs books =>
      have nothing : job.registrations = [] := by
        cases job with
        | carryOut command =>
            cases command with
            | order order => cases order <;> first | rfl | contradiction
            | _ => rfl
        | _ => rfl
      rw [books, nothing]
      rfl
  | @drained command failure count fells jobs counted books =>
      have nothing : (Job.carryOut command).registrations = [] := by
        cases command with
        | order order => cases order <;> first | rfl | contradiction
        | _ => rfl
      rw [books, nothing]
      rfl
  | _ =>
      rename_i books
      rw [books]
      rfl

theorem registrations_of_uncarried
    {jobs : List (Job app)} (uncarried : ∀ command, .carryOut command ∉ jobs) :
    jobs.flatMap Job.registrations = [] := by
  refine List.flatMap_eq_nil_iff.mpr fun job isJob => ?_
  cases job with
  | carryOut command => exact absurd isJob (uncarried command)
  | _ => rfl

/-- The callbacks are those of the commands that were taken, once the worker has carried out the
last one. -/
def Registered (machine : Machine app ω) : Prop :=
  (machine.agenda.flatMap Job.registrations).foldl Handlers.register
      machine.connection.books.handlers =
    handlersOf (registrationsIn machine.taken)

theorem registered_of_reachable [Wire ω]
    {machine : Machine app ω} (reachable : machine.Reachable) : Registered machine := by
  refine reachable.booked_induction Registered (fun _ _ _ => rfl) ?_
  intro before choice after orderly booked registered
  cases booked with
  | @taken command rest agenda isRunning inbox =>
      have same : before.connection.books.handlers = handlersOf (registrationsIn before.taken) := by
        rw [Registered, agenda] at registered
        exact registered
      change ((Job.carryOut command).registrations ++ _).foldl _ before.connection.books.handlers =
        _
      rw [same, registrationsIn_snoc, handlersOf, handlersOf, List.foldl_append, List.foldl_append]
      rfl
  | woken agenda isRunning =>
      rw [Registered, agenda] at registered
      exact registered
  | @worked job rest agenda =>
      have posting := job.posting before.now before.connection
      rw [Registered, agenda, List.flatMap_cons, List.foldl_append] at registered
      change (((job.step before.now before.connection).jobs ++ rest).flatMap _).foldl _
        (job.step before.now before.connection).connection.books.handlers = _
      rw [List.flatMap_append, registrations_of_uncarried posting.not_carried, posting.handlers]
      exact registered
  | reordered agenda =>
      rw [Registered, agenda] at registered
      exact registered
  | called isRunning sameAgenda sameTaken history books
  | beside unworked silent sameAgenda sameTaken history books =>
      rw [Registered, sameAgenda, sameTaken, books]
      exact registered

/-- What the worker looks up, when it is not about to carry out a command. -/
theorem handlers_of_uncarried [Wire ω]
    {machine : Machine app ω} (reachable : machine.Reachable)
    {job : Job app} {rest : List (Job app)} (agenda : machine.agenda = job :: rest)
    (uncarried : ∀ command, job ≠ .carryOut command) :
    machine.connection.handlers = handlersOf (registrationsIn machine.taken) := by
  have uncarriedAll : ∀ command, .carryOut command ∉ machine.agenda := by
    intro command isCarried
    rw [agenda] at isCarried
    rcases List.mem_cons.mp isCarried with isHead | isLater
    · exact uncarried command isHead.symm
    · exact (orderly_of_reachable reachable).not_carried_later agenda command isLater
  have registered := registered_of_reachable reachable
  rwa [Registered, registrations_of_uncarried uncarriedAll] at registered

/-! ## Payloads and their handlers -/

/-- A payload, and what has been registered by then. -/
structure Planned (app : Application) where
  registrations : List (Registration app)
  payload : Bytes

/-- The payloads that commands complete, each with the registrations among the commands ahead of the
one that completes it. -/
def plan (earlier : List (Command app)) : List (Command app) → List (Planned app)
  | [] => []
  | command :: later =>
    (command.feed (extract .empty earlier).2).1.map (⟨registrationsIn earlier, ·⟩) ++
      plan (earlier ++ [command]) later

theorem plan_snoc (earlier commands : List (Command app)) (command : Command app) :
    plan earlier (commands ++ [command]) =
      plan earlier commands ++
        (command.feed (extract .empty (earlier ++ commands)).2).1.map
          (⟨registrationsIn (earlier ++ commands), ·⟩) := by
  induction commands generalizing earlier with
  | nil =>
      simp [plan]
  | cons first later inductionHypothesis =>
      rw [List.cons_append, plan, plan, inductionHypothesis, List.append_assoc, List.append_assoc]
      rfl

/-- A command that completes payloads registers nothing. -/
theorem map_feed_snoc (decoder : Framing.Decoder) (earlier : List (Command app))
    (command : Command app) :
    (command.feed decoder).1.map (Planned.mk (registrationsIn (earlier ++ [command]))) =
      (command.feed decoder).1.map (Planned.mk (registrationsIn earlier)) := by
  rw [registrationsIn_snoc]
  cases command with
  | received chunk =>
      rw [show (Command.received chunk : Command app).registration? = none from rfl]
      simp
  | order order =>
      cases order <;> rfl
  | _ =>
      rfl

/-- A payload that is routed, and the jobs that come of it. -/
structure Dispatch (app : Application) where
  payload : Bytes
  jobs : List (Job app)

/-- What is routed with the first step of a job. -/
def Job.dispatched (connection : Connection app ω) : Job app → List (Dispatch app)
  | .route payload => [⟨payload, (connection.sort payload).jobs⟩]
  | _ => []

/-- The payloads that are routed along a schedule. -/
def Machine.dispatches [Wire ω] (machine : Machine app ω) (schedule : List (Choice app ω)) :
    List (Dispatch app) :=
  machine.jottings Job.dispatched schedule

/-- The jobs that come of a payload run the handler that the registrations ask for, and no other
one. -/
inductive Served (registrations : List (Registration app)) (payload : Bytes) :
    List (Job app) → Prop where
  | notified {message : Notification} {react : IncomingNotification → Reaction app}
      (classified : Incoming.classify payload = .notification message)
      (handler : notificationHandler message.method registrations = some react) :
      Served registrations payload [.react (react ⟨message.method, message.params, payload⟩)]
  | unhandled {message : Notification}
      (classified : Incoming.classify payload = .notification message)
      (handler : notificationHandler message.method registrations = none) :
      Served registrations payload [.emit (.unhandledNotification message.method)]
  | asked {message : Request} {react : IncomingRequest → TicketNumber → Reaction app}
      (ticket : TicketNumber)
      (classified : Incoming.classify payload = .request message)
      (handler : requestHandler message.method registrations = some react) :
      Served registrations payload
        [.react (react ⟨message.id, message.method, message.params, payload⟩ ticket),
          .release ticket]
  | turnedAway {message : Request}
      (classified : Incoming.classify payload = .request message)
      (handler : requestHandler message.method registrations = none) :
      Served registrations payload []
  /-- The payload is neither a notification nor a request. -/
  | other {jobs : List (Job app)}
      (noNotification : ∀ message, Incoming.classify payload ≠ .notification message)
      (noRequest : ∀ message, Incoming.classify payload ≠ .request message)
      (nothingRuns : ∀ job ∈ jobs, job.runs = false) :
      Served registrations payload jobs

/-- Which handler runs follows from the callbacks that are installed. -/
theorem served_sort
    {connection : Connection app ω} {registrations : List (Registration app)}
    (installed : connection.handlers = handlersOf registrations) (payload : Bytes) :
    Served registrations payload (connection.sort payload).jobs := by
  unfold sort
  cases classified : Incoming.classify payload with
  | response response =>
      refine .other (by simp [classified]) (by simp [classified]) ?_
      dsimp only
      unfold pair
      split <;> simp [Job.runs]
  | notification message =>
      dsimp only
      unfold notice
      dsimp only
      rw [installed, forNotification_handlersOf]
      cases handler : notificationHandler message.method registrations with
      | some react =>
          exact .notified classified handler
      | none =>
          exact .unhandled classified handler
  | request message =>
      dsimp only
      unfold consider openTicket
      dsimp only
      rw [installed, forRequest_handlersOf]
      cases handler : requestHandler message.method registrations with
      | some react =>
          exact .asked connection.nextTicket classified handler
      | none =>
          exact .turnedAway classified handler
  | unrecognized reason =>
      refine .other (by simp [classified]) (by simp [classified]) ?_
      dsimp only
      unfold wonder
      simp [Job.runs]

/-- A payload is routed as it was planned. -/
def Planned.Meets (planned : Planned app) (dispatch : Dispatch app) : Prop :=
  dispatch.payload = planned.payload ∧
    Served planned.registrations planned.payload dispatch.jobs

/-! ## Every schedule -/

/-- What was routed so far was planned, and what is planned beyond it is before the worker. -/
def Dispatching (dispatches : List (Dispatch app)) (machine : Machine app ω) : Prop :=
  ∃ planned,
    plan [] machine.taken = planned ++
      (upcoming machine.connection.books.decoder machine.agenda).1.map
        (Planned.mk (registrationsIn machine.taken)) ∧
      List.Forall₂ Planned.Meets planned dispatches

namespace Dispatching

variable [Wire ω] {dispatches : List (Dispatch app)} {machine : Machine app ω}

omit [Wire ω] in
/-- The worker takes a command, which may complete payloads. -/
private theorem taken
    (dispatching : Dispatching dispatches machine) (inbound : Inbound machine)
    (idle : machine.agenda = []) (command : Command app) (rest : List (Command app)) :
    Dispatching dispatches
      { machine with
        connection := { machine.connection with inbox := rest }
        agenda := [.carryOut command, .sweep]
        taken := machine.taken ++ [command] } := by
  obtain ⟨planned, isPlan, meets⟩ := dispatching
  have isDecoder : (extract .empty machine.taken).2 = machine.connection.books.decoder := by
    have extracted : extract .empty machine.taken = _ := inbound
    rw [idle] at extracted
    rw [extracted]
    rfl
  rw [idle] at isPlan
  refine ⟨planned, ?_, meets⟩
  change plan [] (machine.taken ++ [command]) = planned ++
    (upcoming machine.connection.books.decoder [.carryOut command, .sweep]).1.map
      (Planned.mk (registrationsIn (machine.taken ++ [command])))
  rw [plan_snoc, List.nil_append, isPlan, isDecoder]
  have coming : (upcoming machine.connection.books.decoder [.carryOut command, .sweep]).1 =
      (command.feed machine.connection.books.decoder).1 := by
    simp [upcoming, Job.feed]
  rw [coming, map_feed_snoc]
  simp [upcoming]

/-- The worker does the first step of a job, which may route a payload. -/
private theorem worked
    (dispatching : Dispatching dispatches machine) (reachable : machine.Reachable)
    {job : Job app} {rest : List (Job app)} (agenda : machine.agenda = job :: rest) :
    Dispatching (dispatches ++ job.dispatched machine.connection)
      (machine.absorb rest (job.step machine.now machine.connection)) := by
  obtain ⟨planned, isPlan, meets⟩ := dispatching
  have move := job.move machine.now machine.connection (distinct_of_reachable reachable)
  have routed : routedIn (job.step machine.now machine.connection).deeds =
      (job.dispatched machine.connection).map (·.payload) := by
    rw [Job.routedIn_step]
    cases job <;> rfl
  have coming : (upcoming machine.connection.books.decoder machine.agenda).1 =
      (job.dispatched machine.connection).map (·.payload) ++
        (upcoming (job.step machine.now machine.connection).connection.books.decoder
          ((job.step machine.now machine.connection).jobs ++ rest)).1 := by
    rw [agenda, upcoming, upcoming_append, ← routed]
    change (job.feed machine.connection.framer.decoder).1 ++
      (upcoming (job.feed machine.connection.framer.decoder).2 rest).1 = _
    rw [move.feed, List.append_assoc]
    rfl
  refine ⟨planned ++ ((job.dispatched machine.connection).map (·.payload)).map
    (Planned.mk (registrationsIn machine.taken)), ?_, List.rel_append meets ?_⟩
  · change plan [] machine.taken = _
    rw [isPlan, coming, List.map_append, List.append_assoc]
    rfl
  · cases job with
    | route payload =>
        refine .cons ⟨rfl, ?_⟩ .nil
        exact served_sort (handlers_of_uncarried reachable agenda (by simp)) payload
    | _ =>
        exact .nil

theorem next
    (dispatching : Dispatching dispatches machine) (reachable : machine.Reachable)
    {choice : Choice app ω} {after : Machine app ω} (booked : Booked machine choice after) :
    Dispatching (dispatches ++ machine.jotted Job.dispatched choice) after := by
  have unrouted {reached : Machine app ω} (nothing : Dispatching dispatches reached) :
      Dispatching (dispatches ++ []) reached :=
    (List.append_nil dispatches).symm ▸ nothing
  cases booked with
  | taken agenda isRunning inbox =>
      exact unrouted (dispatching.taken (inbound_of_reachable reachable) agenda _ _)
  | woken agenda isRunning =>
      obtain ⟨planned, isPlan, meets⟩ := dispatching
      rw [agenda] at isPlan
      exact unrouted ⟨planned, isPlan, meets⟩
  | worked agenda =>
      rw [Machine.jotted_work _ agenda]
      exact dispatching.worked reachable agenda
  | reordered agenda =>
      obtain ⟨planned, isPlan, meets⟩ := dispatching
      rw [agenda] at isPlan
      exact unrouted ⟨planned, isPlan, meets⟩
  | called isRunning sameAgenda sameTaken history books =>
      obtain ⟨planned, isPlan, meets⟩ := dispatching
      refine unrouted ⟨planned, ?_, meets⟩
      rwa [books, sameAgenda, sameTaken]
  | beside unworked silent sameAgenda sameTaken history books =>
      rw [Machine.jotted_of_unworked unworked]
      obtain ⟨planned, isPlan, meets⟩ := dispatching
      refine unrouted ⟨planned, ?_, meets⟩
      rwa [books, sameAgenda, sameTaken]

end Dispatching

/-- The payloads are routed as the commands have it that the worker takes. -/
theorem dispatching_run [Wire ω]
    (wire : ω) (memory : app.Memory) (defaultTimeout : Option Duration)
    (schedule : List (Choice app ω)) :
    let start : Machine app ω := .start wire memory defaultTimeout
    Dispatching (start.dispatches schedule) (start.run schedule) := by
  intro start
  have isReachable : start.Reachable := ⟨wire, memory, defaultTimeout, [], rfl⟩
  refine isReachable.schedule_induction
    (fun schedule reached => Dispatching (start.dispatches schedule) reached) ⟨[], rfl, .nil⟩ ?_
    schedule
  intro schedule choice orderly booked dispatching
  rw [Machine.dispatches, Machine.jottings_snoc]
  exact dispatching.next (isReachable.run schedule) booked

/-! ## Events -/

/-- The event that is told with the first step of a job. -/
def Job.announced (_ : Connection app ω) : Job app → List Event
  | .emit event => [event]
  | _ => []

/-- Only the job that tells an event adds one to the log. -/
theorem Posting.events [Wire ω]
    {before : Connection app ω} {progress : Progress app ω} {job : Job app}
    (posting : Posting before progress job) :
    progress.connection.books.marks.filterMap Occurrence.event? =
      before.books.marks.filterMap Occurrence.event? ++ job.announced before := by
  cases posting with
  | idle isIdle jobs books =>
      have nothing : job.announced before = [] := by
        cases job <;> first | rfl | contradiction
      rw [books, nothing, List.append_nil]
  | _ =>
      rename_i books
      rw [books]
      simp [Occurrence.event?, Job.announced, Connection.books]

/-- The events in the log are those that were told along the schedule. -/
theorem events_run [Wire ω]
    (wire : ω) (memory : app.Memory) (defaultTimeout : Option Duration)
    (schedule : List (Choice app ω)) :
    let start : Machine app ω := .start wire memory defaultTimeout
    (start.run schedule).connection.log.filterMap Occurrence.event? =
      start.jottings Job.announced schedule := by
  intro start
  have isReachable : start.Reachable := ⟨wire, memory, defaultTimeout, [], rfl⟩
  have told : (start.run schedule).connection.books.marks.filterMap Occurrence.event? =
      start.jottings Job.announced schedule := by
    refine isReachable.schedule_induction
      (fun schedule reached => reached.connection.books.marks.filterMap Occurrence.event? =
        start.jottings Job.announced schedule) rfl ?_ schedule
    intro schedule choice orderly booked told
    rw [Machine.jottings_snoc, ← told]
    generalize (start.run schedule).next choice = after at booked
    cases booked with
    | taken | woken | reordered =>
        exact (List.append_nil _).symm
    | worked agenda =>
        rw [Machine.jotted_work _ agenda]
        exact (Job.posting _ _ _).events
    | called isRunning sameAgenda sameTaken history books =>
        rw [books]
        exact (List.append_nil _).symm
    | beside unworked silent sameAgenda sameTaken history books =>
        rw [Machine.jotted_of_unworked unworked, books]
        exact (List.append_nil _).symm
  rw [← told]
  refine (filterMap_marks (fun occurrence unmarked => ?_) _).symm
  cases occurrence <;> first | rfl | contradiction

/-- Whatever other threads and callbacks do: the payloads of the stream are routed one by one, in
the order of the commands that complete them and of the stream, and between two commands all of them
have been. With a notification the handler runs that was registered last for its method by the
commands ahead of the one that completes the payload, or else the last one of them for all methods,
or else none; the same goes for a request, and neither depends on the handlers of the other. What
comes of the payload takes its place before the worker, ahead of everything else. Each event of the
log is told in one step, to all observers that were registered by then, once to each and in the
order of their registration. -/
theorem handlers_follow_registrations [Wire ω]
    (wire : ω) (memory : app.Memory) (defaultTimeout : Option Duration)
    (schedule : List (Choice app ω)) :
    let start : Machine app ω := .start wire memory defaultTimeout
    let reached := start.run schedule
    (∃ planned ahead,
      plan [] reached.taken = planned ++ ahead ∧
        List.Forall₂ Planned.Meets planned (start.dispatches schedule) ∧
        (reached.agenda = [] → ahead = [])) ∧
      (∀ payload rest, reached.agenda = .route payload :: rest →
        ∃ jobs, start.dispatches (schedule ++ [.work]) =
            start.dispatches schedule ++ [⟨payload, jobs⟩] ∧
          (reached.next .work).agenda = jobs ++ rest) ∧
      reached.connection.log.filterMap Occurrence.event? =
        start.jottings Job.announced schedule ∧
      (∀ event rest, reached.agenda = .emit event :: rest →
        (reached.next .work).agenda =
            (observersOf (registrationsIn reached.taken)).map (fun react => .react (react event)) ++
              rest ∧
          (reached.next .work).connection.log = reached.connection.log ++ [.emitted event]) ∧
      ∀ (method : String) (registrations : List (Registration app)),
        notificationHandler method (registrations.filter Registration.notifies) =
            notificationHandler method registrations ∧
          requestHandler method (registrations.filter Registration.asks) =
            requestHandler method registrations := by
  intro start reached
  have reachable : reached.Reachable := ⟨wire, memory, defaultTimeout, schedule, rfl⟩
  refine ⟨?_, ?_, events_run wire memory defaultTimeout schedule, ?_, ?_⟩
  · obtain ⟨planned, isPlan, meets⟩ := dispatching_run wire memory defaultTimeout schedule
    refine ⟨planned, _, isPlan, meets, fun idle => ?_⟩
    rw [idle]
    rfl
  · intro payload rest agenda
    refine ⟨(reached.connection.sort payload).jobs, ?_, ?_⟩
    · rw [Machine.dispatches, Machine.jottings_snoc, Machine.jotted_work _ agenda]
      rfl
    · rw [Machine.next, agenda]
      rfl
  · intro event rest agenda
    have observers : reached.connection.handlers.observers =
        observersOf (registrationsIn reached.taken) := by
      rw [handlers_of_uncarried reachable agenda (by simp)]
      exact (reflects_handlersOf _).observers
    rw [← observers, Machine.next, agenda]
    exact ⟨rfl, rfl⟩
  · exact fun method registrations =>
      ⟨notificationHandler_filter method registrations, requestHandler_filter method registrations⟩

/-- Which callback has run. -/
inductive Stamp where
  | first | second | fallback | asked | early | late
  deriving DecidableEq

/-- An application whose callbacks leave their stamps. -/
def stamping : Application := ⟨Unit, Stamp⟩

/-- The handler of a method hands over to another one. In the midst of a chunk that does not matter;
a payload that the next chunk completes is for the other one. At the end comes a response that
nobody waits for. -/
def handOver : List (Choice stamping (MemoryWire Unit)) :=
  .act (.order (.register (.notification "go" fun _ => .note Stamp.first
      (.order (.register (.notification "go" fun _ => .note Stamp.second .done)) .done)))) ::
    .act (.order (.register (.anyNotification fun _ => .note Stamp.fallback .done))) ::
    .act (.order (.register (.request "go" fun _ _ => .note Stamp.asked .done))) ::
    .act (.order (.register (.observer fun _ => .note Stamp.early .done))) ::
    .act (.order (.register (.observer fun _ => .note Stamp.late .done))) ::
    .act (.arrive (.chunk (notificationOf "go" ++ notificationOf "go" ++
      (notificationOf "go").take 9))) ::
    (List.replicate 6 (.take :: List.replicate 12 .work)).flatten ++
    .act (.arrive (.chunk ((notificationOf "go").drop 9 ++ notificationOf "stop" ++
      Framing.encodeFrame (responseTo "1")))) ::
    (List.replicate 3 (.take :: List.replicate 16 .work)).flatten

/-- The machine after that schedule. -/
def afterHandOver : Machine stamping (MemoryWire Unit) :=
  (Machine.start .new () none).run handOver

/-- Two observers, and an event that they are about to be told. -/
def beforeTold : List (Choice stamping (MemoryWire Unit)) :=
  [.act (.order (.register (.observer fun _ => .note Stamp.early .done))), .take, .work, .work,
    .act (.order (.register (.observer fun _ => .note Stamp.late .done))), .take, .work, .work,
    .act (.arrive (.chunk (Framing.encodeFrame (responseTo "1")))), .take, .work, .work]

/-- The stamps in the log. -/
def stampsIn (log : List (Occurrence stamping)) : List Stamp :=
  log.filterMap fun
    | .noted stamp => some stamp
    | _ => none

/-- With the job that tells an event, the observers come before the worker. -/
private theorem agenda_of_told
    {machine : Machine stamping (MemoryWire Unit)} {count : Nat}
    (isNext : (machine.jotted Job.announced .work).isEmpty = false)
    (observers : (observersOf (registrationsIn machine.taken)).length = count + 1)
    (told : ∀ event rest, machine.agenda = .emit event :: rest →
      (machine.next .work).agenda =
        (observersOf (registrationsIn machine.taken)).map (fun react => .react (react event)) ++
          rest) :
    (machine.next .work).agenda.length = machine.agenda.length + count := by
  rw [Machine.jotted] at isNext
  cases agenda : machine.agenda with
  | nil =>
      rw [agenda] at isNext
      contradiction
  | cons job rest =>
      rw [agenda] at isNext
      cases job with
      | emit event =>
          rw [told event rest agenda, List.length_append, List.length_map, observers,
            List.length_cons]
          omega
      | _ =>
          contradiction

/-- Five payloads, of which two come with the chunk during which the handler hands over, and one
event that two observers are told. -/
theorem handlers_hand_over_between_chunks :
    let start : Machine stamping (MemoryWire Unit) := .start .new () none
    let telling := start.run beforeTold
    afterHandOver.agenda.isEmpty = true ∧ (start.dispatches handOver).length = 5 ∧
      stampsIn afterHandOver.connection.log =
        [.first, .first, .second, .fallback, .early, .late] ∧
      (start.jottings Job.announced handOver).length = 1 ∧
      (telling.next .work).agenda.length = telling.agenda.length + 1 := by
  intro start telling
  have facts : afterHandOver.agenda.isEmpty = true ∧ (plan [] afterHandOver.taken).length = 5 ∧
      stampsIn afterHandOver.connection.log =
        [.first, .first, .second, .fallback, .early, .late] ∧
      (afterHandOver.connection.log.filterMap Occurrence.event?).length = 1 := by
    decide +kernel
  have tellingFacts : (telling.jotted Job.announced .work).isEmpty = false ∧
      (observersOf (registrationsIn telling.taken)).length = 2 := by
    decide +kernel
  obtain ⟨isIdle, isPlan, stamps, events⟩ := facts
  obtain ⟨isNext, observers⟩ := tellingFacts
  obtain ⟨placed, -, told, -, -⟩ := handlers_follow_registrations .new () none handOver
  obtain ⟨-, -, -, tells, -⟩ := handlers_follow_registrations .new () none beforeTold
  have isReached : (Machine.start .new () none).run handOver = afterHandOver := rfl
  rw [isReached] at placed told
  obtain ⟨planned, ahead, split, meets, nothing⟩ := placed
  rw [nothing (List.isEmpty_iff.mp isIdle), List.append_nil] at split
  refine ⟨isIdle, ?_, stamps, ?_, ?_⟩
  · rw [← meets.length_eq, ← split]
    exact isPlan
  · rw [← told]
    exact events
  · exact agenda_of_told isNext observers fun event rest agenda => (tells event rest agenda).1

end RpcEndpoint
