import RpcEndpoint.Proofs.Accounts.Winding
import RpcEndpoint.Proofs.Closing.Final
import RpcEndpoint.Proofs.Tokens.Hooks

/-!
# Refused writes

A request is entered and hung on its token before it is offered to the wire. If the wire refuses
it, both are taken back: as the identifier is new, the entry that leaves the table is the one that
has come to it, and as its key is new, so is the hook.
-/

namespace RpcEndpoint

open Connection

variable {app : Application} {ω : Type}

/-! ## A request that is carried out alone -/

namespace Connection

variable {connection : Connection app ω} {message : Request} {options : Options} {sink : Sink app}
  {failure : WireFailure}

/-- A request that is hung on its token and taken off again leaves all hooks as they were. -/
private theorem hooks_rehung
    (fresh : ∀ token, ∀ hook ∈ (connection.tokens.state token).hooks,
      hook.1 < (connection.tokens.state token).nextKey)
    {id : MessageId} {carried : Option Token} {attachment : Option Attachment}
    {watched after : Connection app ω}
    (watching : connection.watch id carried = (attachment, watched))
    (tokens : after.tokens = watched.tokens)
    {entry : PendingRequest app} (tied : entry.attachment = attachment) (other : Token) :
    ((after.unhook entry).tokens.state other).hooks = (connection.tokens.state other).hooks := by
  have untied (bare : attachment = none) (same : watched.tokens = connection.tokens) :
      ((after.unhook entry).tokens.state other).hooks =
        (connection.tokens.state other).hooks := by
    rw [unhook, tied, bare, ← same, ← tokens]
  unfold watch at watching
  cases carried with
  | none =>
      obtain ⟨bare, isSame⟩ := Prod.mk.inj watching
      exact untied bare.symm (congrArg Connection.tokens isSame.symm)
  | some token =>
      dsimp only at watching
      cases attached : connection.tokens.attach? token (connection.hook id) with
      | none =>
          rw [attached] at watching
          obtain ⟨bare, isSame⟩ := Prod.mk.inj watching
          refine untied bare.symm ?_
          rw [← isSame, enqueue_eq]
      | some hung =>
          obtain ⟨place, table⟩ := hung
          rw [attached] at watching
          obtain ⟨isPlace, isHung⟩ := Prod.mk.inj watching
          obtain ⟨-, atNext, states⟩ := TokenTable.attach?_eq_some attached
          have isTable : after.tokens = table :=
            tokens.trans (congrArg Connection.tokens isHung.symm)
          rw [unhook, tied, ← isPlace]
          dsimp only
          rw [isTable, TokenTable.state_detach, atNext, states, states]
          by_cases same : other = token
          · rw [if_pos same, if_pos rfl, same]
            -- The key of the hook that was added is none of those that were there.
            have others : ∀ hook ∈ (connection.tokens.state token).hooks,
                decide (hook.1 ≠ (connection.tokens.state token).nextKey) = true :=
              fun hook isHook => decide_eq_true (Nat.ne_of_lt (fresh token hook isHook))
            dsimp only
            rw [List.filter_append, List.filter_eq_self.mpr others]
            simp
          · rw [if_neg same, if_neg same]

private theorem framer_watch
    (id : MessageId) (carried : Option Token) (connection : Connection app ω) :
    (connection.watch id carried).2.framer = connection.framer := by
  unfold watch
  split
  · rfl
  · split
    · rfl
    · rw [enqueue_eq]

variable [Wire ω]

/-- The worker carries out a request that the wire refuses: all that is left of it is its outcome,
which its owner is handed. -/
theorem handle_refused
    (opens : connection.refusal? options = none)
    (refuses : (connection.transmit message.toValue.encode).1 = .error failure)
    (isNew : message.id ∉ connection.pending.ids)
    (gauged : connection.stats.pending = connection.pending.length)
    (fresh : ∀ token, ∀ hook ∈ (connection.tokens.state token).hooks,
      hook.1 < (connection.tokens.state token).nextKey) (now : Instant) :
    ∃ refused : Connection app ω,
      connection.handle now (.request message options sink) =
          refused.deliver message.id sink (.error (.wire failure)) ∧
        refused.pending = connection.pending ∧ refused.stats = connection.stats ∧
        refused.outcomes = connection.outcomes ∧
        (∀ (α : Type) (view : View ω α), refused.output view = connection.output view) ∧
        ∀ token, (refused.tokens.state token).hooks = (connection.tokens.state token).hooks := by
  have sameBooks := books_watch message.id options.token connection
  have sameFramer := framer_watch message.id options.token connection
  have sameOutput (α : Type) (view : View ω α) :
      (connection.watch message.id options.token).2.output view = connection.output view :=
    output_watch message.id options.token connection
  rcases watching : connection.watch message.id options.token with ⟨attachment, watched⟩
  rw [watching] at sameBooks sameFramer sameOutput
  have samePending : watched.pending = connection.pending := congrArg Books.pending sameBooks
  -- The places that the worker passes: entered, offered, and taken out of the table again.
  let deadline := (options.timeout.or watched.defaultTimeout).bind (Deadline.after? now)
  let entry : PendingRequest app := ⟨message.id, message.method, sink, deadline, attachment⟩
  let entered : Connection app ω := { watched with pending := watched.pending.insert entry }
  let offered := (entered.transmit message.toValue.encode).2
  have isRefused : entered.transmit message.toValue.encode = (.error failure, offered) := by
    refine Prod.ext ?_ rfl
    change (watched.framer.write message.toValue.encode).1 = .error failure
    rw [sameFramer]
    exact refuses
  have booksOffered : offered.books = entered.books := books_transmit _ entered
  have pendingOffered : offered.pending = connection.pending.insert entry := by
    rw [← samePending]
    exact congrArg Books.pending booksOffered
  have statsOffered : offered.stats = connection.stats :=
    (congrArg Books.stats booksOffered).trans (congrArg Books.stats sameBooks)
  let taken := { offered with pending := offered.pending.remove message.id }.countPending
  have pendingTaken : taken.pending = connection.pending := by
    change offered.pending.remove entry.id = connection.pending
    rw [pendingOffered, PendingTable.remove_insert isNew]
  have unhooked : (taken.unhook entry).books = taken.books := books_unhook entry taken
  refine ⟨taken.unhook entry, ?_, ?_, ?_, ?_, ?_, ?_⟩
  · rw [handle, start, opens]
    dsimp only
    have found : offered.pending.find message.id = some entry := by
      rw [pendingOffered]
      exact PendingTable.find_insert entry _
    have isEntered : watched.enter now message options.timeout sink attachment = entered := rfl
    rw [launch, watching]
    dsimp only
    rw [isEntered, isRefused]
    dsimp only
    rw [withdraw, found]
    rfl
  · exact (congrArg Books.pending unhooked).trans pendingTaken
  · rw [show (taken.unhook entry).stats = taken.stats from congrArg Books.stats unhooked]
    change { offered.stats with pending := taken.pending.length } = connection.stats
    rw [statsOffered, pendingTaken, ← gauged]
  · have sameMarks : (taken.unhook entry).marks = connection.marks :=
      (congrArg Books.marks unhooked).trans
        ((congrArg Books.marks booksOffered).trans (congrArg Books.marks sameBooks))
    rw [outcomes_eq, outcomes_eq, sameMarks]
  · intro α view
    have transmitted := output_transmit view (.request message) entered
    rw [Outgoing.payload, isRefused] at transmitted
    rw [output_unhook]
    exact transmitted.trans (sameOutput α view)
  · have tied : entry.attachment = attachment := rfl
    have sameTokens : taken.tokens = watched.tokens :=
      congrArg Terms.tokens (terms_transmit message.toValue.encode entered)
    exact hooks_rehung fresh watching sameTokens tied

end Connection

/-! ## A request that is carried out among others -/

/-- The counts, the marks and what was written are as they were, and the table is this. -/
structure Untouched (pending : PendingTable app) (base now : Connection app ω) : Prop where
  pending : now.pending = pending
  stats : now.stats = base.stats
  marks : now.marks = base.marks
  written : now.written = base.written

/-- How far the worker has come with a request. Once the request has been offered to the wire, or
was rejected, there is only winding up before it and the look at the deadlines. -/
inductive Attempt (message : Request) (options : Options) (sink : Sink app)
    (base : Connection app ω) (machine : Machine app ω) : Prop where
  | ahead
      (agenda : machine.agenda = [.carryOut (.request message options sink), .sweep])
      (untouched : Untouched base.pending base machine.connection)
  | admitted
      (agenda : machine.agenda = [.launch message options sink, .sweep])
      (untouched : Untouched base.pending base machine.connection)
  | entered (entry : PendingRequest app)
      (promise : entry.promise = ⟨message.id, sink⟩)
      (agenda : machine.agenda = [.send message, .sweep])
      (untouched : Untouched (base.pending.insert entry) base machine.connection)
  | past (agenda : ∀ job ∈ machine.agenda, job.winds = true ∨ job = .sweep)

/-- The worker comes to no message while it winds up. -/
theorem Machine.verdict_of_winds [Wire ω]
    {machine : Machine app ω}
    (winds : ∀ job ∈ machine.agenda, job.winds = true ∨ job = .sweep)
    (choice : Choice app ω) : machine.verdict choice = none := by
  cases choice with
  | work =>
      cases agenda : machine.agenda with
      | nil =>
          exact verdict_of_unworked fun _ => agenda
      | cons job rest =>
          rw [verdict_work agenda]
          rcases winds job (by rw [agenda]; exact List.mem_cons_self) with isWinding | rfl
          · cases job <;> first | rfl | contradiction
          · rfl
  | _ =>
      rfl

namespace Attempt

variable {message : Request} {options : Options} {sink : Sink app} {base : Connection app ω}
  {machine after : Machine app ω}

/-- Nothing has happened that the books or the wire tell. -/
private theorem quiet
    (attempt : Attempt message options sink base machine)
    (agenda : after.agenda = machine.agenda)
    (untouched : Untouched machine.connection.pending machine.connection after.connection) :
    Attempt message options sink base after := by
  have same {table : PendingTable app} (was : Untouched table base machine.connection) :
      Untouched table base after.connection :=
    ⟨untouched.pending.trans was.pending, untouched.stats.trans was.stats,
      untouched.marks.trans was.marks, untouched.written.trans was.written⟩
  cases attempt with
  | ahead isAgenda was =>
      exact .ahead (agenda.trans isAgenda) (same was)
  | admitted isAgenda was =>
      exact .admitted (agenda.trans isAgenda) (same was)
  | entered entry promise isAgenda was =>
      exact .entered entry promise (agenda.trans isAgenda) (same was)
  | past winds =>
      exact .past (agenda ▸ winds)

variable [Wire ω]

theorem adopt
    (attempt : Attempt message options sink base machine) (tokens : TokenTable)
    (hooks : List Hook) : Attempt message options sink base (machine.adopt tokens hooks) := by
  rw [Machine.adopt_eq]
  exact attempt.quiet rfl ⟨rfl, rfl, rfl, rfl⟩

/-- Winding up brings more of it only, and the look at the deadlines brings late requests. -/
private theorem past_worked
    {job : Job app} {rest : List (Job app)} {progress : Progress app ω}
    (posting : Posting machine.connection progress job)
    (winds : ∀ next ∈ job :: rest, next.winds = true ∨ next = .sweep) :
    Attempt message options sink base (machine.absorb rest progress) := by
  refine .past fun next isNext => ?_
  rcases List.mem_append.mp isNext with isNew | isLater
  · rcases winds job List.mem_cons_self with winding | rfl
    · exact .inl ((posting.winds winding).jobs next isNew)
    · cases posting with
      | idle isIdle jobs books =>
          exact .inl (Job.winds_of_runs (jobs next isNew))
      | swept now jobs books =>
          rw [jobs] at isNew
          obtain ⟨due, -, rfl⟩ := List.mem_map.mp isNew
          exact .inl rfl
  · exact winds next (List.mem_cons_of_mem _ isLater)

private theorem worked
    (attempt : Attempt message options sink base machine) {job : Job app}
    {rest : List (Job app)} (head : machine.agenda = job :: rest) :
    Attempt message options sink base (machine.next .work) := by
  have posting := job.posting machine.now machine.connection
  have written (nothing : (job.verdict machine.connection).bind Verdict.accepted? = none) :
      (machine.next .work).connection.written = machine.connection.written :=
    Machine.written_next ((Machine.verdict_work head).symm ▸ nothing)
  have isNext : machine.next .work =
      machine.absorb rest (job.step machine.now machine.connection) := by
    rw [Machine.next, head]
  rw [isNext] at written ⊢
  generalize job.step machine.now machine.connection = progress at posting written
  have windsOn (winds : ∀ next ∈ progress.jobs, next.winds = true) (isRest : rest = [.sweep]) :
      Attempt message options sink base (machine.absorb rest progress) := by
    refine .past fun next isNext => ?_
    rcases List.mem_append.mp isNext with isNew | isLater
    · exact .inl (winds next isNew)
    · rw [isRest] at isLater
      exact .inr (List.mem_singleton.mp isLater)
  cases attempt with
  | ahead agenda untouched =>
      obtain ⟨rfl, rfl⟩ := List.cons.inj (head.symm.trans agenda)
      cases posting with
      | rejected failure refusal jobs books =>
          exact windsOn (by simp [jobs, Job.winds]) rfl
      | admitted refusal jobs books =>
          have nothing : (Job.verdict machine.connection
              (.carryOut (.request message options sink))).bind Verdict.accepted? = none := by
            rw [Job.verdict, refusal]
            rfl
          refine .admitted (congrArg (· ++ [Job.sweep]) jobs) ⟨?_, ?_, ?_, ?_⟩
          · exact (congrArg Books.pending books).trans untouched.pending
          · exact (congrArg Books.stats books).trans untouched.stats
          · exact (congrArg Books.marks books).trans untouched.marks
          · exact (written nothing).trans untouched.written
      | idle isIdle | drained failure count fells =>
          contradiction
  | admitted agenda untouched =>
      obtain ⟨rfl, rfl⟩ := List.cons.inj (head.symm.trans agenda)
      cases posting with
      | launched entry promise jobs books =>
          refine .entered entry promise (congrArg (· ++ [Job.sweep]) jobs) ⟨?_, ?_, ?_, ?_⟩
          · rw [← untouched.pending]
            exact congrArg Books.pending books
          · exact (congrArg Books.stats books).trans untouched.stats
          · exact (congrArg Books.marks books).trans untouched.marks
          · exact (written rfl).trans untouched.written
      | idle isIdle =>
          contradiction
  | entered entry promise agenda untouched =>
      obtain ⟨rfl, rfl⟩ := List.cons.inj (head.symm.trans agenda)
      cases posting with
      | sent jobs books =>
          exact windsOn (by simp [jobs]) rfl
      | withdrawn failure jobs books =>
          refine windsOn (fun next isNext => ?_) rfl
          rw [jobs] at isNext
          obtain ⟨left, -, rfl⟩ := List.mem_map.mp isNext
          rfl
      | idle isIdle =>
          contradiction
  | past winds =>
      exact past_worked posting (head ▸ winds)

theorem next
    (attempt : Attempt message options sink base machine) {choice : Choice app ω}
    (continues : choice.begins = false) :
    Attempt message options sink base (machine.next choice) := by
  have booked := machine.booked choice
  have written : (choice = .work → machine.agenda = []) →
      (machine.next choice).connection.written = machine.connection.written := fun unworked =>
    Machine.written_next (by rw [Machine.verdict_of_unworked unworked]; rfl)
  generalize isNext : machine.next choice = reached at booked written
  cases booked with
  | taken | woken =>
      contradiction
  | worked head =>
      rw [← isNext]
      exact attempt.worked head
  | @reordered listed hooks others head =>
      cases attempt with
      | past agenda =>
          refine .past fun next isNext => ?_
          rw [head] at agenda
          rcases List.mem_cons.mp isNext with rfl | isLater
          · exact .inl rfl
          · exact agenda next (List.mem_cons_of_mem _ isLater)
      | ahead agenda | admitted agenda | entered entry promise agenda =>
          rw [head] at agenda
          simp at agenda
  | called isRunning agenda taken history books =>
      exact attempt.quiet agenda ⟨congrArg Books.pending books, congrArg Books.stats books,
        congrArg Books.marks books, written (by simp)⟩
  | beside unworked silent agenda taken history books =>
      exact attempt.quiet agenda ⟨congrArg Books.pending books, congrArg Books.stats books,
        congrArg Books.marks books, written unworked⟩

theorem verdict_of_send
    (attempt : Attempt message options sink base machine)
    (isSend : machine.agenda.head?.any Job.isSend = true) :
    machine.verdict .work = some (machine.connection.judge (.request message)) := by
  cases attempt with
  | entered entry promise agenda untouched =>
      exact Machine.verdict_work agenda
  | ahead agenda | admitted agenda =>
      rw [agenda] at isSend
      contradiction
  | past agenda =>
      cases isAgenda : machine.agenda with
      | nil =>
          rw [isAgenda] at isSend
          contradiction
      | cons job others =>
          rw [isAgenda] at agenda isSend
          rcases agenda job List.mem_cons_self with winds | rfl
          · cases job <;> contradiction
          · contradiction

end Attempt

/-! ## The refusal -/

/-- An offer that the wire refuses takes the request out of the table, to fail. -/
private theorem Connection.offer_refused [Wire ω]
    {message : Request} {connection : Connection app ω} {failure : WireFailure}
    (refused : (connection.judge (.request message)).ruling = .refused failure) :
    (connection.offer message).jobs = (connection.pending.find message.id).toList.map
        (fun entry => .finish entry (.error (.wire failure))) ∧
      (connection.offer message).connection.books =
        { connection.books with
          pending := connection.pending.remove message.id
          stats := { connection.stats with
            pending := (connection.pending.remove message.id).length } } := by
  have sameBooks := books_transmit message.toValue.encode connection
  have isRefused : (connection.transmit message.toValue.encode).1 = .error failure := by
    change (Wire.write (Framing.encodeFrame message.toValue.encode) connection.framer.wire).1 = _
    unfold judge at refused
    dsimp only [Outgoing.frame] at refused
    split at refused
    · contradiction
    · rename_i reason outcome
      rw [outcome, Ruling.refused.inj refused]
  unfold offer
  rcases offered : connection.transmit message.toValue.encode with ⟨outcome, reached⟩
  rw [offered] at sameBooks isRefused
  dsimp only at sameBooks isRefused
  subst isRefused
  have samePending : reached.pending = connection.pending := congrArg Books.pending sameBooks
  have sameStats : reached.stats = connection.stats := congrArg Books.stats sameBooks
  dsimp only
  rw [samePending, ← sameBooks, ← sameStats]
  exact ⟨rfl, rfl⟩

/-- The worker is about to hand out the failure of a refused request, or has come to the look at
the deadlines. Until then all is as it was. -/
def Machine.TakesBack (message : Request) (failure : WireFailure) (base : Connection app ω)
    (machine : Machine app ω) : Prop :=
  (machine.WindsUp [.sweep] base.pending
      (base.marks ++ [.completed message.id (.error (.wire failure))]) base.stats ∧
    machine.connection.written = base.written) ∨ .sweep ∉ machine.agenda

section Refusal

variable [Wire ω] {message : Request} {options : Options} {sink : Sink app}
  {failure : WireFailure} {base : Connection app ω} {machine : Machine app ω}

/-- The refusal finds the request entered, and the request leaves the table again. -/
theorem Attempt.refused
    (attempt : Attempt message options sink base machine)
    (isNew : message.id ∉ base.pending.ids) (gauged : base.stats.pending = base.pending.length)
    (verdict : machine.verdict .work = some ⟨.request message, .refused failure⟩) :
    (machine.next .work).TakesBack message failure base := by
  cases attempt with
  | ahead agenda untouched =>
      rw [Machine.verdict_work agenda, Job.verdict] at verdict
      cases refusal : machine.connection.refusal? options <;> simp [refusal] at verdict
  | admitted agenda untouched =>
      rw [Machine.verdict_work agenda] at verdict
      contradiction
  | past agenda =>
      rw [Machine.verdict_of_winds agenda] at verdict
      contradiction
  | entered entry promise agenda untouched =>
      have isId : entry.id = message.id := congrArg Promise.id promise
      have written : (machine.next .work).connection.written = machine.connection.written :=
        Machine.written_next (by rw [verdict]; rfl)
      rw [Machine.verdict_work agenda, Job.verdict, Option.some.injEq] at verdict
      obtain ⟨jobs, books⟩ := offer_refused (congrArg Verdict.ruling verdict)
      rw [untouched.pending, ← isId, PendingTable.remove_insert (isId ▸ isNew)] at books
      rw [untouched.pending, ← isId, PendingTable.find_insert] at jobs
      have isNext : machine.next .work =
          machine.absorb [.sweep] (machine.connection.offer message) := by
        rw [Machine.next, agenda]
        rfl
      rw [isNext] at written ⊢
      refine .inl ⟨⟨[.finish entry (.error (.wire failure))], ?_, ?_, ?_, ?_, ?_⟩,
        written.trans untouched.written⟩
      · exact congrArg (· ++ [Job.sweep]) jobs
      · simp [Job.winds]
      · exact congrArg Books.pending books
      · change (machine.connection.offer message).connection.books.marks ++ _ = _
        rw [books, ← isId, ← untouched.marks]
        rfl
      · change Stats.told _ (machine.connection.offer message).connection.books.stats = _
        rw [books, Stats.told_of_silent rfl, untouched.stats, ← gauged]

namespace Machine.TakesBack

theorem next
    (takesBack : machine.TakesBack message failure base) {choice : Choice app ω}
    (continues : choice.begins = false) :
    (machine.next choice).TakesBack message failure base := by
  have booked := machine.booked choice
  rcases takesBack with ⟨windsUp, written⟩ | unswept
  · have noSignal : ∀ hooks, Job.signal hooks ∉ ([.sweep] : List (Job app)) := by simp
    rcases windsUp.next noSignal continues with stillWinds | ⟨rfl, atSweep⟩
    · refine .inl ⟨stillWinds, ?_⟩
      obtain ⟨jobs, agenda, winds, -⟩ := windsUp
      have nothing := machine.verdict_of_winds (fun job isJob => ?_) choice
      · rw [← written]
        exact Machine.written_next (by rw [nothing]; rfl)
      · rw [agenda] at isJob
        exact (List.mem_append.mp isJob).imp (winds job) List.mem_singleton.mp
    · right
      have unswept := (Job.posting machine.now .sweep machine.connection).not_swept
      rw [Machine.next, atSweep]
      simpa [Machine.absorb] using unswept
  · right
    generalize machine.next choice = reached at booked
    cases booked with
    | taken | woken =>
        contradiction
    | @worked job rest head =>
        rw [head, List.mem_cons, not_or] at unswept
        intro isNext
        rcases List.mem_append.mp isNext with isNew | isLater
        · exact (job.posting machine.now machine.connection).not_swept isNew
        · exact unswept.2 isLater
    | reordered head =>
        rw [head] at unswept
        simpa using unswept
    | called isRunning agenda | beside unworked silent agenda =>
        rwa [agenda]

theorem adopt
    (takesBack : machine.TakesBack message failure base) (tokens : TokenTable)
    (hooks : List Hook) : (machine.adopt tokens hooks).TakesBack message failure base := by
  rw [Machine.adopt_eq]
  exact takesBack

omit [Wire ω] in
theorem untouched
    (takesBack : machine.TakesBack message failure base) (agenda : machine.agenda = [.sweep]) :
    machine.connection.pending = base.pending ∧ machine.connection.stats = base.stats ∧
      machine.connection.written = base.written ∧
      machine.connection.outcomes =
        base.outcomes ++ [(message.id, .error (.wire failure))] := by
  rcases takesBack with ⟨⟨jobs, isAgenda, -, pending, marks, stats⟩, written⟩ | unswept
  · have isOver : jobs = [] := by
      rw [agenda] at isAgenda
      simpa using isAgenda
    rw [isOver] at marks stats
    have isMarks : machine.connection.marks =
        base.marks ++ [.completed message.id (.error (.wire failure))] :=
      (List.append_nil _).symm.trans marks
    refine ⟨pending, stats, written, ?_⟩
    rw [outcomes_eq, outcomes_eq, isMarks, List.filterMap_append]
    rfl
  · rw [agenda] at unswept
    simp at unswept

end Machine.TakesBack

end Refusal

/-! ## The gauge and the hooks of a fleet -/

section Fleet

variable {fleet : Fleet app ω}

/-- What shows of other members does not touch the gauge. -/
private theorem Fleet.Reachable.gauged [Wire ω]
    (reachable : fleet.Reachable) (lasting : fleet.Lasting) : ∀ name, (fleet name).Gauged := by
  refine reachable.induction (fun reached => ∀ name, (reached name).Gauged)
    (fun _ _ _ _ => .inr rfl) ?_ lasting
  intro before _ _ gauged mover choice _ name
  by_cases isMover : name = mover
  · subst isMover
    have moved := ((before name).booked choice).gauged (gauged name)
    rw [Fleet.next_self, Machine.adopt_eq]
    exact moved
  · rw [before.next_of_ne choice isMover, Machine.adopt_eq]
    exact gauged name

/-- As long as a token is not triggered in between, a member that holds the same requests has the
same hooks there. -/
private theorem Mirrored.perm_hooksOf
    {before after : Fleet app ω} (mirrored : Mirrored before) (mirroredAfter : Mirrored after)
    {token : Token} {name : Nat}
    (sameState : (after.tokens.state token).cancelled = (before.tokens.state token).cancelled)
    (sameHeld : (after name).held = (before name).held) :
    ((after.tokens.state token).hooksOf name).Perm
      ((before.tokens.state token).hooksOf name) := by
  cases triggered : (before.tokens.state token).cancelled with
  | true =>
      -- A token that was triggered has no hooks.
      rw [TokenState.hooksOf, TokenState.hooksOf, mirrored.mirrors.triggered token triggered,
        mirroredAfter.mirrors.triggered token (sameState.trans triggered)]
  | false =>
      have hooks := mirrored.mirrors.hooks token triggered name
      have hooksAfter := mirroredAfter.mirrors.hooks token (sameState.trans triggered) name
      rw [sameHeld] at hooksAfter
      exact hooksAfter.trans hooks.symm

private theorem Fleet.run_attempt [Wire ω]
    (fleet : Fleet app ω) (name : Nat) (earlier later : List (Nat × Choice app ω)) :
    (((fleet.next (name, .take)).run earlier).next (name, .work)).run later =
      fleet.run ((name, .take) :: earlier ++ (name, .work) :: later) :=
  (fleet.run_append ((name, .take) :: earlier) ((name, .work) :: later)).symm

private theorem Fleet.mem_taken [Wire ω]
    {name : Nat} {command : Command app} {rest : List (Command app)}
    (idle : (fleet name).agenda = []) (isRunning : (fleet name).connection.running = true)
    (inbox : (fleet name).connection.inbox = command :: rest)
    (schedule : List (Nat × Choice app ω)) :
    command ∈ ((fleet.next (name, .take)).run schedule name).taken := by
  refine (leads_run _ schedule name).taken_grows.subset ?_
  rw [next_self, Machine.adopt_eq, Machine.next, idle, isRunning, inbox]
  simp

section Attempt

variable [Wire ω] {name : Nat} {message : Request} {options : Options} {sink : Sink app}
  {rest : List (Command app)} {earlier : List (Nat × Choice app ω)}
  (idle : (fleet name).agenda = []) (isRunning : (fleet name).connection.running = true)
  (inbox : (fleet name).connection.inbox = .request message options sink :: rest)

include idle isRunning inbox

/-- The worker of a member takes a request and does not begin anything else. -/
private theorem Fleet.attempt
    (continues : ∀ turn ∈ earlier, turn.1 = name → turn.2.begins = false) :
    Attempt message options sink (fleet name).connection
      ((fleet.next (name, .take)).run earlier name) := by
  refine run_member (Attempt message options sink (fleet name).connection) ?_
    (fun machine choice isChosen held => held.next (continues _ isChosen rfl))
    fun machine tokens hooks held => held.adopt tokens hooks
  rw [next_self]
  refine Attempt.adopt ?_ _ _
  rw [Machine.next, idle, isRunning, inbox]
  exact .ahead rfl ⟨rfl, rfl, rfl, rfl⟩

/-- The worker of a member comes to a request that the wire refuses. -/
private theorem Fleet.takesBack
    {failure : WireFailure} {later : List (Nat × Choice app ω)}
    (isNew : message.id ∉ (fleet name).connection.pending.ids)
    (gauged : (fleet name).connection.stats.pending = (fleet name).connection.pending.length)
    (continues : ∀ turn ∈ earlier ++ later, turn.1 = name → turn.2.begins = false)
    (verdict : ((fleet.next (name, .take)).run earlier name).verdict .work =
      some ⟨.request message, .refused failure⟩) :
    ((((fleet.next (name, .take)).run earlier).next (name, .work)).run later name).TakesBack
      message failure (fleet name).connection := by
  have attempt := fleet.attempt idle isRunning inbox fun turn isTurn =>
    continues turn (List.mem_append_left later isTurn)
  refine run_member (Machine.TakesBack message failure (fleet name).connection) ?_
    (fun machine choice isChosen held =>
      held.next (continues _ (List.mem_append_right earlier isChosen) rfl))
    fun machine tokens hooks held => held.adopt tokens hooks
  rw [next_self]
  exact (attempt.refused isNew gauged verdict).adopt _ _

end Attempt

end Fleet

/-- Nobody waits for a response to a request that is not pending. -/
private theorem Connection.route_unmatched
    {connection : Connection app ω} {payload : Bytes} {response : Response}
    (classified : Incoming.classify payload = .response response)
    (absent : response.id ∉ connection.pending.ids) :
    connection.route payload = connection.emit (.unmatchedResponse response.id) := by
  rw [route, classified]
  dsimp only
  rw [resolve, PendingTable.find_eq_none_iff.mpr absent]

/-! ## All schedules -/

/-- A request that the wire refuses leaves no trace but its outcome. Carried out alone, on an open
connection and with a token that is not triggered, it leaves the table, the counts, the output and
all hooks exactly as they were when its owner is handed the refusal. Whatever the callbacks, the
other threads and the other connections do in between, the table, the counts and what was written
are the same when the worker has come to the end of the request, and so are the hooks that the
connection has on tokens that were not triggered meanwhile, and those of connections that did
nothing. From then on the refusal is the only outcome of the request, and whenever a response with
its identifier comes, it is unmatched. All this is said as long as identifiers do not start over,
which they do after `2 ^ 64` requests. -/
theorem refused_write_leaves_no_trace [Wire ω]
    {fleet : Fleet app ω} (reachable : fleet.Reachable) (lasting : fleet.Lasting) {name : Nat}
    (idle : (fleet name).agenda = []) (isRunning : (fleet name).connection.running = true)
    {message : Request} {options : Options} {sink : Sink app} {rest : List (Command app)}
    (inbox : (fleet name).connection.inbox = .request message options sink :: rest)
    (failure : WireFailure) :
    let before := (fleet name).connection
    (before.closed = none →
      (∀ token ∈ options.token, (fleet.tokens.state token).cancelled = false) →
      (Wire.write (Framing.encodeFrame message.toValue.encode) before.framer.wire).1 =
        .error failure →
      ∀ now, ∃ refused : Connection app ω,
        { before with inbox := rest }.handle now (.request message options sink) =
            refused.deliver message.id sink (.error (.wire failure)) ∧
          refused.pending = before.pending ∧ refused.stats = before.stats ∧
          refused.outcomes = before.outcomes ∧
          (∀ (α : Type) (view : View ω α), refused.output view = before.output view) ∧
          ∀ token, (refused.tokens.state token).hooks = (fleet.tokens.state token).hooks) ∧
    ∀ earlier later : List (Nat × Choice app ω),
      (∀ turn ∈ earlier ++ later,
        turn.2.isOwn = true ∧ (turn.1 = name → turn.2.begins = false)) →
      let midst := (fleet.next (name, .take)).run earlier
      let last := (midst.next (name, .work)).run later
      (midst name).verdict .work = some ⟨.request message, .refused failure⟩ →
      (last name).agenda = [.sweep] → last.Lasting →
      let after := (last name).connection
      after.pending = before.pending ∧ after.stats = before.stats ∧
        after.written = before.written ∧
        after.outcomes = before.outcomes ++ [(message.id, .error (.wire failure))] ∧
        (∀ token other,
          (last.tokens.state token).cancelled = (fleet.tokens.state token).cancelled →
          (other = name ∨ ∀ turn ∈ earlier ++ later, turn.1 ≠ other) →
          ((last.tokens.state token).hooksOf other).Perm
            ((fleet.tokens.state token).hooksOf other)) ∧
        ∀ further, (∀ turn ∈ further, turn.2.isOwn = true) → (last.run further).Lasting →
          let reached := last.run further name
          .completed ⟨message.id, sink⟩ (.error (.wire failure)) ∈ reached.history ∧
            reached.completed.count message.id = 1 ∧ message.id ∉ reached.awaited ∧
            ∀ payload response, Incoming.classify payload = .response response →
              response.id = message.id →
              reached.connection.route payload =
                reached.connection.emit (.unmatchedResponse message.id) := by
  intro before
  have mirrored := Mirrored.of_reachable reachable lasting
  have ledger := ((reachable.attained name).sound (lasting name)).tracked.ledger
  -- Each identifier is in one place, and this one is in the inbox.
  have isNew : message.id ∉ before.pending.ids := by
    have isQueued : message.id ∈ (fleet name).queued := by
      simp [Machine.queued, inbox, promisesIn, Command.promise?]
    have apart := (ledger.nodup_everywhere (lasting name)).of_append_left
    exact List.disjoint_of_nodup_append apart isQueued
  have gauged : before.stats.pending = before.pending.length :=
    (reachable.gauged lasting name).pending (by simp [idle])
  refine ⟨?_, ?_⟩
  · intro isOpen untriggered refuses now
    have sameTokens : before.tokens = fleet.tokens := mirrored.shared name
    have opens : { before with inbox := rest }.refusal? options = none := by
      unfold refusal?
      dsimp only
      rw [isOpen, sameTokens]
      cases carried : options.token with
      | none =>
          rfl
      | some token =>
          simp [TokenTable.isCancelled, untriggered token carried]
    rw [← sameTokens]
    refine handle_refused opens refuses isNew gauged ?_ now
    intro token
    change ∀ hook ∈ (before.tokens.state token).hooks,
      hook.1 < (before.tokens.state token).nextKey
    rw [sameTokens]
    exact mirrored.mirrors.fresh token
  · intro earlier later turns midst last verdict agenda lastingLast after
    have takesBack : (last name).TakesBack message failure before :=
      Fleet.takesBack idle isRunning inbox isNew gauged (fun turn isTurn => (turns turn isTurn).2)
        verdict
    obtain ⟨pending, stats, written, outcomes⟩ := takesBack.untouched agenda
    have isLast : last = fleet.run ((name, .take) :: earlier ++ (name, .work) :: later) :=
      fleet.run_attempt name earlier later
    have parted : ∀ turn ∈ (name, .take) :: earlier ++ (name, .work) :: later,
        turn = (name, .take) ∨ turn = (name, .work) ∨ turn ∈ earlier ++ later := by
      intro turn isTurn
      simp only [List.cons_append, List.mem_cons, List.mem_append] at isTurn ⊢
      tauto
    have reachableLast : last.Reachable := by
      rw [isLast]
      refine reachable.run fun turn isTurn => ?_
      rcases parted turn isTurn with rfl | rfl | isOther
      · rfl
      · rfl
      · exact (turns turn isOther).1
    refine ⟨pending, stats, written, outcomes, ?_, ?_⟩
    · intro token other sameState apart
      refine mirrored.perm_hooksOf (.of_reachable reachableLast lastingLast) sameState ?_
      by_cases isName : other = name
      · rw [isName, Machine.held, Machine.held, agenda, idle]
        exact pending
      · rw [isLast]
        refine fleet.held_run_of_others _ fun turn isTurn => ?_
        rcases parted turn isTurn with rfl | rfl | isOther
        · exact Ne.symm isName
        · exact Ne.symm isName
        · exact apart.resolve_left isName turn isOther
    · intro further own lastingReached reached
      have ledgerLast := ((reachableLast.attained name).sound (lastingLast name)).tracked.ledger
      have isTaken : ⟨message.id, sink⟩ ∈ promisesIn (last name).taken := by
        have isCommand := fleet.mem_taken idle isRunning inbox (earlier ++ (name, .work) :: later)
        rw [Fleet.run_append] at isCommand
        exact List.mem_filterMap.mpr ⟨_, isCommand, rfl⟩
      have isGiven : (message.id, .error (.wire failure)) ∈ (last name).connection.outcomes := by
        rw [outcomes]
        simp
      have isDeed := (last.leads_run further name).history_grows.subset
        (ledgerLast.deed_of_outcome (lastingLast name) isTaken isGiven)
      have ledgerReached := (((reachableLast.run own).attained name).sound
        (lastingReached name)).tracked.ledger
      obtain ⟨count, absent⟩ := ledgerReached.settled_of_completed (lastingReached name) isDeed
      refine ⟨isDeed, count, absent, ?_⟩
      rintro payload response classified isId
      rw [← isId]
      exact route_unmatched classified (isId ▸ absent)

/-- Two connections have a request each with one token. The wire of the first one is closed then,
and it is to send another request with the token. -/
def askOverClosedWire : List (Nat × Choice bare (MemoryWire Unit)) :=
  sendWith 0 "first" 7 ++ sendWith 1 "other" 7 ++
    [(0, .act (.disturb (MemoryWire.setRefusal (some .closed)))), (0, askWith "second" 7)]

/-- The worker comes to its request, and meanwhile the other connection has one more. -/
def turnToSecond : List (Nat × Choice bare (MemoryWire Unit)) :=
  [(0, .work), (1, askWith "third" 7), (0, .work)]

def secondAsked : Fleet bare (MemoryWire Unit) :=
  freshFleet.run askOverClosedWire

def secondComes : Fleet bare (MemoryWire Unit) :=
  (secondAsked.next (0, .take)).run turnToSecond

def secondRefused : Fleet bare (MemoryWire Unit) :=
  (secondComes.next (0, .work)).run (List.replicate 3 (0, .work))

private def Job.isSweep : Job app → Bool
  | .sweep => true
  | _ => false

private theorem eq_sweep
    {jobs : List (Job app)} (single : jobs.map Job.isSweep = [true]) : jobs = [.sweep] := by
  obtain ⟨job, rfl, isSweep⟩ := List.map_eq_singleton_iff.mp single
  cases job <;> first | rfl | contradiction

private theorem MemoryWire.write_of_refusal
    {wire : MemoryWire Unit} {failure : WireFailure} (refusing : wire.refusal = some failure)
    (bytes : Bytes) : (Wire.write bytes wire).1 = .error failure := by
  change (wire.write bytes).1 = .error failure
  rw [write, refusing]

theorem second_request_leaves_no_trace :
    secondAsked.Reachable ∧ secondAsked.Lasting ∧ (secondAsked 0).awaited = [.number 1] ∧
      (secondAsked.tokens.state 7).hooks.map (·.2) = [⟨0, .number 1⟩, ⟨1, .number 1⟩] ∧
      (∃ refused : Connection bare (MemoryWire Unit), ∃ message options sink,
        { (secondAsked 0).connection with inbox := [] }.handle ⟨0⟩
            (.request message options sink) =
            refused.deliver (.number 2) sink (.error (.wire .closed)) ∧
          refused.pending = (secondAsked 0).connection.pending ∧
          (refused.tokens.state 7).hooks = (secondAsked.tokens.state 7).hooks) ∧
      secondRefused.Lasting ∧
      (secondRefused 0).connection.pending = (secondAsked 0).connection.pending ∧
      (secondRefused 0).connection.stats = (secondAsked 0).connection.stats ∧
      (secondRefused 0).connection.outcomes = [(.number 2, .error (.wire .closed))] ∧
      ((secondRefused.tokens.state 7).hooksOf 0).Perm ((secondAsked.tokens.state 7).hooksOf 0) ∧
      (secondRefused 0).connection.route (responseTo "2") =
        (secondRefused 0).connection.emit (.unmatchedResponse (.number 2)) := by
  have reachable : secondAsked.Reachable := reachable_freshFleet (by decide +kernel)
  have lasting : secondAsked.Lasting := lasting_freshFleet (by decide +kernel)
  have isLast : secondRefused = freshFleet.run (askOverClosedWire ++
      ((0, .take) :: turnToSecond ++ (0, .work) :: List.replicate 3 (0, .work))) := by
    rw [Fleet.run_append]
    exact Fleet.run_attempt _ 0 turnToSecond _
  have lastingLast : secondRefused.Lasting := by
    rw [isLast]
    exact lasting_freshFleet (by decide +kernel)
  have isEmpty : (secondAsked 0).agenda.isEmpty = true := by decide +kernel
  have idle := List.isEmpty_iff.mp isEmpty
  have isRunning : (secondAsked 0).connection.running = true := by decide +kernel
  have carried : carrying 7 (secondAsked 0).connection.inbox = [.number 2] := by decide +kernel
  have alone : (secondAsked 0).connection.inbox.length = 1 := by decide +kernel
  obtain ⟨message, options, sink, isQueued, hasToken, isSecond⟩ :=
    mem_carrying.mp (carried ▸ List.mem_singleton_self (MessageId.number 2))
  obtain ⟨command, isAlone⟩ := List.length_eq_one_iff.mp alone
  rw [isAlone, List.mem_singleton] at isQueued
  subst isQueued
  obtain ⟨undisturbed, amid⟩ :=
    refused_write_leaves_no_trace reachable lasting idle isRunning isAlone .closed
  have isOpen : (secondAsked 0).connection.closed.isNone = true := by decide +kernel
  have isRefusing : (secondAsked 0).connection.framer.wire.refusal = some .closed := by
    decide +kernel
  have ofToken : ∀ token ∈ options.token, (secondAsked.tokens.state token).cancelled = false := by
    intro token isToken
    rw [hasToken, Option.mem_some_iff] at isToken
    rw [← isToken]
    decide +kernel
  obtain ⟨refused, handled, table, -, -, -, hooks⟩ := undisturbed
    (Option.isNone_iff_eq_none.mp isOpen) ofToken (MemoryWire.write_of_refusal isRefusing _) ⟨0⟩
  have turns : ∀ turn ∈ turnToSecond ++ List.replicate 3 (0, .work),
      turn.2.isOwn = true ∧ (turn.1 = 0 → turn.2.begins = false) := by decide +kernel
  have verdict : (secondComes 0).verdict .work = some ⟨.request message, .refused .closed⟩ := by
    have isSend : (secondComes 0).agenda.head?.any Job.isSend = true := by decide +kernel
    have stillRefusing : (secondComes 0).connection.framer.wire.refusal = some .closed := by
      decide +kernel
    have attempt : Attempt message options sink (secondAsked 0).connection (secondComes 0) :=
      secondAsked.attempt idle isRunning isAlone fun turn isTurn =>
        (turns turn (List.mem_append_left _ isTurn)).2
    rw [attempt.verdict_of_send isSend, judge, MemoryWire.write_of_refusal stillRefusing]
  have isOver : (secondRefused 0).agenda.map Job.isSweep = [true] := by decide +kernel
  have isComes : (secondAsked.next (0, .take)).run turnToSecond = secondComes := rfl
  have isRefused : (secondComes.next (0, .work)).run (List.replicate 3 (0, .work)) =
      secondRefused := rfl
  specialize amid turnToSecond (List.replicate 3 (0, .work)) turns
  dsimp only at amid
  rw [isComes, isRefused] at amid
  obtain ⟨pending, stats, -, outcomes, sameHooks, later⟩ :=
    amid verdict (eq_sweep isOver) lastingLast
  have noOutcome : (secondAsked 0).connection.outcomes.isEmpty = true := by decide +kernel
  have answers : Answers (responseTo "2") (.number 2) := by decide +kernel
  obtain ⟨response, classified, isId⟩ := answers
  have atOnce : secondRefused.run [] = secondRefused := by rw [Fleet.run, List.foldl_nil]
  specialize later [] (by simp)
  rw [atOnce] at later
  obtain ⟨-, -, -, unmatched⟩ := later lastingLast
  rw [isSecond] at handled outcomes unmatched
  rw [List.isEmpty_iff.mp noOutcome] at outcomes
  exact ⟨reachable, lasting, by decide +kernel, by decide +kernel,
    ⟨refused, message, options, sink, handled, table, hooks 7⟩, lastingLast, pending, stats,
    outcomes, sameHooks 7 0 (by decide +kernel) (.inl rfl), unmatched _ response classified isId⟩

end RpcEndpoint
