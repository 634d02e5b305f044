import RpcEndpoint.Proofs.Process.Ownership

/-!
# What becomes of requests when the process ends

The hook of a connection orders it to close when the process has ended, and a call to stop orders it
to shut down. Whichever comes first decides what pending requests fail with (`Judged`). A call that
ends the process itself comes behind the hook; one that finds it left by somebody else does not wait.
-/

namespace RpcEndpoint

namespace Lifetime

variable {κ η : Type}

theorem called_next (lifetime : Lifetime κ η) (turn : Turn κ η) :
    ∃ more, (lifetime.next turn).called = lifetime.called ++ more := by
  have nothing : ∃ more, lifetime.called = lifetime.called ++ more := ⟨[], (List.append_nil _).symm⟩
  have one (hook : η) (exit : Option ExitStatus) (before : Lifetime κ η)
      (same : before.calls = lifetime.calls) :
      ∃ more, (before.call hook exit).called = lifetime.called ++ more :=
    ⟨[hook], by simp [called, call, same]⟩
  cases turn with
  | start spawned =>
      rw [next]
      unfold start
      split <;> exact nothing
  | leave who =>
      rw [next, leave]
      split <;> exact nothing
  | goOn index exit =>
      rw [next, goOn]
      split
      · exact nothing
      · exact nothing
      · exact nothing
      · exact one _ _ _ rfl
      · exact nothing
  | register hook =>
      rw [next, register]
      split <;> exact nothing
  | callLate index =>
      rw [next, callLate]
      split
      · exact nothing
      · exact one _ _ _ rfl

/-- No hook is called before the process is left. -/
theorem called_next_of_open {registered : List η} {lifetime : Lifetime κ η}
    (consistent : Consistent registered lifetime) (isOpen : lifetime.status.isTerminated = false)
    (turn : Turn κ η) : (lifetime.next turn).called = lifetime.called := by
  cases consistent with
  | before status isOpen =>
      cases turn with
      | start spawned => cases status <;> cases spawned <;> rfl
      | leave who => cases status <;> rfl
      | goOn | register | callLate => rfl
  | left | reaped | calling | completed => cases isOpen

/-- A process that has been started is left when somebody wants to end it. -/
theorem isTerminated_leave (lifetime : Lifetime κ η) (who : κ)
    (isStarted : lifetime.status ≠ .notStarted) :
    (lifetime.leave who).2.status.isTerminated = true := by
  unfold leave Lifecycle.leave
  cases isStatus : lifetime.lifecycle.status with
  | notStarted => exact absurd isStatus isStarted
  | running => rfl
  | terminated exit =>
      rw [status, isStatus]
      rfl

/-- A hook that is late has just been brought, or was late before. -/
theorem late_next (lifetime : Lifetime κ η) (turn : Turn κ η) {waiting : η × Option ExitStatus}
    (isLate : waiting ∈ (lifetime.next turn).late) :
    waiting ∈ lifetime.late ∨ turn.hook? = some waiting.1 := by
  cases turn with
  | start spawned =>
      rw [next] at isLate
      unfold start at isLate
      split at isLate <;> exact .inl isLate
  | leave who =>
      rw [next, leave] at isLate
      split at isLate <;> exact .inl isLate
  | goOn index exit =>
      rw [next, goOn] at isLate
      split at isLate <;> exact .inl isLate
  | register hook =>
      rw [next, register] at isLate
      split at isLate
      · rcases List.mem_append.mp isLate with wasLate | isNew
        · exact .inl wasLate
        · rw [List.mem_singleton.mp isNew]
          exact .inr rfl
      · exact .inl isLate
  | callLate index =>
      rw [next, callLate] at isLate
      split at isLate
      · exact .inl isLate
      · exact .inl (List.mem_of_mem_eraseIdx isLate)

end Lifetime

namespace Hosting

variable {app : Application} {ω ρ : Type}

/-- What the first order that ends all fails the pending requests of the connection with. -/
def ending? (host : Hosting app ω ρ) : Option Failure :=
  host.link.bind Machine.ending?

/-- A call to stop has found the process left by somebody else, and has shut down the connection
without waiting. -/
def Overtaken (host : Hosting app ω ρ) : Prop :=
  ∃ (index name : Nat), host.stops[index]? = some ⟨some name, some false, true⟩

/-- The identifiers of the connection last. -/
def Lasts (host : Hosting app ω ρ) : Prop :=
  ∀ machine, host.link = some machine → machine.accepted.length ≤ 2 ^ 64

/-! ## The connection along a schedule -/

section Links

variable [Wire ω] {before after host : Hosting app ω ρ}

/-- The connection goes on. -/
def Continues (before after : Hosting app ω ρ) : Prop :=
  ∀ machine, before.link = some machine →
    ∃ later, after.link = some later ∧ machine.Leads later

theorem Continues.of_same (sameLink : after.link = before.link) : before.Continues after :=
  fun machine isLink => ⟨machine, sameLink.trans isLink, .refl⟩

theorem continues_touch (host : Hosting app ω ρ) (choice : RpcEndpoint.Choice app ω) :
    host.Continues (host.touch choice) := by
  intro machine isLink
  refine ⟨machine.next choice, ?_, machine.leads_run [choice]⟩
  rw [touch, isLink]
  rfl

theorem continues_live (host : Hosting app ω ρ) (turn : Turn Ender (Watcher ρ)) :
    host.Continues (host.live turn) := by
  unfold live
  extract_lets life called lived
  split
  · exact lived.continues_touch _
  · exact .of_same rfl

theorem continues_next (owned : Owned host) (choice : Choice app ω ρ) :
    host.Continues (host.next choice) := by
  have still : host.Continues host := .of_same rfl
  cases choice with
  | call entrance spawned =>
      intro machine isLink
      have isFree' : host.phase = .idle → host.errand ≠ none := fun isIdle isFree => by
        have noLink := (owned.unspawned ((owned.idle isIdle).2 isFree)).2.1
        rw [isLink] at noLink
        contradiction
      have sameLink : (host.call entrance spawned).link = host.link := by
        unfold call
        split
        · rfl
        · rename_i isFree
          cases isPhase : host.phase with
          | idle => exact absurd isFree (isFree' isPhase)
          | running | stopped => cases entrance <;> rfl
      exact ⟨machine, sameLink.trans isLink, .refl⟩
  | watch =>
      rw [next, watch]
      split
      · exact host.continues_live _
      · exact still
  | settle =>
      rw [next, settle]
      split
      · split
        · exact still
        · exact .of_same rfl
      · exact still
  | exit => exact .of_same rfl
  | outputEnds | writeFails | goOn | register | callLate => exact host.continues_live _
  | stop =>
      rw [next, stop]
      split
      · exact still
      · exact .of_same rfl
  | leave index =>
      rw [next, leave]
      split
      · exact .of_same rfl
      · exact still
  | shut index =>
      rw [next, shut]
      split
      · split
        · exact still
        · extract_lets stopped
          split
          · exact stopped.continues_touch _
          · exact .of_same rfl
      · exact still
  | work choice => exact host.continues_touch choice

theorem continues_run (owned : Owned host) (schedule : List (Choice app ω ρ)) :
    host.Continues (host.run schedule) := by
  induction schedule generalizing host with
  | nil => exact .of_same rfl
  | cons choice rest inductionHypothesis =>
      intro machine isLink
      obtain ⟨between, isBetween, led⟩ := continues_next owned choice machine isLink
      obtain ⟨later, isLater, ledLater⟩ :=
        inductionHypothesis (owned.next choice) between isBetween
      exact ⟨later, isLater, led.trans ledLater⟩

theorem Continues.lasts (continues : before.Continues after) (lasts : after.Lasts) :
    before.Lasts := by
  intro machine isLink
  obtain ⟨later, isLater, led⟩ := continues machine isLink
  exact Nat.le_trans led.accepted_grows.length_le (lasts later isLater)

/-- What has been disturbed stays disturbed. -/
theorem undisturbed_next (choice : Choice app ω ρ)
    (notDisturbed : (host.next choice).disturbed = false) : host.disturbed = false := by
  have live (turn : Turn Ender (Watcher ρ)) : (host.live turn).disturbed = host.disturbed := by
    obtain ⟨link, -, isLive⟩ := host.live_eq turn
    rw [isLive]
  cases choice with
  | call entrance spawned =>
      rw [next, call] at notDisturbed
      split at notDisturbed
      · exact notDisturbed
      · split at notDisturbed
        · exact notDisturbed
        · unfold spawn at notDisturbed
          dsimp only at notDisturbed
          split at notDisturbed <;> exact notDisturbed
  | watch =>
      rw [next, watch] at notDisturbed
      split at notDisturbed
      · rwa [← live (.register .connection)]
      · exact notDisturbed
  | settle =>
      rw [next, settle] at notDisturbed
      split at notDisturbed
      · split at notDisturbed <;> exact notDisturbed
      · exact notDisturbed
  | exit => exact notDisturbed
  | outputEnds | writeFails | goOn | register | callLate => rwa [next, live] at notDisturbed
  | stop =>
      rw [next, stop] at notDisturbed
      split at notDisturbed <;> exact notDisturbed
  | leave index =>
      rw [next, leave] at notDisturbed
      split at notDisturbed <;> exact notDisturbed
  | shut index =>
      obtain ⟨link, stops, -, -, isShut⟩ := host.shut_eq index
      rwa [next, isShut] at notDisturbed
  | work choice => exact (Bool.or_eq_false_iff.mp notDisturbed).1

theorem undisturbed_run (schedule : List (Choice app ω ρ))
    (notDisturbed : (host.run schedule).disturbed = false) : host.disturbed = false := by
  induction schedule generalizing host with
  | nil => exact notDisturbed
  | cons choice rest inductionHypothesis =>
      exact undisturbed_next choice (inductionHypothesis notDisturbed)

end Links

/-! ## What the connection is told first -/

section Judged

variable [Wire ω]

/-- How the orders to the connection and the end of its process hang together. -/
structure Judged (host : Hosting app ω ρ) : Prop where
  attained : ∀ machine, host.link = some machine → machine.Attained
  /-- A call that starts the process does not come back before the hook of the connection has run,
  if that was late. -/
  punctual : host.errand = none → ∀ waiting ∈ host.life.late, waiting.1.isConnection = false
  found : ∀ stopping ∈ host.stops, stopping.connection.isSome = true →
    host.spawned ≠ [] ∧ (stopping.ends.isSome = true → host.status.isTerminated = true)
  told : host.life.called.any Watcher.isConnection = true → host.link ≠ none → host.ending? ≠ none
  early : host.disturbed = false → host.status.isTerminated = false → host.ending? = none
  first : host.disturbed = false → ∀ failure, host.ending? = some failure →
    failure = .unavailable ∨ failure = .closed ∧ host.Overtaken

namespace Judged

variable {host : Hosting app ω ρ} {registered : List (Watcher ρ)}

theorem new (memory : app.Memory) (timeout : Option Duration) :
    Judged (Hosting.new memory timeout : Hosting app ω ρ) := by
  refine ⟨?_, ?_, ?_, ?_, fun _ _ => rfl, ?_⟩
  · intro machine isLink
    cases isLink
  · intro _ waiting isLate
    cases isLate
  · intro stopping isStopping
    cases isStopping
  · intro isCalled
    cases isCalled
  · intro _ failure isEnding
    cases isEnding

/-- When the process has been ended and the call that has started it has come back, the hook has
closed the connection. -/
theorem ended (judged : Judged host) (lived : host.Lived registered)
    (isOver : host.life.completed ≠ []) (isFree : host.errand = none)
    (isSpawned : host.spawned ≠ []) (isThere : host.link ≠ none) : host.ending? ≠ none := by
  refine judged.told ?_ isThere
  obtain ⟨exit, -, -, -, all⟩ := lived.consistent.all_called isOver
  have watched : 0 < registered.countP Watcher.isConnection := by
    have noneUnwatched : host.unwatched = 0 := by rw [unwatched, isFree]
    have count := lived.watched
    have some := List.length_pos_iff.mpr isSpawned
    omega
  obtain ⟨hook, isHook, isConnection⟩ := List.countP_pos_iff.mp watched
  rcases List.mem_append.mp (all.mem_iff.mpr isHook) with isCalled | isLate
  · exact List.any_eq_true.mpr ⟨hook, isCalled, isConnection⟩
  · obtain ⟨waiting, isWaiting, rfl⟩ := List.mem_map.mp isLate
    rw [judged.punctual isFree waiting isWaiting] at isConnection
    contradiction

/-- An order that ends all is the first one if there was none. -/
theorem ending?_order (judged : Judged host) (lasts : host.Lasts) (isThere : host.link ≠ none)
    {order : Order app} {failure : Failure}
    (ends : (Command.order order).ending? = some failure) :
    (host.touch (.act (.order order))).ending? = host.ending?.or (some failure) := by
  obtain ⟨machine, isLink⟩ := Option.ne_none_iff_exists'.mp isThere
  have sound := (judged.attained machine isLink).sound (lasts machine isLink)
  rw [Hosting.ending?, Hosting.ending?, touch, isLink]
  exact sound.ending?_order ends

/-- An order that ends all comes to the connection. -/
theorem order (judged : Judged host) (lasts : host.Lasts) {order : Order app} {failure : Failure}
    (ends : (Command.order order).ending? = some failure)
    (isOver : host.status.isTerminated = true)
    (isDue : failure = .unavailable ∨ failure = .closed ∧ host.Overtaken ∨
      (host.link ≠ none → host.ending? ≠ none)) :
    Judged (host.touch (.act (.order order))) := by
  have continues := host.continues_touch (.act (.order order))
  cases isLink : host.link with
  | none =>
      have same : host.touch (.act (.order order)) = host := by
        rw [touch, isLink, Option.map_none, ← isLink]
      rw [same]
      exact judged
  | some machine =>
      have isThere : host.link ≠ none := isLink ▸ Option.some_ne_none machine
      have ending := judged.ending?_order lasts isThere ends
      refine ⟨?_, judged.punctual, judged.found, ?_, ?_, ?_⟩
      · intro other isOther
        obtain ⟨later, isLater, led⟩ := continues machine isLink
        rw [isLater] at isOther
        cases isOther
        exact (judged.attained machine isLink).leads led
      · intro _ _
        rw [ending]
        cases host.ending? <;> exact Option.some_ne_none _
      · intro _ isOpen
        rw [show host.status.isTerminated = false from isOpen] at isOver
        contradiction
      · intro notDisturbed other isOther
        rw [ending] at isOther
        cases isFirst : host.ending? with
        | some earlier =>
            rw [isFirst] at isOther
            exact judged.first notDisturbed other (isFirst.trans isOther)
        | none =>
            rw [isFirst] at isOther
            cases isOther
            rcases isDue with isUnavailable | isClosed | isBehind
            · exact .inl isUnavailable
            · exact .inr isClosed
            · exact absurd isFirst (isBehind isThere)

/-- A turn at the process. -/
theorem turn (judged : Judged host) (lived : host.Lived registered)
    (turn : Turn Ender (Watcher ρ))
    (noHook : host.errand = none → turn.hook?.all (!·.isConnection) = true)
    (told : (host.life.next turn).called.any Watcher.isConnection = true → host.link ≠ none →
      host.ending? ≠ none) :
    Judged { host with life := host.life.next turn } := by
  have isLeft (isOver : host.status.isTerminated = true) :
      (host.life.next turn).status.isTerminated = true :=
    Status.isTerminated_of_moves (lived.consistent.status_run [turn]) isOver
  refine ⟨judged.attained, ?_, ?_, told, ?_, judged.first⟩
  · intro isFree waiting isLate
    rcases host.life.late_next turn isLate with wasLate | isHook
    · exact judged.punctual isFree waiting wasLate
    · have notConnection := noHook isFree
      rw [isHook] at notConnection
      simpa using notConnection
  · intro stopping isStopping isSome
    obtain ⟨isSpawned, isOver⟩ := judged.found stopping isStopping isSome
    exact ⟨isSpawned, fun tried => isLeft (isOver tried)⟩
  · intro notDisturbed isOpen
    refine judged.early notDisturbed (Bool.eq_false_iff.mpr fun wasOver => ?_)
    rw [status, isLeft wasOver] at isOpen
    contradiction

theorem live (judged : Judged host) (lived : host.Lived registered) (lasts : host.Lasts)
    (turn : Turn Ender (Watcher ρ))
    (noHook : host.errand = none → turn.hook?.all (!·.isConnection) = true) :
    Judged (host.live turn) := by
  obtain ⟨more, grows⟩ := host.life.called_next turn
  have isLive : host.live turn =
      if more.any Watcher.isConnection then
        { host.touch (.act (.arrive .lost)) with life := host.life.next turn }
      else { host with life := host.life.next turn } := by
    rw [Hosting.live, grows, List.drop_left]
    rfl
  rw [isLive]
  cases closes : more.any Watcher.isConnection with
  | false =>
      refine judged.turn lived turn noHook fun isCalled => judged.told ?_
      rwa [grows, List.any_append, closes, Bool.or_false] at isCalled
  | true =>
      have isOver : host.status.isTerminated = true := by
        refine Bool.eq_true_of_not_eq_false fun isOpen => ?_
        have noMore := Lifetime.called_next_of_open lived.consistent isOpen turn
        rw [grows, List.append_right_eq_self] at noMore
        rw [noMore] at closes
        contradiction
      have ends : (Command.order (.close .unavailable : Order app)).ending? = some .unavailable :=
        rfl
      have closed := judged.order lasts ends isOver (.inl rfl)
      refine closed.turn ⟨lived.consistent, lived.watched⟩ turn noHook fun _ isThere => ?_
      have wasThere : host.link ≠ none := fun noLink => isThere (by rw [touch, noLink]; rfl)
      rw [judged.ending?_order lasts wasThere ends]
      cases host.ending? <;> exact Option.some_ne_none _

/-- The calls to stop come on. -/
theorem restop (judged : Judged host) (stops : List Stopping)
    (found : ∀ stopping ∈ stops, stopping.connection.isSome = true →
      host.spawned ≠ [] ∧ (stopping.ends.isSome = true → host.status.isTerminated = true))
    (overtaken : host.Overtaken → Overtaken { host with stops }) :
    Judged { host with stops } :=
  ⟨judged.attained, judged.punctual, found, judged.told, judged.early,
    fun notDisturbed failure isEnding =>
      (judged.first notDisturbed failure isEnding).imp_right (And.imp_right overtaken)⟩

omit [Wire ω] in
/-- A call to stop that is not done comes on, and the others stay as they are. -/
private theorem overtaken_set {index : Nat} {earlier : Stopping} (later : Stopping)
    (here : host.stops[index]? = some earlier)
    (notDone : ∀ name, earlier ≠ ⟨some name, some false, true⟩) (overtaken : host.Overtaken) :
    Overtaken { host with stops := host.stops.set index later } := by
  obtain ⟨other, name, isOther⟩ := overtaken
  refine ⟨other, name, ?_⟩
  have apart : index ≠ other := by
    rintro rfl
    exact notDone name (Option.some.inj (here.symm.trans isOther))
  rwa [List.getElem?_set_ne apart]

theorem leave (judged : Judged host) (owned : Owned host) (lived : host.Lived registered)
    (index : Nat) : Judged (host.leave index) := by
  unfold Hosting.leave
  split
  · rename_i connection done here
    have sameCalls : (host.life.leave (.stop index)).2.calls = host.life.calls := by
      unfold Lifetime.leave
      split <;> rfl
    have left := judged.turn lived (.leave (.stop index)) (fun _ => rfl) fun isCalled =>
      judged.told (by rwa [Lifetime.next, Lifetime.called, sameCalls] at isCalled)
    refine left.restop _ ?_ (overtaken_set _ here (by simp))
    intro stopping isStopping isSome
    rcases List.mem_or_eq_of_mem_set isStopping with wasStopping | rfl
    · exact left.found stopping wasStopping isSome
    · have isSpawned := (judged.found _ (List.mem_of_getElem? here) isSome).1
      refine ⟨isSpawned, fun _ => ?_⟩
      exact host.life.isTerminated_leave (.stop index) (owned.spawned isSpawned)
  · exact judged

theorem shut (judged : Judged host) (owned : Owned host) (lived : host.Lived registered)
    (lasts : host.Lasts) (index : Nat) : Judged (host.shut index) := by
  unfold Hosting.shut
  split
  · rename_i connection ends here
    have isStopping := List.mem_of_getElem? here
    split
    · exact judged
    · rename_i mayShut
      have stopped : Judged { host with
          stops := host.stops.set index ⟨connection, some ends, true⟩ } := by
        refine judged.restop _ ?_ (overtaken_set _ here (by simp))
        intro stopping isOther isSome
        rcases List.mem_or_eq_of_mem_set isOther with wasStopping | rfl
        · exact judged.found stopping wasStopping isSome
        · exact judged.found ⟨connection, some ends, false⟩ isStopping isSome
      dsimp only
      split
      · rename_i isSome
        obtain ⟨isSpawned, isOver⟩ := judged.found _ isStopping isSome
        have closes : (Command.order (.shutdown : Order app)).ending? = some .closed := rfl
        refine stopped.order lasts closes (isOver rfl) (.inr ?_)
        cases ends with
        | false =>
            obtain ⟨name, rfl⟩ := Option.isSome_iff_exists.mp isSome
            have inside := (List.getElem?_eq_some_iff.mp here).1
            exact .inl ⟨rfl, index, name, List.getElem?_set_self inside⟩
        | true =>
            have isEnded : host.life.completed ≠ [] := by
              intro noneCompleted
              rw [noneCompleted] at mayShut
              exact mayShut rfl
            have isFree : host.errand = none := by
              refine Option.eq_none_iff_forall_ne_some.mpr fun errand isErrand => ?_
              have isIdle := (owned.errand errand isErrand).1
              rw [owned.stopped (List.ne_nil_of_mem isStopping)] at isIdle
              contradiction
            exact .inr (judged.ended lived isEnded isFree isSpawned)
      · exact stopped
  · exact judged

/-- What happens at the connection disturbs nothing as long as it brings no order that ends all. -/
theorem work (judged : Judged host) (choice : RpcEndpoint.Choice app ω) :
    Judged (host.work choice) := by
  cases isLink : host.link with
  | none =>
      have same : host.touch choice = host := by
        rw [touch, isLink, Option.map_none, ← isLink]
      have worked : host.work choice = host := by simp [Hosting.work, same]
      rw [worked]
      exact judged
  | some machine =>
      have touched : (host.touch choice).link = some (machine.next choice) := by
        rw [touch, isLink]
        rfl
      have led : machine.Leads (machine.next choice) := machine.leads_run [choice]
      have ending : (host.work choice).ending? = (machine.next choice).ending? :=
        congrArg (·.bind Machine.ending?) touched
      have wasEnding : host.ending? = machine.ending? := by
        rw [Hosting.ending?, isLink]
        rfl
      have sameEnding (notDisturbed : (host.work choice).disturbed = false) :
          host.disturbed = false ∧ (host.work choice).ending? = host.ending? := by
        simp only [Hosting.work, touched, isLink, Option.elim_some, Bool.or_eq_false_iff,
          decide_eq_false_iff_not, not_not] at notDisturbed
        refine ⟨notDisturbed.1, ?_⟩
        obtain ⟨more, isMore⟩ := Stroke.entered_prefix (machine.stroke choice)
        have noMore := notDisturbed.2
        rw [← isMore, endingsIn_append, List.length_append, Nat.add_eq_left,
          List.length_eq_zero_iff] at noMore
        rw [ending, wasEnding, Machine.ending?, ← isMore, endingsIn_append, noMore,
          List.append_nil]
        rfl
      refine ⟨?_, judged.punctual, judged.found, ?_, ?_, ?_⟩
      · intro other isOther
        rw [show (host.work choice).link = _ from touched] at isOther
        cases isOther
        exact (judged.attained machine isLink).leads led
      · intro isCalled _
        obtain ⟨first, isFirst⟩ := Option.ne_none_iff_exists'.mp
          (judged.told isCalled (isLink ▸ Option.some_ne_none machine))
        rw [ending, led.ending?_stays (wasEnding ▸ isFirst)]
        exact Option.some_ne_none first
      · intro notDisturbed isOpen
        obtain ⟨wasNotDisturbed, same⟩ := sameEnding notDisturbed
        rw [same]
        exact judged.early wasNotDisturbed isOpen
      · intro notDisturbed failure isEnding
        obtain ⟨wasNotDisturbed, same⟩ := sameEnding notDisturbed
        rw [same] at isEnding
        exact judged.first wasNotDisturbed failure isEnding

theorem spawn (judged : Judged host) (owned : Owned host) (lived : host.Lived registered)
    (isFree : host.errand = none) (isIdle : host.phase = .idle) (entrance : Entrance)
    (spawned : Except ProcessFailure ω) : Judged (host.spawn entrance spawned) := by
  obtain ⟨noStop, unspawned⟩ := owned.idle isIdle
  have notStarted := (owned.unspawned (unspawned isFree)).1
  have isOpen : host.life.status.isTerminated = false := by
    rw [show host.life.status = _ from notStarted]
    rfl
  have noneCalled : host.life.called = [] := by
    rw [Lifetime.called, (lived.consistent.hooks_wait isOpen).2]
    rfl
  unfold Hosting.spawn Lifetime.start
  cases host.life.lifecycle.refusal? with
  | some failure =>
      exact ⟨judged.attained, judged.punctual, judged.found, judged.told, judged.early,
        judged.first⟩
  | none =>
      cases spawned with
      | error failure =>
          exact ⟨judged.attained, judged.punctual, judged.found, judged.told, judged.early,
            judged.first⟩
      | ok wire =>
          refine ⟨?_, ?_, ?_, ?_, fun _ _ => rfl, ?_⟩
          · rintro machine ⟨⟩
            exact ⟨wire, host.memory, host.timeout, .refl⟩
          · intro isFree
            contradiction
          · intro stopping isStopping
            rw [show host.stops = _ from noStop] at isStopping
            contradiction
          · intro isCalled
            have wasCalled : host.life.called.any Watcher.isConnection = true := isCalled
            rw [noneCalled] at wasCalled
            contradiction
          · intro _ failure isEnding
            cases isEnding

theorem next (judged : Judged host) (owned : Owned host) (lived : host.Lived registered)
    (lasts : host.Lasts) (choice : Choice app ω ρ) : Judged (host.next choice) := by
  cases choice with
  | call entrance spawned =>
      rw [Hosting.next, Hosting.call]
      split
      · exact judged
      · rename_i isFree
        split
        · exact ⟨judged.attained, judged.punctual, judged.found, judged.told, judged.early,
            judged.first⟩
        · rename_i noVerdict
          refine judged.spawn owned lived isFree ?_ entrance spawned
          cases isPhase : host.phase with
          | idle => rfl
          | running | stopped => cases entrance <;> simp [isPhase, Phase.verdict?] at noVerdict
  | watch =>
      rw [Hosting.next, Hosting.watch]
      split
      · rename_i entrance name isErrand
        have isBusy : host.errand ≠ none := isErrand ▸ Option.some_ne_none _
        have watched := judged.live lived lasts (.register .connection) (absurd · isBusy)
        refine ⟨watched.attained, fun isFree => ?_, watched.found, watched.told, watched.early,
          watched.first⟩
        contradiction
      · exact judged
  | settle =>
      rw [Hosting.next, Hosting.settle]
      split
      · split
        · exact judged
        · rename_i noneLate
          refine ⟨judged.attained, fun _ waiting isWaiting => ?_, judged.found, judged.told,
            judged.early, judged.first⟩
          refine Bool.eq_false_iff.mpr fun isConnection => noneLate ?_
          exact List.any_eq_true.mpr ⟨waiting, isWaiting, isConnection⟩
      · exact judged
  | exit =>
      exact ⟨judged.attained, judged.punctual, judged.found, judged.told, judged.early,
        judged.first⟩
  | outputEnds | writeFails | goOn | register | callLate =>
      exact judged.live lived lasts _ fun _ => rfl
  | stop =>
      rw [Hosting.next, Hosting.stop]
      split
      · exact judged
      · refine ⟨judged.attained, judged.punctual, ?_, judged.told, judged.early, ?_⟩
        · intro stopping isStopping isSome
          rcases List.mem_append.mp isStopping with wasStopping | isNew
          · exact judged.found stopping wasStopping isSome
          · rw [List.mem_singleton.mp isNew] at isSome ⊢
            obtain ⟨name, isName⟩ := Option.isSome_iff_exists.mp isSome
            have isSpawned := owned.connected isName
            refine ⟨isSpawned ▸ List.cons_ne_nil name [], fun hasTried => ?_⟩
            contradiction
        · intro notDisturbed failure isEnding
          refine (judged.first notDisturbed failure isEnding).imp_right (And.imp_right ?_)
          rintro ⟨index, name, here⟩
          refine ⟨index, name, ?_⟩
          have inside := (List.getElem?_eq_some_iff.mp here).1
          rwa [List.getElem?_append_left inside]
  | leave index => exact judged.leave owned lived index
  | shut index => exact judged.shut owned lived lasts index
  | work choice => exact judged.work choice

theorem run (judged : Judged host) (owned : Owned host) (lived : host.Lived registered)
    (schedule : List (Choice app ω ρ)) (lasts : (host.run schedule).Lasts) :
    Judged (host.run schedule) := by
  induction schedule generalizing host registered with
  | nil => exact judged
  | cons choice rest inductionHypothesis =>
      have ownedNext := owned.next choice
      have lastsNext : (host.next choice).Lasts := (continues_run ownedNext rest).lasts lasts
      have lastsNow : host.Lasts := (continues_next owned choice).lasts lastsNext
      obtain ⟨more, livedNext⟩ := lived.next choice
      exact inductionHypothesis (judged.next owned lived lastsNow choice) ownedNext livedNext lasts

end Judged

/-! ## What the requests come to -/

/-- A request that the wire has accepted before the process is left, and that nobody has answered,
has one outcome at the most. If that is a failure, the request was cancelled or late, or its peer is
gone, unless a call to stop has found the process left by somebody else and has shut down the
connection ahead of the hook. When the process has been ended, the call that has started it has come
back, and the connection has nothing left to do, the request has its outcome. Nobody else may close
the connection, and identifiers must not start over. -/
theorem process_end_fails_requests (memory : app.Memory) (timeout : Option Duration)
    (earlier later : List (Choice app ω ρ)) {machine reached : Machine app ω} {id : MessageId} :
    let before := (new memory timeout : Hosting app ω ρ).run earlier
    let after := before.run later
    before.link = some machine → after.link = some reached →
    before.status.isTerminated = false →
    id ∈ sentIn machine.history → id ∈ machine.awaited →
    after.disturbed = false → reached.accepted.length ≤ 2 ^ 64 →
    reached.completed.count id ≤ 1 ∧
      (∀ failure, (id, .error failure) ∈ reached.connection.outcomes →
        failure.isOwn = true ∨ failure = .unavailable ∨
          failure = .closed ∧ reached.ending? = some .closed ∧ after.Overtaken) ∧
      (after.life.completed ≠ [] → after.errand = none →
        reached.agenda = [] → reached.connection.inbox = [] →
          ∃ outcome, (id, outcome) ∈ reached.connection.outcomes) := by
  intro before after isLink isReached isOpen isSent isAwaited notDisturbed bound
  have ownedBefore : Owned before := (Owned.new memory timeout).run earlier
  have owned : Owned after := ownedBefore.run later
  obtain ⟨registeredBefore, livedBefore⟩ := lived_run (ρ := ρ) memory timeout earlier
  obtain ⟨more, lived⟩ := livedBefore.run later
  have lasts : after.Lasts := by
    intro other isOther
    rw [isReached] at isOther
    cases isOther
    exact bound
  have lastsBefore : before.Lasts := (continues_run ownedBefore later).lasts lasts
  have fresh : (new memory timeout : Hosting app ω ρ).Lived [] := ⟨.before .notStarted rfl [], rfl⟩
  have judgedBefore : Judged before :=
    (Judged.new memory timeout).run (Owned.new memory timeout) fresh earlier lastsBefore
  have judged : Judged after := judgedBefore.run ownedBefore livedBefore later lasts
  -- The connection has gone on, and had no order to end all when the request was pending.
  obtain ⟨last, isLast, led⟩ := continues_run ownedBefore later machine isLink
  obtain rfl : last = reached := Option.some.inj (isLast.symm.trans isReached)
  have sound := (judged.attained last isReached).sound bound
  have noEnding : machine.ending? = none := by
    have isEarly := judgedBefore.early (undisturbed_run later notDisturbed) isOpen
    rwa [ending?, isLink] at isEarly
  have soundBefore := (judgedBefore.attained machine isLink).sound (lastsBefore machine isLink)
  have noneTaken : endingsIn machine.taken = [] := by
    obtain ⟨waiting, entered, -⟩ := soundBefore.tracked.ledger.inbox
    rw [Machine.ending?, entered, endingsIn_append, List.head?_eq_none_iff] at noEnding
    exact (List.append_eq_nil_iff.mp noEnding).1
  have decided : Decided last id :=
    .of_awaited soundBefore isSent isAwaited noneTaken led bound
  have ledger := sound.tracked.ledger
  have sameEnding : after.ending? = last.ending? := by
    rw [ending?, isReached]
    rfl
  refine ⟨?_, ?_, ?_⟩
  · exact List.nodup_iff_count_le_one.mp (ledger.nodup_everywhere bound).of_append_right id
  · intro failure isOutcome
    refine (decided.outcome ledger isOutcome).imp_right fun isFirst => ?_
    have isFirst : after.ending? = some failure := sameEnding.trans isFirst
    refine (judged.first notDisturbed failure isFirst).imp_right ?_
    rintro ⟨rfl, overtaken⟩
    exact ⟨rfl, sameEnding.symm.trans isFirst, overtaken⟩
  · intro isOver isFree isIdle nothingWaits
    have isThere : after.link ≠ none := isReached ▸ Option.some_ne_none last
    have isSpawned : after.spawned ≠ [] := fun isEmpty =>
      isThere (owned.unspawned isEmpty).2.1
    have isEnded := judged.ended lived isOver isFree isSpawned isThere
    rw [sameEnding] at isEnded
    have isCompleted := decided.completed sound isIdle nothingWaits isEnded
    obtain ⟨⟨_, outcome⟩, isOutcome, rfl⟩ := List.mem_map.mp isCompleted
    exact ⟨outcome, isOutcome⟩

end Judged

/-! ## Ahead of the hook -/

/-- A host starts its process, and a request is sent. -/
def askOnce : List (Choice bare (MemoryWire Unit) Unit) :=
  [.call .start (.ok .new), .watch, .settle,
    .work (.act (.request "shutdown" (.ok none) .none (.mailbox .any))), .work .take, .work .work,
    .work .work, .work .work, .work .work]

/-- The worker of the connection carries out a command. -/
def carryOut : List (Choice bare (MemoryWire Unit) Unit) :=
  .work .take :: List.replicate 6 (.work .work)

/-- The output of the process ends. While it is seen off, the host is stopped. -/
def stopMeanwhile : List (Choice bare (MemoryWire Unit) Unit) :=
  [.outputEnds, .stop, .leave 0, .shut 0] ++ carryOut

/-- The output of the process ends, the hooks are called, and then the host is stopped. -/
def stopBehind : List (Choice bare (MemoryWire Unit) Unit) :=
  [.outputEnds, .goOn 0 none, .goOn 0 none, .goOn 0 none, .goOn 0 none, .stop, .leave 0,
    .shut 0] ++ carryOut ++ carryOut

/-- Whether a request has failed as if its sender had shut down the connection. -/
def isShutOut (id : MessageId) (machine : Machine bare (MemoryWire Unit)) : Bool :=
  machine.connection.outcomes.any fun
    | (other, .error .closed) => other = id
    | _ => false

/-- The call to stop does not wait for the hook, and so the request does not fail because its peer
is gone. -/
theorem stop_overtakes_hook :
    let before := (new () none).run askOnce
    let after := before.run stopMeanwhile
    before.status = .running ∧ before.link.any (fun machine => machine.awaited = [.number 1]) ∧
      after.status = .terminated none ∧ after.disturbed = false ∧
      after.link.any (isShutOut (.number 1)) := by
  refine ⟨rfl, ?_, rfl, ?_, ?_⟩ <;> decide +kernel

/-- Behind the hook the call to stop changes nothing. -/
theorem stop_behind_hook :
    let before := (new () none).run askOnce
    let after := before.run stopBehind
    ∃ machine reached, before.link = some machine ∧ after.link = some reached ∧
      before.status = .running ∧ .number 1 ∈ machine.awaited ∧
      after.life.completed = [.reader] ∧ after.disturbed = false ∧
      reached.completed.count (.number 1) ≤ 1 ∧
      (∀ failure, (.number 1, .error failure) ∈ reached.connection.outcomes →
        failure.isOwn = true ∨ failure = .unavailable ∨
          failure = .closed ∧ reached.ending? = some .closed ∧ after.Overtaken) ∧
      ∃ outcome, (.number 1, outcome) ∈ reached.connection.outcomes := by
  intro before after
  obtain ⟨machine, isLink⟩ : ∃ machine, before.link = some machine :=
    Option.isSome_iff_exists.mp (by decide +kernel)
  obtain ⟨reached, isReached⟩ : ∃ reached, after.link = some reached :=
    Option.isSome_iff_exists.mp (by decide +kernel)
  have pending : before.link.any (fun machine =>
      decide (.number 1 ∈ sentIn machine.history) && decide (.number 1 ∈ machine.awaited)) := by
    decide +kernel
  have atRest : after.link.any (fun reached => decide (reached.accepted.length ≤ 2 ^ 64) &&
      reached.agenda.isEmpty && reached.connection.inbox.isEmpty) := by
    decide +kernel
  rw [isLink, Option.any_some, Bool.and_eq_true, decide_eq_true_iff, decide_eq_true_iff] at pending
  rw [isReached, Option.any_some, Bool.and_eq_true, Bool.and_eq_true, decide_eq_true_iff,
    List.isEmpty_iff, List.isEmpty_iff] at atRest
  obtain ⟨isSent, isAwaited⟩ := pending
  obtain ⟨⟨bound, isIdle⟩, nothingWaits⟩ := atRest
  have notDisturbed : after.disturbed = false := by decide +kernel
  have isRunning : before.status = .running := rfl
  have isOver : after.life.completed = [.reader] := by decide +kernel
  have isFree : after.errand = none := Option.isNone_iff_eq_none.mp (by decide +kernel)
  have isOpen : before.status.isTerminated = false := by rw [isRunning]; rfl
  have isEnded : (((new () none).run askOnce).run stopBehind).life.completed ≠ [] := by
    decide +kernel
  have judgement := @process_end_fails_requests bare (MemoryWire Unit) Unit _ () none askOnce
    stopBehind machine reached (.number 1) isLink isReached isOpen isSent isAwaited notDisturbed bound
  refine ⟨machine, reached, isLink, isReached, isRunning, isAwaited, isOver, notDisturbed,
    judgement.1, judgement.2.1, ?_⟩
  exact judgement.2.2 isEnded isFree isIdle nothingWaits

end Hosting

end RpcEndpoint
