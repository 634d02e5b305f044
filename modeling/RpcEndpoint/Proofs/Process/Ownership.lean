import RpcEndpoint.Proofs.Process.Hosting

/-!
# A host owns one process

However threads start a host, ask for its connection and stop it, and whenever the process ends:
one process is started at the most, and all who are given a connection are given the same.
-/

namespace RpcEndpoint

namespace Lifetime

variable {κ η : Type}

/-- Only a start takes a process out of its first state. -/
theorem status_next_eq_notStarted_iff
    (lifetime : Lifetime κ η) (turn : Turn κ η) (noStart : ∀ spawned, turn ≠ .start spawned) :
    (lifetime.next turn).status = .notStarted ↔ lifetime.status = .notStarted := by
  cases turn with
  | start spawned => exact absurd rfl (noStart spawned)
  | leave who =>
      simp only [next, leave, Lifecycle.leave, status]
      cases isStatus : lifetime.lifecycle.status <;> simp [isStatus]
  | goOn index exit =>
      simp only [next, goOn]
      split
      · rfl
      · simp only [status, Lifecycle.reap]
        cases isStatus : lifetime.lifecycle.status <;> simp [isStatus]
      · simp only [status, Lifecycle.release]
        cases lifetime.lifecycle.told <;> rfl
      · rfl
      · rfl
  | register hook => rw [next, status_register]
  | callLate index => rw [next, status_callLate]

end Lifetime

namespace Hosting

variable {app : Application} {ω ρ : Type}

/-! ## What choices leave alone -/

section Choices

variable [Wire ω]

/-- A turn at the process changes nothing else but the connection, if there is one. -/
theorem live_eq (host : Hosting app ω ρ) (turn : Turn Ender (Watcher ρ)) :
    ∃ link, link.isSome = host.link.isSome ∧
      host.live turn = { host with life := host.life.next turn, link } := by
  unfold live
  extract_lets life called lived
  split
  · exact ⟨_, Option.isSome_map, rfl⟩
  · exact ⟨host.link, rfl, rfl⟩

/-- What a call to shut down leaves alone. -/
theorem shut_eq (host : Hosting app ω ρ) (index : Nat) :
    ∃ link stops, link.isSome = host.link.isSome ∧ stops.length = host.stops.length ∧
      host.shut index = { host with link, stops } := by
  have same : ∃ link stops, link.isSome = host.link.isSome ∧ stops.length = host.stops.length ∧
      host = { host with link, stops } := ⟨host.link, host.stops, rfl, rfl, rfl⟩
  unfold shut
  split
  · split
    · exact same
    · split
      · exact ⟨_, _, Option.isSome_map, List.length_set, rfl⟩
      · exact ⟨_, _, rfl, List.length_set, rfl⟩
  · exact same

end Choices

/-! ## What a host has -/

/-- How a host, its process and its answers hang together. -/
structure Owned (host : Hosting app ω ρ) : Prop where
  unspawned : host.spawned = [] →
    host.status = .notStarted ∧ host.link = none ∧ host.errand = none
  spawned : host.spawned ≠ [] → host.status ≠ .notStarted
  once : host.spawned.length ≤ 1
  idle : host.phase = .idle → host.stops = [] ∧ (host.errand = none → host.spawned = [])
  errand : ∀ errand, host.errand = some errand →
    host.phase = .idle ∧ host.spawned = [errand.name]
  running : ∀ name, host.phase = .running name → host.spawned = [name]
  granted : ∀ entrance name, (entrance, .ok name) ∈ host.answers → host.spawned = [name]
  stopped : host.stops ≠ [] → host.phase = .stopped

namespace Owned

variable {host : Hosting app ω ρ}

theorem new (memory : app.Memory) (timeout : Option Duration) :
    Owned (Hosting.new memory timeout : Hosting app ω ρ) := by
  refine ⟨fun _ => ⟨rfl, rfl, rfl⟩, absurd rfl, Nat.zero_le 1, fun _ => ⟨rfl, fun _ => rfl⟩, ?_, ?_,
    ?_, absurd rfl⟩ <;> simp [Hosting.new]

/-- The connection of a host is that for which the process was started. -/
theorem connected (owned : Owned host) {name : Nat} (isName : host.connection? = some name) :
    host.spawned = [name] := by
  refine owned.running name ?_
  cases isPhase : host.phase with
  | idle | stopped => simp [connection?, isPhase, Phase.connection?] at isName
  | running connection =>
      rw [connection?, isPhase] at isName
      rw [Option.some.inj isName]

/-- A call that comes back without a process. -/
theorem answer (owned : Owned host) (entrance : Entrance) {outcome : Except ProcessFailure Nat}
    (isOwn : ∀ name, outcome = .ok name → host.spawned = [name]) :
    Owned (host.answer entrance outcome) := by
  refine ⟨owned.unspawned, owned.spawned, owned.once, owned.idle, owned.errand, owned.running, ?_,
    owned.stopped⟩
  intro other name isAnswer
  rcases List.mem_append.mp isAnswer with wasAnswer | isNew
  · exact owned.granted other name wasAnswer
  · exact isOwn name (Prod.mk.inj (List.mem_singleton.mp isNew)).2.symm

/-- A call that starts the process, or does not. -/
theorem spawn (owned : Owned host) (isFree : host.errand = none) (isIdle : host.phase = .idle)
    (entrance : Entrance) (spawned : Except ProcessFailure ω) :
    Owned (host.spawn entrance spawned) := by
  obtain ⟨noStop, unspawned⟩ := owned.idle isIdle
  have isEmpty := unspawned isFree
  obtain ⟨notStarted, noLink, -⟩ := owned.unspawned isEmpty
  have mayStart : host.life.lifecycle.refusal? = none := by
    rw [Lifecycle.refusal?, show host.life.lifecycle.status = _ from notStarted]
  have noGrant (entrance name) : (entrance, Except.ok name) ∉ host.answers := fun isAnswer => by
    have one := owned.granted entrance name isAnswer
    rw [isEmpty] at one
    contradiction
  unfold Hosting.spawn Lifetime.start
  rw [mayStart]
  cases spawned with
  | error failure =>
      have counted : Owned { host with attempts := host.attempts + 1 } :=
        ⟨owned.unspawned, owned.spawned, owned.once, owned.idle, owned.errand, owned.running,
          owned.granted, owned.stopped⟩
      exact counted.answer entrance nofun
  | ok wire =>
      dsimp only
      rw [isEmpty]
      refine ⟨nofun, fun _ => nofun, Nat.le_refl 1, fun _ => ⟨noStop, nofun⟩, ?_, ?_, ?_, ?_⟩
      · rintro errand ⟨⟩
        exact ⟨isIdle, rfl⟩
      · intro name isRunning
        rw [show host.phase = _ from isRunning] at isIdle
        contradiction
      · intro other name isAnswer
        exact absurd isAnswer (noGrant other name)
      · exact fun hasStopped => absurd noStop hasStopped

theorem call (owned : Owned host) (entrance : Entrance) (spawned : Except ProcessFailure ω) :
    Owned (host.call entrance spawned) := by
  unfold Hosting.call
  cases isFree : host.errand with
  | some errand => exact owned
  | none =>
      dsimp only
      cases isPhase : host.phase with
      | idle => exact owned.spawn isFree isPhase entrance spawned
      | stopped => exact owned.answer entrance nofun
      | running connection =>
          cases entrance with
          | start => exact owned.answer .start nofun
          | getOrStart =>
              refine owned.answer .getOrStart fun name isOk => ?_
              split at isOk
              · contradiction
              · rw [owned.running connection isPhase, Except.ok.inj isOk]

theorem settle (owned : Owned host) : Owned host.settle := by
  unfold Hosting.settle
  split
  · rename_i entrance name isErrand
    obtain ⟨isIdle, isSpawned⟩ := owned.errand _ isErrand
    have noStop := (owned.idle isIdle).1
    split
    · exact owned
    · have free : Owned { host with phase := .running name, errand := none } := by
        refine ⟨fun isEmpty => ?_, owned.spawned, owned.once, by simp, by simp, ?_, owned.granted,
          fun hasStopped => absurd noStop hasStopped⟩
        · obtain ⟨notStarted, noLink, -⟩ := owned.unspawned isEmpty
          exact ⟨notStarted, noLink, rfl⟩
        · rintro other ⟨⟩
          exact isSpawned
      refine free.answer entrance ?_
      rintro other ⟨⟩
      exact isSpawned
  · exact owned

theorem stop (owned : Owned host) : Owned host.stop := by
  unfold Hosting.stop
  split
  · exact owned
  · rename_i isFree
    refine ⟨owned.unspawned, owned.spawned, owned.once, by simp, ?_, by simp, owned.granted,
      fun _ => rfl⟩
    intro errand isErrand
    rw [show host.errand = _ from isErrand] at isFree
    contradiction

theorem leave (owned : Owned host) (index : Nat) : Owned (host.leave index) := by
  unfold Hosting.leave
  split
  · rename_i connection done here
    have sameStatus : (host.life.leave (.stop index)).2.status = .notStarted ↔
        host.life.status = .notStarted :=
      host.life.status_next_eq_notStarted_iff (.leave (.stop index)) nofun
    refine ⟨fun isEmpty => ?_, fun notEmpty => ?_, owned.once, fun isIdle => ?_, owned.errand,
      owned.running, owned.granted, fun hasStopped => owned.stopped fun noStop => ?_⟩
    · obtain ⟨notStarted, noLink, noErrand⟩ := owned.unspawned isEmpty
      exact ⟨sameStatus.mpr notStarted, noLink, noErrand⟩
    · exact fun notStarted => owned.spawned notEmpty (sameStatus.mp notStarted)
    · obtain ⟨noStop, unspawned⟩ := owned.idle isIdle
      rw [noStop] at here
      contradiction
    · rw [noStop] at here
      contradiction
  · exact owned

variable [Wire ω]

theorem live (owned : Owned host) (turn : Turn Ender (Watcher ρ))
    (noStart : ∀ spawned, turn ≠ .start spawned) : Owned (host.live turn) := by
  obtain ⟨link, sameLink, isLive⟩ := host.live_eq turn
  have sameStatus := host.life.status_next_eq_notStarted_iff turn noStart
  rw [isLive]
  refine ⟨fun isEmpty => ?_, fun notEmpty => ?_, owned.once, owned.idle, owned.errand,
    owned.running, owned.granted, owned.stopped⟩
  · obtain ⟨notStarted, noLink, noErrand⟩ := owned.unspawned isEmpty
    refine ⟨sameStatus.mpr notStarted, ?_, noErrand⟩
    rw [noLink] at sameLink
    exact Option.isNone_iff_eq_none.mp (Option.isSome_eq_false_iff.mp sameLink)
  · exact fun notStarted => owned.spawned notEmpty (sameStatus.mp notStarted)

theorem touch (owned : Owned host) (choice : RpcEndpoint.Choice app ω) :
    Owned (host.touch choice) := by
  refine ⟨fun isEmpty => ?_, owned.spawned, owned.once, owned.idle, owned.errand, owned.running,
    owned.granted, owned.stopped⟩
  obtain ⟨notStarted, noLink, noErrand⟩ := owned.unspawned isEmpty
  refine ⟨notStarted, ?_, noErrand⟩
  rw [Hosting.touch, noLink]
  rfl

theorem shut (owned : Owned host) (index : Nat) : Owned (host.shut index) := by
  obtain ⟨link, stops, sameLink, sameLength, isShut⟩ := host.shut_eq index
  have sameStops : stops = [] ↔ host.stops = [] := by
    rw [← List.length_eq_zero_iff, sameLength, List.length_eq_zero_iff]
  rw [isShut]
  refine ⟨fun isEmpty => ?_, owned.spawned, owned.once, fun isIdle => ?_, owned.errand,
    owned.running, owned.granted, fun hasStopped => owned.stopped (mt sameStops.mpr hasStopped)⟩
  · obtain ⟨notStarted, noLink, noErrand⟩ := owned.unspawned isEmpty
    rw [noLink] at sameLink
    exact ⟨notStarted, Option.isNone_iff_eq_none.mp (Option.isSome_eq_false_iff.mp sameLink),
      noErrand⟩
  · obtain ⟨noStop, unspawned⟩ := owned.idle isIdle
    exact ⟨sameStops.mpr noStop, unspawned⟩

theorem watch (owned : Owned host) : Owned host.watch := by
  unfold Hosting.watch
  split
  · rename_i entrance name isErrand
    obtain ⟨isIdle, isSpawned⟩ := owned.errand _ isErrand
    have lived := owned.live (.register .connection) nofun
    obtain ⟨link, -, isLive⟩ := host.live_eq (.register .connection)
    rw [isLive] at lived ⊢
    refine ⟨fun isEmpty => ?_, lived.spawned, lived.once, fun _ => ⟨(owned.idle isIdle).1, nofun⟩,
      ?_, lived.running, lived.granted, lived.stopped⟩
    · rw [show host.spawned = _ from isEmpty] at isSpawned
      contradiction
    · rintro errand ⟨⟩
      exact ⟨isIdle, isSpawned⟩
  · exact owned

theorem work (owned : Owned host) (choice : RpcEndpoint.Choice app ω) :
    Owned (host.work choice) := by
  have touched := owned.touch choice
  exact ⟨touched.unspawned, touched.spawned, touched.once, touched.idle, touched.errand,
    touched.running, touched.granted, touched.stopped⟩

theorem next (owned : Owned host) (choice : Choice app ω ρ) : Owned (host.next choice) := by
  cases choice with
  | call entrance spawned => exact owned.call entrance spawned
  | watch => exact owned.watch
  | settle => exact owned.settle
  | exit =>
      exact ⟨owned.unspawned, owned.spawned, owned.once, owned.idle, owned.errand, owned.running,
        owned.granted, owned.stopped⟩
  | outputEnds | writeFails | goOn | register | callLate => exact owned.live _ nofun
  | stop => exact owned.stop
  | leave index => exact owned.leave index
  | shut index => exact owned.shut index
  | work choice => exact owned.work choice

theorem run (owned : Owned host) (schedule : List (Choice app ω ρ)) :
    Owned (host.run schedule) := by
  induction schedule generalizing host with
  | nil => exact owned
  | cons choice rest inductionHypothesis => exact inductionHypothesis (owned.next choice)

end Owned

/-! ## The process of a host -/

/-- How many calls have started the process and have not registered the hook of the connection. -/
def unwatched (host : Hosting app ω ρ) : Nat :=
  match host.errand with
  | some ⟨_, _, false⟩ => 1
  | _ => 0

/-- What a choice does at the process are turns; each process gets the hook of its connection
once. -/
def Takes (before after : Hosting app ω ρ) : Prop :=
  ∃ turns, after.life = before.life.run turns ∧
    (hooksIn turns).countP Watcher.isConnection + after.unwatched + before.spawned.length =
      before.unwatched + after.spawned.length

private theorem takes_none {before after : Hosting app ω ρ}
    (sameLife : after.life = before.life) (sameErrand : after.unwatched = before.unwatched)
    (sameSpawned : after.spawned = before.spawned) : before.Takes after := by
  refine ⟨[], sameLife, ?_⟩
  rw [sameErrand, sameSpawned]
  exact congrArg (· + _) (Nat.zero_add _)

private theorem takes_spawn (host : Hosting app ω ρ) (isFree : host.errand = none)
    (entrance : Entrance) (spawned : Except ProcessFailure ω) :
    host.Takes (host.spawn entrance spawned) := by
  unfold spawn Lifetime.start
  cases refused : host.life.lifecycle.refusal? with
  | some failure => exact takes_none rfl rfl rfl
  | none =>
      cases spawned with
      | error failure => exact takes_none rfl rfl rfl
      | ok wire =>
          refine ⟨[.start (.ok ())], ?_, ?_⟩
          · simp [Lifetime.run, Lifetime.next, Lifetime.start, refused]
          · simp [hooksIn, Turn.hook?, unwatched, isFree, Nat.add_comm]

variable [Wire ω]

private theorem takes_live (host : Hosting app ω ρ) (turn : Turn Ender (Watcher ρ))
    (noHook : turn.hook?.all (!·.isConnection)) : host.Takes (host.live turn) := by
  obtain ⟨link, -, isLive⟩ := host.live_eq turn
  refine ⟨[turn], ?_, ?_⟩
  · rw [isLive]
    rfl
  · rw [isLive, hooksIn_cons]
    cases isHook : turn.hook? with
    | none => simp [hooksIn, unwatched]
    | some hook => simp_all [hooksIn, unwatched]

theorem takes_next (host : Hosting app ω ρ) (choice : Choice app ω ρ) :
    host.Takes (host.next choice) := by
  have still : host.Takes host := takes_none rfl rfl rfl
  cases choice with
  | call entrance spawned =>
      rw [next, call]
      split
      · exact still
      · rename_i isFree
        split
        · exact takes_none rfl rfl rfl
        · exact host.takes_spawn isFree entrance spawned
  | watch =>
      rw [next, watch]
      split
      · rename_i entrance name isErrand
        obtain ⟨link, -, isLive⟩ := host.live_eq (.register .connection)
        refine ⟨[.register .connection], ?_, ?_⟩
        · rw [isLive]
          rfl
        · rw [isLive]
          simp [hooksIn, Turn.hook?, Watcher.isConnection, unwatched, isErrand, List.countP_cons]
      · exact still
  | settle =>
      rw [next, settle]
      split
      · rename_i entrance name isErrand
        split
        · exact still
        · refine takes_none rfl ?_ rfl
          simp [unwatched, isErrand, answer]
      · exact still
  | exit => exact takes_none rfl rfl rfl
  | outputEnds | writeFails | goOn | register | callLate => exact host.takes_live _ rfl
  | stop =>
      rw [next, stop]
      split
      · exact still
      · exact takes_none rfl rfl rfl
  | leave index =>
      rw [next, leave]
      split
      · exact ⟨[.leave (.stop index)], rfl, by simp [hooksIn, Turn.hook?, unwatched]⟩
      · exact still
  | shut index =>
      obtain ⟨link, stops, -, -, isShut⟩ := host.shut_eq index
      rw [next, isShut]
      exact takes_none rfl rfl rfl
  | work choice => exact takes_none rfl rfl rfl

/-- The process of a host is consistent, and it has the hook of each connection, or of each but that
of the call that is about to register it. -/
structure Lived (host : Hosting app ω ρ) (registered : List (Watcher ρ)) : Prop where
  consistent : Lifetime.Consistent registered host.life
  watched : registered.countP Watcher.isConnection + host.unwatched = host.spawned.length

theorem Lived.next {host : Hosting app ω ρ} {registered : List (Watcher ρ)}
    (lived : host.Lived registered) (choice : Choice app ω ρ) :
    ∃ more, (host.next choice).Lived (registered ++ more) := by
  obtain ⟨turns, life, balance⟩ := host.takes_next choice
  refine ⟨hooksIn turns, ?_, ?_⟩
  · rw [life]
    exact lived.consistent.run turns
  · have watched := lived.watched
    rw [List.countP_append]
    omega

theorem Lived.run {host : Hosting app ω ρ} {registered : List (Watcher ρ)}
    (lived : host.Lived registered) (schedule : List (Choice app ω ρ)) :
    ∃ more, (host.run schedule).Lived (registered ++ more) := by
  induction schedule generalizing host registered with
  | nil => exact ⟨[], by rwa [List.append_nil]⟩
  | cons choice rest inductionHypothesis =>
      obtain ⟨first, livedNext⟩ := lived.next choice
      obtain ⟨later, livedLater⟩ := inductionHypothesis livedNext
      exact ⟨first ++ later, by rwa [← List.append_assoc]⟩

theorem lived_run (memory : app.Memory) (timeout : Option Duration)
    (schedule : List (Choice app ω ρ)) :
    ∃ registered, ((new memory timeout).run schedule).Lived registered := by
  have fresh : (new memory timeout : Hosting app ω ρ).Lived [] := ⟨.before .notStarted rfl [], rfl⟩
  exact fresh.run schedule

theorem Lived.isTerminated_next {host : Hosting app ω ρ} {registered : List (Watcher ρ)}
    (lived : host.Lived registered) (isOver : host.status.isTerminated = true)
    (choice : Choice app ω ρ) : (host.next choice).status.isTerminated = true := by
  obtain ⟨turns, life, -⟩ := host.takes_next choice
  rw [status, life]
  exact Status.isTerminated_of_moves (lived.consistent.status_run turns) isOver

/-! ## What calls come back with -/

/-- Whether with a choice no call begins or comes back. -/
def Choice.isQuiet : Choice app ω ρ → Bool
  | .call _ _ | .settle | .stop => false
  | _ => true

theorem quiet_next (host : Hosting app ω ρ) (choice : Choice app ω ρ)
    (quiet : choice.isQuiet = true) :
    (host.next choice).answers = host.answers ∧ (host.next choice).phase = host.phase ∧
      (host.next choice).errand.isSome = host.errand.isSome := by
  have live (turn : Turn Ender (Watcher ρ)) :
      (host.live turn).answers = host.answers ∧ (host.live turn).phase = host.phase ∧
        (host.live turn).errand.isSome = host.errand.isSome := by
    obtain ⟨link, -, isLive⟩ := host.live_eq turn
    rw [isLive]
    exact ⟨rfl, rfl, rfl⟩
  cases choice with
  | call | settle | stop => contradiction
  | watch =>
      rw [next, watch]
      split
      · rename_i entrance name isErrand
        obtain ⟨answers, phase, -⟩ := live (.register .connection)
        exact ⟨answers, phase, by rw [isErrand]; rfl⟩
      · exact ⟨rfl, rfl, rfl⟩
  | exit | work => exact ⟨rfl, rfl, rfl⟩
  | outputEnds | writeFails | goOn | register | callLate => exact live _
  | leave index =>
      rw [next, leave]
      split <;> exact ⟨rfl, rfl, rfl⟩
  | shut index =>
      obtain ⟨link, stops, -, -, isShut⟩ := host.shut_eq index
      rw [next, isShut]
      exact ⟨rfl, rfl, rfl⟩

namespace Owned

variable {host : Hosting app ω ρ}

/-- A host that was stopped starts nothing any more. -/
private theorem stopped_next (owned : Owned host) (isStopped : host.phase = .stopped)
    (choice : Choice app ω ρ) :
    (host.next choice).phase = .stopped ∧
      ∃ more, (host.next choice).answers = host.answers ++ more ∧
        ∀ answer ∈ more, answer.2 = .error .terminated := by
  have isFree : host.errand = none := by
    refine Option.eq_none_iff_forall_ne_some.mpr fun errand isErrand => ?_
    rw [(owned.errand errand isErrand).1] at isStopped
    contradiction
  have nothing : ∃ more, host.answers = host.answers ++ more ∧
      ∀ answer ∈ more, answer.2 = .error .terminated := ⟨[], (List.append_nil _).symm, nofun⟩
  have quiet := host.quiet_next choice
  cases choice with
  | call entrance spawned =>
      rw [Hosting.next, Hosting.call, isFree, isStopped]
      exact ⟨isStopped, _, rfl, fun answer isAnswer => by rw [List.mem_singleton.mp isAnswer]⟩
  | settle =>
      rw [Hosting.next, Hosting.settle, isFree]
      exact ⟨isStopped, nothing⟩
  | stop =>
      rw [Hosting.next, Hosting.stop, isFree]
      exact ⟨rfl, nothing⟩
  | _ =>
      obtain ⟨answers, phase, -⟩ := quiet rfl
      exact ⟨phase.trans isStopped, answers ▸ nothing⟩

theorem stopped_run (owned : Owned host) (isStopped : host.phase = .stopped)
    (schedule : List (Choice app ω ρ)) :
    (host.run schedule).phase = .stopped ∧
      ∃ more, (host.run schedule).answers = host.answers ++ more ∧
        ∀ answer ∈ more, answer.2 = .error .terminated := by
  induction schedule generalizing host with
  | nil => exact ⟨isStopped, [], (List.append_nil _).symm, nofun⟩
  | cons choice rest inductionHypothesis =>
      obtain ⟨stillStopped, first, answered, areErrors⟩ := owned.stopped_next isStopped choice
      obtain ⟨atEnd, later, answeredLater, areErrorsLater⟩ :=
        inductionHypothesis (owned.next choice) stillStopped
      refine ⟨atEnd, first ++ later, ?_, ?_⟩
      · rw [← List.append_assoc, ← answered]
        exact answeredLater
      · intro answer isAnswer
        rcases List.mem_append.mp isAnswer with isFirst | isLater
        · exact areErrors answer isFirst
        · exact areErrorsLater answer isLater

/-- A call that has the lock comes back, or is still under way. -/
private theorem busy_next (host : Hosting app ω ρ) (isBusy : host.errand.isSome = true)
    (choice : Choice app ω ρ) :
    ∃ more, (host.next choice).answers = host.answers ++ more ∧
      more.length + (host.next choice).errand.toList.length = 1 := by
  obtain ⟨errand, isErrand⟩ := Option.isSome_iff_exists.mp isBusy
  have nothing : ∃ more, host.answers = host.answers ++ more ∧
      more.length + host.errand.toList.length = 1 :=
    ⟨[], (List.append_nil _).symm, by rw [isErrand]; rfl⟩
  have quiet := host.quiet_next choice
  cases choice with
  | call entrance spawned =>
      rw [Hosting.next, Hosting.call, isErrand]
      exact nothing
  | settle =>
      rw [Hosting.next, Hosting.settle]
      split
      · split
        · exact nothing
        · exact ⟨_, rfl, rfl⟩
      · exact nothing
  | stop =>
      rw [Hosting.next, Hosting.stop, isErrand]
      exact nothing
  | _ =>
      obtain ⟨answers, -, errand⟩ := quiet rfl
      refine ⟨[], by rw [answers, List.append_nil], ?_⟩
      obtain ⟨other, isOther⟩ := Option.isSome_iff_exists.mp (errand.trans isBusy)
      rw [isOther]
      rfl

/-- Once the process has been left, who asks for the connection is refused. -/
private theorem refused_next (owned : Owned host) (isOver : host.status.isTerminated = true)
    (isFree : host.errand = none) (choice : Choice app ω ρ) :
    (host.next choice).errand = none ∧
      ∃ more, (host.next choice).answers = host.answers ++ more ∧
        ∀ answer ∈ more, answer.1 = .getOrStart → answer.2 = .error .terminated := by
  have isSpawned : host.spawned ≠ [] := fun isEmpty => by
    rw [(owned.unspawned isEmpty).1] at isOver
    contradiction
  have notIdle : host.phase ≠ .idle := fun isIdle => isSpawned ((owned.idle isIdle).2 isFree)
  have nothing : ∃ more, host.answers = host.answers ++ more ∧
      ∀ answer ∈ more, answer.1 = .getOrStart → answer.2 = .error .terminated :=
    ⟨[], (List.append_nil _).symm, nofun⟩
  have quiet := host.quiet_next choice
  cases choice with
  | call entrance spawned =>
      rw [Hosting.next, Hosting.call, isFree, isOver]
      cases isPhase : host.phase with
      | idle => exact absurd isPhase notIdle
      | stopped =>
          refine ⟨isFree, _, rfl, fun answer isAnswer _ => ?_⟩
          rw [List.mem_singleton.mp isAnswer]
      | running connection =>
          cases entrance with
          | start =>
              refine ⟨isFree, _, rfl, fun answer isAnswer asks => ?_⟩
              rw [List.mem_singleton.mp isAnswer] at asks
              contradiction
          | getOrStart =>
              refine ⟨isFree, _, rfl, fun answer isAnswer _ => ?_⟩
              rw [List.mem_singleton.mp isAnswer]
              rfl
  | settle =>
      rw [Hosting.next, Hosting.settle, isFree]
      exact ⟨isFree, nothing⟩
  | stop =>
      rw [Hosting.next, Hosting.stop, isFree]
      exact ⟨rfl, nothing⟩
  | _ =>
      obtain ⟨answers, -, errand⟩ := quiet rfl
      rw [isFree] at errand
      exact ⟨Option.isNone_iff_eq_none.mp (Option.isSome_eq_false_iff.mp errand), answers ▸ nothing⟩

/-- Once the process has been left, all who ask for the connection are refused, but for the call
that has the lock. -/
theorem refused_run (owned : Owned host) {registered : List (Watcher ρ)}
    (lived : host.Lived registered) (isOver : host.status.isTerminated = true)
    (schedule : List (Choice app ω ρ)) :
    ∃ more, (host.run schedule).answers = host.answers ++ more ∧
      ∀ answer ∈ more.drop host.errand.toList.length,
        answer.1 = .getOrStart → answer.2 = .error .terminated := by
  induction schedule generalizing host registered with
  | nil => exact ⟨[], (List.append_nil _).symm, by simp⟩
  | cons choice rest inductionHypothesis =>
      obtain ⟨further, livedNext⟩ := lived.next choice
      obtain ⟨later, answeredLater, refusedLater⟩ :=
        inductionHypothesis (owned.next choice) livedNext (lived.isTerminated_next isOver choice)
      cases isErrand : host.errand with
      | none =>
          obtain ⟨stillFree, first, answered, refused⟩ := owned.refused_next isOver isErrand choice
          refine ⟨first ++ later, ?_, ?_⟩
          · rw [← List.append_assoc, ← answered]
            exact answeredLater
          · intro answer isAnswer
            rw [stillFree] at refusedLater
            rcases List.mem_append.mp isAnswer with isFirst | isLater
            · exact refused answer isFirst
            · exact refusedLater answer isLater
      | some errand =>
          obtain ⟨first, answered, counted⟩ :=
            busy_next host (Option.isSome_of_eq_some isErrand) choice
          refine ⟨first ++ later, ?_, ?_⟩
          · rw [← List.append_assoc, ← answered]
            exact answeredLater
          · have behind : (first ++ later).drop 1 =
                later.drop (host.next choice).errand.toList.length := by
              rw [List.drop_append, List.drop_eq_nil_of_le (by omega), List.nil_append]
              congr 1
              omega
            change ∀ answer ∈ (first ++ later).drop 1, _
            rwa [behind]

end Owned

/-! ## One process -/

/-- A host that is idle has started nothing, and may start its process at any time. -/
theorem Owned.startable {host : Hosting app ω ρ} (owned : Owned host)
    {registered : List (Watcher ρ)} (lived : host.Lived registered)
    (isIdle : host.phase = .idle) (isFree : host.errand = none) (entrance : Entrance) :
    (∀ failure, host.next (.call entrance (.error failure)) =
      { host with
        attempts := host.attempts + 1
        answers := host.answers ++ [(entrance, .error failure)] }) ∧
    ∀ wire, (host.run [.call entrance (.ok wire), .watch, .settle]).answers =
      host.answers ++ [(entrance, .ok host.attempts)] := by
  have notStarted : host.life.lifecycle.status = .notStarted :=
    (owned.unspawned ((owned.idle isIdle).2 isFree)).1
  have isOpen : host.life.status.isTerminated = false := by
    rw [Lifetime.status, notStarted]
    rfl
  obtain ⟨notTold, noneLate⟩ := lived.consistent.on_time isOpen
  have noneCalled := (lived.consistent.hooks_wait isOpen).2
  have mayStart : host.life.lifecycle.refusal? = none := by
    rw [Lifecycle.refusal?, notStarted]
  refine ⟨fun failure => ?_, fun wire => ?_⟩
  · simp [Hosting.next, Hosting.call, isFree, isIdle, Phase.verdict?, Hosting.spawn,
      Lifetime.start, mayStart, Hosting.answer]
  · simp [Hosting.run, Hosting.next, Hosting.call, isFree, isIdle, Phase.verdict?, Hosting.spawn,
      Lifetime.start, mayStart, Hosting.answer, Hosting.watch, Hosting.live, Lifetime.next,
      Lifetime.register, Lifecycle.register, Lifecycle.begin, notTold, Hosting.settle, noneLate,
      Lifetime.called, noneCalled]

/-- In whatever order calls to a host come, whether the system starts the process or not, and
whenever the process ends: the process is started once at the most; all calls that succeed give the
same connection, and that is the connection of the host; it has at the most one hook. A host that is
idle has no process and no connection, an attempt that fails leaves it as it was, and the next one
that succeeds gives a connection. When somebody has stopped the host, it has no connection, and no
call that comes back later succeeds. When the process has been left, all later calls to get the
connection are refused, but for the one that has started the process. -/
theorem host_owns_one_process (memory : app.Memory) (timeout : Option Duration)
    (earlier later : List (Choice app ω ρ)) :
    let between := (new memory timeout : Hosting app ω ρ).run earlier
    let after := between.run later
    (after.spawned.length ≤ 1 ∧
      (∀ entrance name, (entrance, .ok name) ∈ after.answers → after.spawned = [name]) ∧
      (∀ name, after.connection? = some name → after.spawned = [name]) ∧
      after.life.lifecycle.hooks.countP Watcher.isConnection ≤ after.spawned.length) ∧
    (after.phase = .idle → after.errand = none →
      after.spawned = [] ∧ after.status = .notStarted ∧ after.connection? = none ∧
        ∀ entrance,
          (∀ failure, after.next (.call entrance (.error failure)) =
            { after with
              attempts := after.attempts + 1
              answers := after.answers ++ [(entrance, .error failure)] }) ∧
          ∀ wire, (after.run [.call entrance (.ok wire), .watch, .settle]).answers =
            after.answers ++ [(entrance, .ok after.attempts)]) ∧
    (between.stops ≠ [] →
      after.connection? = none ∧
        ∃ more, after.answers = between.answers ++ more ∧
          ∀ answer ∈ more, answer.2 = .error .terminated) ∧
    (between.status.isTerminated = true →
      ∃ more, after.answers = between.answers ++ more ∧
        ∀ answer ∈ more.drop between.errand.toList.length,
          answer.1 = .getOrStart → answer.2 = .error .terminated) := by
  intro between after
  have ownedBetween : Owned between := (Owned.new memory timeout).run earlier
  have owned : Owned after := ownedBetween.run later
  obtain ⟨registered, livedBetween⟩ := lived_run (ρ := ρ) memory timeout earlier
  obtain ⟨more, lived⟩ := livedBetween.run later
  refine ⟨⟨owned.once, owned.granted, fun name => owned.connected, ?_⟩, ?_, ?_, ?_⟩
  · have watched := lived.watched
    have waiting := lived.consistent.hooks_sublist.countP_le (p := Watcher.isConnection)
    exact waiting.trans (Nat.le.intro watched)
  · intro isIdle isFree
    have noneSpawned := (owned.idle isIdle).2 isFree
    refine ⟨noneSpawned, (owned.unspawned noneSpawned).1, ?_, owned.startable lived isIdle isFree⟩
    rw [connection?, isIdle]
    rfl
  · intro hasStopped
    obtain ⟨isStopped, answered⟩ := ownedBetween.stopped_run (ownedBetween.stopped hasStopped) later
    refine ⟨?_, answered⟩
    rw [connection?, isStopped]
    rfl
  · intro isOver
    exact ownedBetween.refused_run livedBetween isOver later

/-- A host starts its process, and the child exits while its output is still open. -/
def leaveUnnoticed : List (Choice bare (MemoryWire Unit) Unit) :=
  [.call .getOrStart (.ok .new), .watch, .settle, .exit]

/-- Nobody looks at the child, so whoever asks gets the connection to a child that has exited. -/
theorem exit_goes_unnoticed :
    let host := (new () none).run leaveUnnoticed
    host.exited = true ∧ host.status = .running ∧
      (host.next (.call .getOrStart (.ok .new))).answers =
        [(.getOrStart, .ok 0), (.getOrStart, .ok 0)] :=
  ⟨rfl, rfl, rfl⟩

/-- An attempt that fails and one that does not; then the output ends, and the host is stopped. -/
def twoAttempts : List (Choice bare (MemoryWire Unit) Unit) :=
  [.call .start (.error (.spawnFailed "no room")), .call .getOrStart (.ok .new), .watch, .settle,
    .call .start (.ok .new), .outputEnds]

/-- After that, everybody is refused. -/
theorem one_process_in_two_attempts :
    let between := (new () none).run twoAttempts
    let after := between.run [.call .getOrStart (.ok .new), .stop, .call .start (.ok .new)]
    between.answers = [(.start, .error (.spawnFailed "no room")), (.getOrStart, .ok 1),
        (.start, .error .alreadyStarted)] ∧
      between.status.isTerminated = true ∧ after.spawned.length ≤ 1 ∧
      after.spawned = [1] ∧
      ∃ more, after.answers = between.answers ++ more ∧
        ∀ answer ∈ more.drop between.errand.toList.length,
          answer.1 = .getOrStart → answer.2 = .error .terminated := by
  obtain ⟨⟨once, given, -⟩, -, -, refused⟩ := host_owns_one_process () none twoAttempts
    [.call .getOrStart (.ok .new), .stop, .call .start (.ok .new)]
  refine ⟨rfl, rfl, once, given .getOrStart 1 ?_, refused rfl⟩
  exact List.mem_cons_of_mem _ List.mem_cons_self

end Hosting

end RpcEndpoint
