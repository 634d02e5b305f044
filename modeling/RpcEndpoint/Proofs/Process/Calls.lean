import RpcEndpoint.Proofs.Process.Ownership

/-!
# Calls to a host that runs

A host that runs works off one call after another. Each call for the connection is a schedule of the
choices among threads, and comes back with the same.
-/

namespace RpcEndpoint

namespace Hosting

variable {app : Application} {ω ρ : Type}

/-- A host among threads and a host that runs, when no call is under way. -/
structure Mirrors (hosting : Hosting app ω ρ) (host : Host app ρ) : Prop where
  phase : hosting.phase = host.phase
  attempts : hosting.attempts = host.attempts
  lifecycle : hosting.life.lifecycle = host.wire.lifecycle
  late : hosting.life.late = []
  free : hosting.errand = none

end Hosting

namespace Host

variable {app : Application} {ω ρ : Type} {hooks : List (Watcher ρ)}

/-- A call to the host. -/
def ask (host : Host app ρ) : Entrance → Except ProcessFailure Nat × Host app ρ
  | .start => host.start
  | .getOrStart => host.getOrStart

/-- Both calls differ only in what they say to a host that runs. -/
theorem ask_eq (host : Host app ρ) (entrance : Entrance) :
    host.ask entrance =
      match host.phase.verdict? host.status.isTerminated entrance with
      | some verdict => (verdict, host)
      | none => host.spawn := by
  cases entrance with
  | start =>
      rw [ask, start]
      cases host.phase <;> rfl
  | getOrStart =>
      rw [ask, getOrStart]
      cases host.phase <;> rfl

variable [Wire ω]

private theorem spawn_enacted {hosting : Hosting app ω ρ} {host : Host app ρ}
    (mirrors : hosting.Mirrors host) (mayStart : hosting.life.lifecycle = ⟨.notStarted, hooks, none⟩)
    (noneCalled : hosting.life.calls = []) (entrance : Entrance) (wire : ω)
    (spawns : ∀ spawned,
      hosting.next (.call entrance spawned) = hosting.spawn entrance spawned) :
    ∃ schedule, (hosting.run schedule).Mirrors host.spawn.2 ∧
      (hosting.run schedule).answers = hosting.answers ++ [(entrance, host.spawn.1)] := by
  have listens : host.wire.listen.lifecycle = ⟨.notStarted, hooks, none⟩ :=
    mirrors.lifecycle.symm.trans mayStart
  have sameAttempts : hosting.attempts + 1 = host.attempts + 1 := congrArg (· + 1) mirrors.attempts
  unfold spawn ProcessWire.start
  simp only [listens, Lifecycle.refusal?]
  cases Launch.child host.config host.wire.listen.now with
  | error failure =>
      refine ⟨[.call entrance (.error failure)], ?_⟩
      have called : hosting.run [.call entrance (.error failure)] =
          { hosting with attempts := hosting.attempts + 1 }.answer entrance (.error failure) := by
        simp [Hosting.run, spawns, Hosting.spawn, Lifetime.start, mayStart, Lifecycle.refusal?]
      rw [called]
      exact ⟨⟨mirrors.phase, sameAttempts, mirrors.lifecycle, mirrors.late, mirrors.free⟩, rfl⟩
  | ok child =>
      refine ⟨[.call entrance (.ok wire), .watch, .settle], ?_⟩
      have called : hosting.run [.call entrance (.ok wire), .watch, .settle] =
          { hosting with
            phase := .running hosting.attempts
            attempts := hosting.attempts + 1
            life := { hosting.life with lifecycle := ⟨.running, hooks ++ [.connection], none⟩ }
            link := some (.start wire hosting.memory hosting.timeout)
            spawned := hosting.spawned ++ [hosting.attempts]
            answers := hosting.answers ++ [(entrance, .ok hosting.attempts)] } := by
        rw [Hosting.run, List.foldl_cons, spawns]
        simp [Hosting.next, Hosting.spawn, Lifetime.start, mayStart, Lifecycle.refusal?,
          Hosting.watch, Hosting.live, Lifetime.next, Lifetime.register, Lifecycle.register,
          Lifecycle.begin, Lifetime.called, noneCalled, Hosting.settle, Hosting.answer,
          mirrors.late, mirrors.free]
      rw [called, mirrors.attempts]
      refine ⟨⟨rfl, rfl, ?_, mirrors.late, mirrors.free⟩, rfl⟩
      simp [Host.wire, Connection.new, Framing.Framer.new, ProcessWire.onTermination,
        Lifecycle.register, Lifecycle.begin]

/-- A call that runs is a schedule of choices, and comes back with the same. -/
theorem ask_enacted {hosting : Hosting app ω ρ} {host : Host app ρ} (owned : hosting.Owned)
    {registered : List (Watcher ρ)} (lived : hosting.Lived registered)
    (mirrors : hosting.Mirrors host) (entrance : Entrance) (wire : ω) :
    ∃ schedule, (hosting.run schedule).Mirrors (host.ask entrance).2 ∧
      (hosting.run schedule).answers = hosting.answers ++ [(entrance, (host.ask entrance).1)] := by
  have sameStatus : hosting.status = host.status :=
    congrArg Lifecycle.status mirrors.lifecycle
  rw [ask_eq, ← mirrors.phase, ← sameStatus]
  cases isVerdict : hosting.phase.verdict? hosting.status.isTerminated entrance with
  | some verdict =>
      refine ⟨[.call entrance (.ok wire)], ?_⟩
      have called : hosting.run [.call entrance (.ok wire)] = hosting.answer entrance verdict := by
        simp [Hosting.run, Hosting.next, Hosting.call, mirrors.free, isVerdict]
      rw [called]
      exact ⟨⟨mirrors.phase, mirrors.attempts, mirrors.lifecycle, mirrors.late, mirrors.free⟩, rfl⟩
  | none =>
      have spawns (spawned : Except ProcessFailure ω) :
          hosting.next (.call entrance spawned) = hosting.spawn entrance spawned := by
        simp [Hosting.next, Hosting.call, mirrors.free, isVerdict]
      have isIdle : hosting.phase = .idle := by
        cases isPhase : hosting.phase with
        | idle => rfl
        | running | stopped => cases entrance <;> simp [isPhase, Phase.verdict?] at isVerdict
      have notStarted : hosting.life.status = .notStarted :=
        (owned.unspawned ((owned.idle isIdle).2 mirrors.free)).1
      have isOpen : hosting.life.status.isTerminated = false := by
        rw [notStarted]
        rfl
      obtain ⟨waiting, noneCalled⟩ := lived.consistent.hooks_wait isOpen
      have notTold := (lived.consistent.on_time isOpen).1
      have mayStart : hosting.life.lifecycle = ⟨.notStarted, registered, none⟩ := by
        rw [← notStarted, ← waiting, ← notTold]
        rfl
      exact spawn_enacted mirrors mayStart noneCalled entrance wire spawns

/-- Calls one after another: what they come back with, and the host at the end. -/
def askAll (host : Host app ρ) :
    List Entrance → List (Entrance × Except ProcessFailure Nat) × Host app ρ
  | [] => ([], host)
  | entrance :: rest =>
    let (outcome, asked) := host.ask entrance
    let (answers, last) := asked.askAll rest
    ((entrance, outcome) :: answers, last)

theorem askAll_enacted {hosting : Hosting app ω ρ} {host : Host app ρ} (owned : hosting.Owned)
    {registered : List (Watcher ρ)} (lived : hosting.Lived registered)
    (mirrors : hosting.Mirrors host) (entrances : List Entrance) (wire : ω) :
    ∃ schedule, (hosting.run schedule).Mirrors (host.askAll entrances).2 ∧
      (hosting.run schedule).answers = hosting.answers ++ (host.askAll entrances).1 := by
  induction entrances generalizing hosting host registered with
  | nil => exact ⟨[], mirrors, (List.append_nil _).symm⟩
  | cons entrance rest inductionHypothesis =>
      obtain ⟨first, asked, answered⟩ := ask_enacted owned lived mirrors entrance wire
      obtain ⟨more, livedThen⟩ := lived.run first
      obtain ⟨later, reached, answeredLater⟩ :=
        inductionHypothesis (owned.run first) livedThen asked
      have whole : hosting.run (first ++ later) = (hosting.run first).run later :=
        List.foldl_append
      refine ⟨first ++ later, ?_, ?_⟩
      · rw [whole]
        exact reached
      · rw [whole, answeredLater, answered, List.append_assoc]
        rfl

/-- What holds of threads holds of a host that runs: all calls that succeed give one connection. -/
theorem askAll_same_connection (config : Config) (memory : app.Memory) (entrances : List Entrance)
    {first second : Nat} {entrance other : Entrance}
    (isFirst : (entrance, .ok first) ∈ ((new config memory : Host app ρ).askAll entrances).1)
    (isSecond : (other, .ok second) ∈ ((new config memory : Host app ρ).askAll entrances).1) :
    first = second := by
  let idle : Hosting app (ProcessWire (Watcher ρ)) ρ := .new memory config.timeout
  have owned : idle.Owned := .new memory config.timeout
  obtain ⟨registered, lived⟩ :=
    @Hosting.lived_run app (ProcessWire (Watcher ρ)) ρ _ memory config.timeout []
  have mirrors : idle.Mirrors (new config memory : Host app ρ) := ⟨rfl, rfl, rfl, rfl, rfl⟩
  obtain ⟨schedule, -, answered⟩ := askAll_enacted owned lived mirrors entrances .new
  have granted := (owned.run schedule).granted
  rw [answered] at granted
  have isFirst := granted entrance first (List.mem_append_right _ isFirst)
  have isSecond := granted other second (List.mem_append_right _ isSecond)
  exact List.singleton_inj.mp (isFirst.symm.trans isSecond)

end Host
end RpcEndpoint
