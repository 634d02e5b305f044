import Mathlib.Data.List.Induction
import Mathlib.Logic.Function.Basic
import RpcEndpoint.Proofs.Requests.Attained
import RpcEndpoint.Proofs.Requests.Numbering
import RpcEndpoint.Proofs.Tokens.Held

/-!
# Fleets

Requests of several connections may carry one token. A fleet has one machine for each connection; the
name of a connection is its number. What one member does to the tokens shows at all of them, and a
hook of another member takes effect there at once. As every member only sees strokes, what holds of
machines holds of members.
-/

namespace RpcEndpoint

open Connection

variable {app : Application} {ω : Type}

/-- One machine for each connection. -/
abbrev Fleet (app : Application) (ω : Type) := Nat → Machine app ω

/-- What another member has done shows here: the tokens, and hooks that take effect. -/
def Machine.adopt [Wire ω] (tokens : TokenTable) (hooks : List Hook) (machine : Machine app ω) :
    Machine app ω :=
  hooks.foldl (fun called hook => called.next (.act (.order (.cancel hook.id))))
    { machine with connection := { machine.connection with tokens, signals := [] } }

namespace Fleet

def start (wire : Nat → ω) (memory : Nat → app.Memory) (limit : Nat → Option Duration) :
    Fleet app ω := fun name =>
  let fresh := Machine.start (wire name) (memory name) (limit name)
  { fresh with connection := { fresh.connection with name } }

/-- The tokens, which are the same at all members. -/
def tokens (fleet : Fleet app ω) : TokenTable :=
  (fleet 0).connection.tokens

variable [Wire ω]

/-- One member makes a choice. -/
def next (fleet : Fleet app ω) (turn : Nat × Choice app ω) : Fleet app ω :=
  let moved := (fleet turn.1).next turn.2
  fun name => (Function.update fleet turn.1 moved name).adopt moved.connection.tokens
    (moved.connection.signals.filter fun hook => hook.connection = name)

def run (fleet : Fleet app ω) (schedule : List (Nat × Choice app ω)) : Fleet app ω :=
  schedule.foldl next fleet

/-- A fleet that some schedule reaches from fresh connections. Nobody but its members touches its
tokens. -/
def Reachable (fleet : Fleet app ω) : Prop :=
  ∃ wire memory limit schedule, (∀ turn ∈ schedule, turn.2.isOwn = true) ∧
    fleet = (start wire memory limit).run schedule

end Fleet

/-! ## What shows at a member -/

/-- The orders to cancel that hooks amount to. -/
def cancelsOf (hooks : List Hook) : List (Command app) :=
  hooks.map fun hook => .order (.cancel hook.id)

namespace Machine

variable [Wire ω]

private theorem foldl_cancel (hooks : List Hook) (machine : Machine app ω) :
    hooks.foldl (fun called hook => called.next (.act (.order (.cancel hook.id)))) machine =
      let orders := if machine.connection.running then cancelsOf hooks else []
      { machine with
        connection := { machine.connection with inbox := machine.connection.inbox ++ orders }
        entered := machine.entered ++ orders } := by
  induction hooks generalizing machine with
  | nil =>
      simp [cancelsOf]
  | cons hook rest inductionHypothesis =>
      rw [List.foldl_cons, inductionHypothesis]
      by_cases isRunning : machine.connection.running = true
      · simp [next, Act.apply, absorb, enqueue_eq, isRunning, cancelsOf]
      · simp [next, Act.apply, absorb, enqueue_eq, isRunning]

theorem adopt_eq (tokens : TokenTable) (hooks : List Hook) (machine : Machine app ω) :
    machine.adopt tokens hooks =
      let orders := if machine.connection.running then cancelsOf hooks else []
      { machine with
        connection := { machine.connection with
          tokens, signals := [], inbox := machine.connection.inbox ++ orders }
        entered := machine.entered ++ orders } :=
  foldl_cancel hooks _

theorem held_adopt (tokens : TokenTable) (hooks : List Hook) (machine : Machine app ω) :
    (machine.adopt tokens hooks).held = machine.held := by
  rw [adopt_eq, held, held]

theorem leads_adopt (tokens : TokenTable) (hooks : List Hook) (machine : Machine app ω) :
    machine.Leads (machine.adopt tokens hooks) := by
  have shown : machine.Leads
      { machine with connection := { machine.connection with tokens, signals := [] } } :=
    machine.leads_quiet (.quiet rfl rfl rfl rfl rfl rfl) rfl
  have called := leads_run
    { machine with connection := { machine.connection with tokens, signals := [] } }
    (hooks.map fun hook => .act (.order (.cancel hook.id)))
  rw [run, List.foldl_map] at called
  exact shown.trans called

end Machine

/-! ## Schedules of a fleet -/

namespace Fleet

variable [Wire ω]

theorem next_self (fleet : Fleet app ω) (name : Nat) (choice : Choice app ω) :
    fleet.next (name, choice) name =
      ((fleet name).next choice).adopt ((fleet name).next choice).connection.tokens
        (((fleet name).next choice).connection.signals.filter
          fun hook => hook.connection = name) := by
  unfold next
  dsimp only
  rw [Function.update_self]

theorem next_of_ne
    (fleet : Fleet app ω) {name other : Nat} (choice : Choice app ω) (different : other ≠ name) :
    fleet.next (name, choice) other =
      (fleet other).adopt ((fleet name).next choice).connection.tokens
        (((fleet name).next choice).connection.signals.filter
          fun hook => hook.connection = other) := by
  unfold next
  dsimp only
  rw [Function.update_of_ne different]

theorem leads_next (fleet : Fleet app ω) (turn : Nat × Choice app ω) (name : Nat) :
    (fleet name).Leads (fleet.next turn name) := by
  obtain ⟨mover, choice⟩ := turn
  by_cases isMover : name = mover
  · subst isMover
    rw [next_self]
    have stroke := (fleet name).stroke choice
    exact (Relation.ReflTransGen.single stroke).trans (Machine.leads_adopt _ _ _)
  · rw [fleet.next_of_ne choice isMover]
    exact Machine.leads_adopt _ _ _

theorem leads_run
    (fleet : Fleet app ω) (schedule : List (Nat × Choice app ω)) (name : Nat) :
    (fleet name).Leads (fleet.run schedule name) := by
  induction schedule generalizing fleet with
  | nil =>
      exact .refl
  | cons turn rest inductionHypothesis =>
      exact (fleet.leads_next turn name).trans (inductionHypothesis (fleet.next turn))

theorem attained_start
    (wire : Nat → ω) (memory : Nat → app.Memory) (limit : Nat → Option Duration) (name : Nat) :
    (start wire memory limit name).Attained := by
  refine ⟨wire name, memory name, limit name, ?_⟩
  exact Machine.leads_quiet _ (.quiet rfl rfl rfl rfl rfl rfl) rfl

theorem Reachable.attained
    {fleet : Fleet app ω} (reachable : fleet.Reachable) (name : Nat) : (fleet name).Attained := by
  obtain ⟨wire, memory, limit, schedule, -, rfl⟩ := reachable
  exact (attained_start wire memory limit name).leads (leads_run _ schedule name)

theorem run_append (fleet : Fleet app ω) (left right : List (Nat × Choice app ω)) :
    fleet.run (left ++ right) = (fleet.run left).run right :=
  List.foldl_append

theorem Reachable.run
    {fleet : Fleet app ω} (reachable : fleet.Reachable) {schedule : List (Nat × Choice app ω)}
    (own : ∀ turn ∈ schedule, turn.2.isOwn = true) : (fleet.run schedule).Reachable := by
  obtain ⟨wire, memory, limit, earlier, ownEarlier, rfl⟩ := reachable
  refine ⟨wire, memory, limit, earlier ++ schedule, fun turn isTurn => ?_,
    (run_append _ earlier schedule).symm⟩
  exact (List.mem_append.mp isTurn).elim (ownEarlier turn) (own turn)

/-- The identifiers of no member start over. -/
def Lasting (fleet : Fleet app ω) : Prop :=
  ∀ name, (fleet name).accepted.length ≤ 2 ^ 64

theorem Lasting.of_leads
    {before after : Fleet app ω} (lasting : after.Lasting)
    (led : ∀ name, (before name).Leads (after name)) : before.Lasting := by
  intro name
  exact Nat.le_trans (led name).accepted_grows.length_le (lasting name)

/-- What survives the choices of a member, and what shows there of others, holds of the member after
a schedule. -/
theorem run_member
    (property : Machine app ω → Prop) {fleet : Fleet app ω} {name : Nat}
    {schedule : List (Nat × Choice app ω)} (first : property (fleet name))
    (chosen : ∀ machine choice, (name, choice) ∈ schedule → property machine →
      property (machine.next choice))
    (shown : ∀ machine tokens hooks, property machine → property (machine.adopt tokens hooks)) :
    property (fleet.run schedule name) := by
  induction schedule generalizing fleet with
  | nil =>
      exact first
  | cons turn rest inductionHypothesis =>
      obtain ⟨mover, choice⟩ := turn
      refine inductionHypothesis ?_ fun machine other isOther =>
        chosen machine other (List.mem_cons_of_mem _ isOther)
      by_cases isMover : name = mover
      · subst isMover
        rw [next_self]
        exact shown _ _ _ (chosen _ choice List.mem_cons_self first)
      · rw [fleet.next_of_ne choice isMover]
        exact shown _ _ _ first

/-- A member that makes no choice does not come to do anything. -/
theorem run_of_others
    (fleet : Fleet app ω) {name : Nat} (schedule : List (Nat × Choice app ω))
    (others : ∀ turn ∈ schedule, turn.1 ≠ name) :
    (fleet.run schedule name).agenda = (fleet name).agenda ∧
      (fleet.run schedule name).flying = (fleet name).flying := by
  refine run_member
    (fun reached => reached.agenda = (fleet name).agenda ∧ reached.flying = (fleet name).flying)
    ⟨rfl, rfl⟩ (fun _ _ isOwn => absurd rfl (others _ isOwn)) ?_
  intro machine tokens hooks same
  rw [Machine.adopt_eq]
  exact same

theorem held_run_of_others
    (fleet : Fleet app ω) {name : Nat} (schedule : List (Nat × Choice app ω))
    (others : ∀ turn ∈ schedule, turn.1 ≠ name) :
    (fleet.run schedule name).held = (fleet name).held :=
  run_member (fun reached => reached.held = (fleet name).held) rfl
    (fun _ _ isOwn => absurd rfl (others _ isOwn))
    fun machine tokens hooks same => (machine.held_adopt tokens hooks).trans same

private theorem length_accepted_next
    (fleet : Fleet app ω) (turn : Nat × Choice app ω) (name : Nat) :
    (fleet.next turn name).accepted.length ≤ (fleet name).accepted.length + 1 := by
  obtain ⟨mover, choice⟩ := turn
  by_cases isMover : name = mover
  · subst isMover
    have few : (issuedAmong ((fleet name).returns choice).toList).length ≤ 1 := by
      refine (List.length_filterMap_le _ _).trans ?_
      cases (fleet name).returns choice <;> simp
    have accepted := congrArg List.length (accepted_next (fleet name) choice)
    rw [List.length_append] at accepted
    rw [next_self, Machine.adopt_eq]
    dsimp only
    omega
  · rw [fleet.next_of_ne choice isMover, Machine.adopt_eq]
    exact Nat.le_succ _

/-- Each choice takes one identifier at the most. -/
theorem lasting_run
    (fleet : Fleet app ω) (schedule : List (Nat × Choice app ω))
    (few : ∀ name, (fleet name).accepted.length + schedule.length ≤ 2 ^ 64) :
    (fleet.run schedule).Lasting := by
  induction schedule generalizing fleet with
  | nil =>
      exact few
  | cons turn rest inductionHypothesis =>
      apply inductionHypothesis (fleet.next turn)
      intro name
      have grown := fleet.length_accepted_next turn name
      have bound := few name
      rw [List.length_cons] at bound
      omega

/-- What holds at the start and survives every choice holds of reachable fleets. -/
theorem Reachable.induction
    (property : Fleet app ω → Prop)
    (atStart : ∀ wire memory limit, property (start wire memory limit))
    (survives : ∀ before : Fleet app ω, before.Reachable → before.Lasting → property before →
      ∀ name choice, choice.isOwn = true → property (before.next (name, choice)))
    {fleet : Fleet app ω} (reachable : fleet.Reachable) (lasting : fleet.Lasting) :
    property fleet := by
  obtain ⟨wire, memory, limit, schedule, own, rfl⟩ := reachable
  induction schedule using List.reverseRecOn with
  | nil =>
      exact atStart wire memory limit
  | append_singleton earlier turn inductionHypothesis =>
      have ownEarlier : ∀ other ∈ earlier, other.2.isOwn = true := by
        intro other isOther
        exact own other (List.mem_append_left _ isOther)
      have isNext : (start wire memory limit).run (earlier ++ [turn]) =
          ((start wire memory limit).run earlier).next turn :=
        run_append _ earlier [turn]
      rw [isNext] at lasting ⊢
      have lastingBefore := lasting.of_leads (leads_next _ turn)
      have reachableBefore : ((start wire memory limit).run earlier : Fleet app ω).Reachable :=
        ⟨wire, memory, limit, earlier, ownEarlier, rfl⟩
      exact survives _ reachableBefore lastingBefore (inductionHypothesis ownEarlier lastingBefore)
        turn.1 turn.2 (own turn (List.mem_append_right _ (List.mem_singleton_self turn)))

end Fleet

end RpcEndpoint
