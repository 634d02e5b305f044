import RpcEndpoint.Proofs.Tokens.Fleet

/-!
# Hooks and pending requests

The hooks of a token are those of the requests that carry it and have not ended, as long as it is not
triggered; a triggered token has none. The invariant behind it (`Mirrored`) says from which request
each entry was made, and on which token that hangs.
-/

namespace RpcEndpoint

open Connection

variable {app : Application} {ω : Type}

/-- The identifiers of the requests among commands that carry a token. -/
def carrying (token : Token) (commands : List (Command app)) : List MessageId :=
  commands.filterMap fun
    | .request message options _ =>
      if options.token = some token then some message.id else none
    | _ => none

theorem mem_carrying {token : Token} {commands : List (Command app)} {id : MessageId} :
    id ∈ carrying token commands ↔
      ∃ message options sink, Command.request message options sink ∈ commands ∧
        options.token = some token ∧ message.id = id := by
  simp only [carrying, List.mem_filterMap]
  constructor
  · rintro ⟨command, isCommand, isId⟩
    cases command with
    | request message options sink =>
        by_cases carried : options.token = some token
        · exact ⟨message, options, sink, isCommand, carried, by simpa [carried] using isId⟩
        · simp [carried] at isId
    | _ =>
        contradiction
  · rintro ⟨message, options, sink, isCommand, carried, rfl⟩
    exact ⟨_, isCommand, by simp [carried]⟩

/-! ## From requests to entries -/

/-- The entry was made of this request. It hangs on the token of the request, or that has been
triggered. -/
structure Root (machine : Machine app ω) (message : Request) (options : Options)
    (entry : PendingRequest app) : Prop where
  taken : .request message options entry.sink ∈ machine.taken
  id : entry.id = message.id
  deadline : ∃ now, entry.deadline =
    (options.timeout.or machine.connection.defaultTimeout).bind (Deadline.after? now)
  hangs : ∀ attachment, entry.attachment = some attachment → options.token = some attachment.token
  untied : entry.attachment = none → ∀ token, options.token = some token →
    (machine.connection.tokens.state token).cancelled = true

/-- Each request that a machine holds was taken. -/
def Rooted (machine : Machine app ω) : Prop :=
  ∀ entry ∈ machine.held, ∃ message options, Root machine message options entry

variable {before after : Machine app ω}

theorem Root.mono
    {message : Request} {options : Options} {entry : PendingRequest app}
    (root : Root before message options entry)
    (taken : before.taken <+: after.taken)
    (limit : after.connection.defaultTimeout = before.connection.defaultTimeout)
    (cancelled : ∀ token, (before.connection.tokens.state token).cancelled = true →
      (after.connection.tokens.state token).cancelled = true) :
    Root after message options entry := by
  obtain ⟨wasTaken, id, deadline, hangs, untied⟩ := root
  refine ⟨taken.subset wasTaken, id, ?_, hangs, ?_⟩
  · rw [limit]
    exact deadline
  · intro bare token carried
    exact cancelled token (untied bare token carried)

theorem Handling.rooted
    (handling : Handling before after) (rooted : Rooted before) (traced : Traced before)
    (taken : before.taken <+: after.taken)
    (limit : after.connection.defaultTimeout = before.connection.defaultTimeout) :
    Rooted after := by
  have stays {entry : PendingRequest app} (wasHeld : entry ∈ before.held) :
      ∃ message options, Root after message options entry := by
    obtain ⟨message, options, root⟩ := rooted entry wasHeld
    exact ⟨message, options, root.mono taken limit fun _ => handling.cancelled⟩
  have begets {message : Request} {options : Options} {sink : Sink app} {rest : List (Job app)}
      {attachment : Option Attachment}
      (agenda : before.agenda = .launch message options sink :: rest)
      (hangs : ∀ hung, attachment = some hung → options.token = some hung.token)
      (untied : attachment = none → ∀ token, options.token = some token →
        (before.connection.tokens.state token).cancelled = true) :
      Root after message options (before.entryOf message options sink attachment) := by
    have isTaken : .request message options sink ∈ before.taken := by
      apply traced.launched message options sink
      simp [agenda]
    have root : Root before message options (before.entryOf message options sink attachment) :=
      ⟨isTaken, rfl, ⟨before.now, rfl⟩, hangs, untied⟩
    exact root.mono taken limit fun _ => handling.cancelled
  intro entry isHeld
  cases handling with
  | kept tokens held =>
      exact stays (held.mem_iff.mp isHeld)
  | entered agenda untied tokens held =>
      rcases List.mem_cons.mp (held.mem_iff.mp isHeld) with rfl | wasHeld
      · refine ⟨_, _, begets agenda ?_ ?_⟩
        · intro hung isHung
          contradiction
        · intro _ token carried
          exact untied token carried
      · exact stays wasHeld
  | hung agenda carried attached held =>
      rcases List.mem_cons.mp (held.mem_iff.mp isHeld) with rfl | wasHeld
      · refine ⟨_, _, begets agenda ?_ ?_⟩
        · rintro hung ⟨⟩
          have isAttachment := (TokenTable.attach?_eq_some attached).2.1
          rw [carried, isAttachment]
        · intro bare
          contradiction
      · exact stays wasHeld
  | dropped agenda tokens held =>
      exact stays (held.mem_iff.mpr (List.mem_cons_of_mem _ isHeld))
  | triggered token tokens held carries =>
      rw [held] at isHeld
      exact stays isHeld

/-! ## Identifiers of held requests -/

private theorem sublist_entriesOf (jobs : List (Job app)) :
    ((entriesOf jobs).map (·.promise)).Sublist (promisesOf jobs) := by
  induction jobs with
  | nil =>
      exact .slnil
  | cons job rest inductionHypothesis =>
      rw [entriesOf, List.flatMap_cons, List.map_append, promisesOf, List.flatMap_cons]
      refine List.Sublist.append ?_ inductionHypothesis
      cases job with
      | finish | timeOut =>
          exact .refl _
      | _ =>
          exact List.nil_sublist _

namespace Ledger

variable {machine : Machine app ω}

/-- No two held requests have one identifier, and none of them has come to its outcome. -/
theorem nodup_held
    (ledger : Ledger machine) (bound : machine.accepted.length ≤ 2 ^ 64) :
    (machine.held.map (·.id) ++ machine.completed).Nodup := by
  have places := ledger.nodup_places bound
  have owed : ((machine.held.map (·.promise)) ++ keptIn machine.history).Sublist
      (promisesOf machine.agenda ++ machine.connection.pending.promises ++
        keptIn machine.history) := by
    refine List.Sublist.append ?_ (.refl _)
    rw [Machine.held, List.map_append]
    exact (sublist_entriesOf machine.agenda).append (.refl _)
  have distinct := places.sublist (owed.map (·.id))
  rw [List.map_append, ← ledger.completed_eq, List.map_map] at distinct
  exact distinct

theorem eq_of_held
    (ledger : Ledger machine) (bound : machine.accepted.length ≤ 2 ^ 64)
    {left right : PendingRequest app} (isLeft : left ∈ machine.held)
    (isRight : right ∈ machine.held) (sameId : left.id = right.id) : left = right :=
  List.inj_on_of_nodup_map (ledger.nodup_held bound).of_append_left isLeft isRight sameId

/-- Requests that were taken are told apart by their identifiers. -/
theorem eq_of_taken
    (ledger : Ledger machine) (bound : machine.accepted.length ≤ 2 ^ 64)
    {left right : Command app} {leftPromise rightPromise : Promise app}
    (isLeft : left ∈ machine.taken) (isRight : right ∈ machine.taken)
    (leftMade : left.promise? = some leftPromise) (rightMade : right.promise? = some rightPromise)
    (sameId : leftPromise.id = rightPromise.id) : left = right := by
  have distinct := ledger.nodup_taken bound
  generalize machine.taken = commands at distinct isLeft isRight
  induction commands with
  | nil =>
      contradiction
  | cons command rest inductionHypothesis =>
      have isPromise {other : Command app} {promise : Promise app}
          (isOther : other ∈ rest) (made : other.promise? = some promise) :
          promise.id ∈ (promisesIn rest).map (·.id) :=
        List.mem_map_of_mem (List.mem_filterMap.mpr ⟨other, isOther, made⟩)
      have headPromise {promise : Promise app} (made : command.promise? = some promise) :
          promise.id ∉ (promisesIn rest).map (·.id) := by
        rw [promisesIn, List.filterMap_cons_some made, List.map_cons] at distinct
        exact (List.nodup_cons.mp distinct).1
      rcases List.mem_cons.mp isLeft with rfl | leftLater
      · rcases List.mem_cons.mp isRight with rfl | rightLater
        · rfl
        · have isLater := isPromise rightLater rightMade
          rw [← sameId] at isLater
          exact absurd isLater (headPromise leftMade)
      · rcases List.mem_cons.mp isRight with rfl | rightLater
        · have isLater := isPromise leftLater leftMade
          rw [sameId] at isLater
          exact absurd isLater (headPromise rightMade)
        · refine inductionHypothesis ?_ leftLater rightLater
          refine distinct.sublist (List.Sublist.map _ ?_)
          exact (List.sublist_cons_self command rest).filterMap _

end Ledger

/-! ## Every schedule of a fleet -/

/-- What is known of the hooks of a fleet. -/
structure Mirrored (fleet : Fleet app ω) : Prop where
  shared : ∀ name, (fleet name).connection.tokens = fleet.tokens
  named : ∀ name, (fleet name).connection.name = name
  mirrors : Mirrors fleet.tokens fun name => (fleet name).held
  rooted : ∀ name, Rooted (fleet name)

namespace Mirrored

theorem start
    (wire : Nat → ω) (memory : Nat → app.Memory) (limit : Nat → Option Duration) :
    Mirrored (Fleet.start wire memory limit) := by
  refine ⟨fun _ => rfl, fun _ => rfl, ?_, ?_⟩
  · exact Mirrors.start
  · intro name entry isHeld
    contradiction

variable [Wire ω] {fleet : Fleet app ω}

private theorem rooted_adopt
    {machine : Machine app ω} {tokens : TokenTable} {hooks : List Hook}
    (rooted : Rooted machine)
    (cancelled : ∀ token, (machine.connection.tokens.state token).cancelled = true →
      (tokens.state token).cancelled = true) :
    Rooted (machine.adopt tokens hooks) := by
  intro entry isHeld
  rw [Machine.held_adopt] at isHeld
  obtain ⟨message, options, root⟩ := rooted entry isHeld
  refine ⟨message, options, root.mono ?_ ?_ ?_⟩
  · exact (Machine.leads_adopt tokens hooks machine).taken_grows
  · rw [Machine.adopt_eq]
  · rw [Machine.adopt_eq]
    exact cancelled

theorem next
    (mirrored : Mirrored fleet) {name : Nat} {choice : Choice app ω}
    (isOwn : choice.isOwn = true) (sound : Sound (fleet name))
    (bound : (fleet name).accepted.length ≤ 2 ^ 64) :
    Mirrored (fleet.next (name, choice)) := by
  obtain ⟨shared, named, mirrors, rooted⟩ := mirrored
  let moved := (fleet name).next choice
  have handling : Handling (fleet name) moved :=
    (fleet name).handling choice isOwn sound.tracked.ledger bound
  have sameTokens (other : Nat) :
      (fleet.next (name, choice) other).connection.tokens = moved.connection.tokens := by
    by_cases isMover : other = name
    · rw [isMover, Fleet.next_self, Machine.adopt_eq]
    · rw [fleet.next_of_ne choice isMover, Machine.adopt_eq]
  have sameHeld : (fun other => (fleet.next (name, choice) other).held) =
      Function.update (fun other => (fleet other).held) name moved.held := by
    funext other
    by_cases isMover : other = name
    · rw [isMover, Fleet.next_self, Machine.held_adopt, Function.update_self]
    · rw [fleet.next_of_ne choice isMover, Machine.held_adopt, Function.update_of_ne isMover]
  refine ⟨?_, ?_, ?_, ?_⟩
  · intro other
    rw [Fleet.tokens, sameTokens, sameTokens]
  · intro other
    by_cases isMover : other = name
    · rw [isMover, Fleet.next_self, Machine.adopt_eq]
      exact ((fleet name).name_next choice).trans (named name)
    · rw [fleet.next_of_ne choice isMover, Machine.adopt_eq]
      exact named other
  · rw [← shared name] at mirrors
    have mirrored := handling.mirrors mirrors (by rw [named])
    rw [named] at mirrored
    rw [Fleet.tokens, sameTokens, sameHeld]
    exact mirrored
  · intro other
    by_cases isMover : other = name
    · rw [isMover, Fleet.next_self]
      refine rooted_adopt ?_ fun _ => id
      have stroke := (fleet name).stroke choice
      have taken := stroke.taken_prefix
      exact handling.rooted (rooted name) sound.traced taken ((fleet name).limit_next choice)
    · rw [fleet.next_of_ne choice isMover]
      refine rooted_adopt (rooted other) ?_
      intro token wasCancelled
      rw [shared other, ← shared name] at wasCancelled
      exact handling.cancelled wasCancelled

theorem of_reachable (reachable : fleet.Reachable) (lasting : fleet.Lasting) : Mirrored fleet := by
  refine reachable.induction Mirrored start ?_ lasting
  intro before reachableBefore lastingBefore mirrored name choice isOwn
  have sound := (reachableBefore.attained name).sound (lastingBefore name)
  exact mirrored.next isOwn sound (lastingBefore name)

end Mirrored

/-! ## Hooks between two commands -/

namespace Mirrored

variable {fleet : Fleet app ω} {token : Token} {name : Nat}

/-- A held request hangs on a token that is not triggered just when it was sent with that token. -/
theorem hangs_iff
    (mirrored : Mirrored fleet) (ledger : Ledger (fleet name))
    (bound : (fleet name).accepted.length ≤ 2 ^ 64)
    (untriggered : (fleet.tokens.state token).cancelled = false)
    {entry : PendingRequest app} (isHeld : entry ∈ (fleet name).held) :
    (∃ key, entry.attachment = some ⟨token, key⟩) ↔
      entry.id ∈ carrying token (fleet name).taken := by
  obtain ⟨message, options, root⟩ := mirrored.rooted name entry isHeld
  rw [mem_carrying]
  constructor
  · rintro ⟨key, hung⟩
    exact ⟨message, options, entry.sink, root.taken, root.hangs _ hung, root.id.symm⟩
  · rintro ⟨other, otherOptions, sink, isTaken, carried, sameId⟩
    have sameCommand := ledger.eq_of_taken bound isTaken root.taken rfl rfl
      (sameId.trans root.id)
    obtain ⟨-, rfl, -⟩ := Command.request.inj sameCommand
    rcases hung : entry.attachment with - | ⟨onToken, key⟩
    · have wasTriggered := root.untied hung token carried
      rw [mirrored.shared, untriggered] at wasTriggered
      contradiction
    · have sameToken := root.hangs _ hung
      rw [carried, Option.some.injEq] at sameToken
      exact ⟨key, by rw [sameToken]⟩

private theorem ids_hooksOn
    {entries : List (PendingRequest app)} {ids : List MessageId}
    (same : ∀ entry ∈ entries,
      (∃ key, entry.attachment = some ⟨token, key⟩) ↔ entry.id ∈ ids) :
    (hooksOn name token entries).map (·.2.id) =
      (entries.map (·.id)).filter fun id => id ∈ ids := by
  induction entries with
  | nil =>
      rfl
  | cons entry rest inductionHypothesis =>
      have sameLater := inductionHypothesis fun other isOther =>
        same other (List.mem_cons_of_mem entry isOther)
      have sameHere := same entry List.mem_cons_self
      rw [hooksOn_cons, List.map_append, sameLater, List.map_cons, PendingRequest.hook?]
      by_cases isAmong : entry.id ∈ ids
      · obtain ⟨key, hung⟩ := sameHere.mpr isAmong
        simp [hung, isAmong]
      · have notHung := fun hung => isAmong (sameHere.mp hung)
        rcases hung : entry.attachment with - | ⟨other, key⟩
        · simp [isAmong]
        · have different : other ≠ token := by
            rintro rfl
            exact notHung ⟨key, hung⟩
          simp [different, isAmong]

/-- Between two commands of a member, its hooks on a token are those of its pending requests. -/
private theorem perm_awaited
    (mirrored : Mirrored fleet) (ledger : Ledger (fleet name))
    (bound : (fleet name).accepted.length ≤ 2 ^ 64) (idle : (fleet name).agenda = [])
    (untriggered : (fleet.tokens.state token).cancelled = false) :
    (((fleet.tokens.state token).hooksOf name).map (·.2.id)).Perm
      ((fleet name).awaited.filter fun id => id ∈ carrying token (fleet name).taken) := by
  have isHeld : (fleet name).held = (fleet name).connection.pending := by
    rw [Machine.held, idle]
    rfl
  have hooks := mirrored.mirrors.hooks token untriggered name
  have ids : (hooksOn name token (fleet name).held).map (·.2.id) = _ :=
    ids_hooksOn fun entry => mirrored.hangs_iff ledger bound untriggered
  rw [isHeld] at ids hooks
  have listed := hooks.map (·.2.id)
  rwa [ids] at listed

/-- A hook belongs to a request that its connection holds. -/
private theorem held_of_hook
    (mirrored : Mirrored fleet) {key : Nat} {id : MessageId}
    (isHook : (key, (⟨name, id⟩ : Hook)) ∈ (fleet.tokens.state token).hooks) :
    ∃ entry ∈ (fleet name).held, entry.attachment = some ⟨token, key⟩ ∧ entry.id = id := by
  cases triggered : (fleet.tokens.state token).cancelled with
  | true =>
      rw [mirrored.mirrors.triggered token triggered] at isHook
      contradiction
  | false =>
      exact (mirrored.mirrors.mem_hooks_iff triggered).mp isHook

section Held

variable {entry : PendingRequest app} (mirrored : Mirrored fleet) (ledger : Ledger (fleet name))
  (bound : (fleet name).accepted.length ≤ 2 ^ 64) (isHeld : entry ∈ (fleet name).held)

include mirrored ledger bound isHeld

/-- The hook of a held request hangs where its attachment says. -/
private theorem attachment_of_hook {key : Nat}
    (isHook : (key, (⟨name, entry.id⟩ : Hook)) ∈ (fleet.tokens.state token).hooks) :
    entry.attachment = some ⟨token, key⟩ := by
  obtain ⟨other, isOther, hung, sameId⟩ := mirrored.held_of_hook isHook
  rw [← ledger.eq_of_held bound isOther isHeld sameId]
  exact hung

/-- On a token, the hook under the key of a held request is the hook of the request. -/
private theorem key_eq_iff {key : Nat} (hung : entry.attachment = some ⟨token, key⟩)
    {held : Nat × Hook} (isHook : held ∈ (fleet.tokens.state token).hooks) :
    held.1 = key ↔ held.2 = ⟨name, entry.id⟩ := by
  obtain ⟨heldKey, hook⟩ := held
  constructor
  · rintro rfl
    cases triggered : (fleet.tokens.state token).cancelled with
    | true =>
        rw [mirrored.mirrors.triggered token triggered] at isHook
        contradiction
    | false =>
        have own : (heldKey, (⟨name, entry.id⟩ : Hook)) ∈ (fleet.tokens.state token).hooks :=
          (mirrored.mirrors.mem_hooks_iff triggered).mpr ⟨entry, isHeld, hung, rfl⟩
        have samePair := List.inj_on_of_nodup_map (mirrored.mirrors.distinct token) isHook own rfl
        exact congrArg Prod.snd samePair
  · rintro rfl
    have sameKey := mirrored.attachment_of_hook ledger bound isHeld isHook
    rw [hung, Option.some.injEq] at sameKey
    exact (congrArg Attachment.key sameKey).symm

/-- A request that is unhooked takes its own hook off its token and no other hook off any. -/
private theorem hooks_unhook (token : Token) :
    (((fleet name).connection.unhook entry).tokens.state token).hooks =
      (fleet.tokens.state token).hooks.filter fun held => held.2 ≠ ⟨name, entry.id⟩ := by
  have others (noHook : ∀ key, entry.attachment ≠ some ⟨token, key⟩) :
      (fleet.tokens.state token).hooks.filter (fun held => held.2 ≠ ⟨name, entry.id⟩) =
        (fleet.tokens.state token).hooks := by
    apply List.filter_eq_self.mpr
    rintro ⟨key, hook⟩ isHook
    have different : hook ≠ ⟨name, entry.id⟩ := by
      rintro rfl
      exact noHook key (mirrored.attachment_of_hook ledger bound isHeld isHook)
    simpa using different
  rw [unhook]
  rcases hung : entry.attachment with - | ⟨onToken, onKey⟩
  · rw [others (by simp [hung])]
    dsimp only
    rw [mirrored.shared]
  · dsimp only
    rw [mirrored.shared, TokenTable.state_detach]
    dsimp only
    by_cases same : token = onToken
    · subst same
      rw [if_pos rfl]
      apply List.filter_congr
      intro held isHook
      simp [mirrored.key_eq_iff ledger bound isHeld hung isHook]
    · rw [if_neg same, others]
      intro key isHung
      rw [hung, Option.some.injEq] at isHung
      exact same (congrArg Attachment.token isHung).symm

end Held

private theorem tokens_finish [Wire ω]
    {entry : PendingRequest app} {outcome : Except Failure Bytes} {rest : List (Job app)}
    (agenda : (fleet name).agenda = .finish entry outcome :: rest) :
    (fleet.next (name, .work)).tokens = ((fleet name).connection.unhook entry).tokens := by
  have moved : ((fleet name).next .work).connection = (fleet name).connection.unhook entry := by
    rw [Machine.next, agenda]
    rfl
  rw [Fleet.tokens]
  by_cases isFirst : 0 = name
  · rw [isFirst, Fleet.next_self, Machine.adopt_eq, moved]
  · rw [fleet.next_of_ne .work isFirst, Machine.adopt_eq, moved]

end Mirrored

/-- Whatever the members of a fleet do, a token that was triggered has no hooks, and of one that was
not, each connection between two commands has as many hooks as it has pending requests that were sent
with the token, one for each. A worker that has stopped has none, and neither has at any moment a
request that has come to its outcome. A request that is finished takes its own hook off and leaves
all others where they are. -/
theorem hooks_mirror_pending_requests [Wire ω]
    {fleet : Fleet app ω} (reachable : fleet.Reachable) (lasting : fleet.Lasting) (token : Token) :
    (∀ name, (fleet name).connection.tokens = fleet.tokens) ∧
    ((fleet.tokens.state token).cancelled = true → (fleet.tokens.state token).hooks = []) ∧
    ((fleet.tokens.state token).cancelled = false →
      ∀ name, (fleet name).agenda = [] →
        (((fleet.tokens.state token).hooksOf name).map (·.2.id)).Perm
          ((fleet name).awaited.filter fun id => id ∈ carrying token (fleet name).taken)) ∧
    ((fleet.tokens.state token).hooks.map (·.1)).Nodup ∧
    (∀ name, (fleet name).agenda = [] → (fleet name).connection.running = false →
      (fleet.tokens.state token).hooksOf name = []) ∧
    (∀ name, ∀ id ∈ (fleet name).completed,
      ⟨name, id⟩ ∉ (fleet.tokens.state token).hooks.map (·.2)) ∧
    ∀ name entry outcome rest, (fleet name).agenda = .finish entry outcome :: rest →
      ((fleet.next (name, .work)).tokens.state token).hooks =
        (fleet.tokens.state token).hooks.filter fun held => held.2 ≠ ⟨name, entry.id⟩ := by
  have mirrored := Mirrored.of_reachable reachable lasting
  have sound (name : Nat) : Sound (fleet name) := (reachable.attained name).sound (lasting name)
  refine ⟨mirrored.shared, mirrored.mirrors.triggered token, ?_, mirrored.mirrors.distinct token,
    ?_, ?_, ?_⟩
  · intro untriggered name idle
    exact mirrored.perm_awaited (sound name).tracked.ledger (lasting name) idle untriggered
  · intro name idle stopped
    have isEmpty := ((sound name).stopped stopped).1
    apply List.eq_nil_iff_forall_not_mem.mpr
    rintro ⟨key, connection, id⟩ isHook
    obtain ⟨isListed, isName⟩ := List.mem_filter.mp isHook
    obtain rfl : connection = name := of_decide_eq_true isName
    obtain ⟨entry, isHeld, -, -⟩ := mirrored.held_of_hook isListed
    rw [Machine.held, idle, isEmpty] at isHeld
    contradiction
  · intro name id isCompleted isHook
    obtain ⟨⟨key, hook⟩, isListed, rfl⟩ := List.mem_map.mp isHook
    obtain ⟨entry, isHeld, -, rfl⟩ := mirrored.held_of_hook isListed
    have apart := List.disjoint_of_nodup_append
      ((sound name).tracked.ledger.nodup_held (lasting name))
    exact apart (List.mem_map_of_mem isHeld) isCompleted
  · intro name entry outcome rest agenda
    have isHeld : entry ∈ (fleet name).held := by
      simp [Machine.held, agenda, entriesOf, Job.entries]
    rw [Mirrored.tokens_finish agenda]
    exact mirrored.hooks_unhook (sound name).tracked.ledger (lasting name) isHeld token

/-- A request with a token. -/
def askWith (method : String) (token : Token) : Choice bare (MemoryWire Unit) :=
  .act (.request method (.ok none) ⟨none, some token⟩ (.callback fun _ => .done))

/-- A member sends a request with a token, and its worker carries it out. -/
def sendWith (name : Nat) (method : String) (token : Token) :
    List (Nat × Choice bare (MemoryWire Unit)) :=
  (askWith method token :: .take :: List.replicate 4 .work).map fun choice => (name, choice)

/-- Two connections share a token. One of them has two requests with it, and the first is
answered. -/
def shareToken : List (Nat × Choice bare (MemoryWire Unit)) :=
  sendWith 0 "first" 7 ++ sendWith 1 "other" 7 ++ sendWith 0 "second" 7 ++
    (.act (.arrive (.chunk (Framing.encodeFrame (responseTo "1")))) ::
      .take :: List.replicate 6 .work).map fun choice => (0, choice)

/-- Fresh connections. -/
def freshFleet : Fleet bare (MemoryWire Unit) :=
  .start (fun _ => .new) (fun _ => ()) fun _ => none

theorem reachable_freshFleet
    {schedule : List (Nat × Choice bare (MemoryWire Unit))}
    (own : ∀ turn ∈ schedule, turn.2.isOwn = true) : (freshFleet.run schedule).Reachable :=
  ⟨_, _, _, schedule, own, rfl⟩

theorem lasting_freshFleet
    {schedule : List (Nat × Choice bare (MemoryWire Unit))} (short : schedule.length ≤ 2 ^ 64) :
    (freshFleet.run schedule).Lasting := by
  apply Fleet.lasting_run
  intro name
  have atStart : (freshFleet name).accepted = [] := rfl
  rw [atStart]
  simpa using short

theorem shared_token_has_hooks_of_both :
    let reached := freshFleet.run shareToken
    reached.Reachable ∧ reached.Lasting ∧
      (reached.tokens.state 7).hooks.map (·.2) = [⟨1, .number 1⟩, ⟨0, .number 2⟩] ∧
      (reached 0).completed = [.number 1] ∧
      (((reached.tokens.state 7).hooksOf 0).map (·.2.id)).Perm
        ((reached 0).awaited.filter fun id => id ∈ carrying 7 (reached 0).taken) ∧
      ⟨0, .number 1⟩ ∉ (reached.tokens.state 7).hooks.map (·.2) := by
  intro reached
  have reachable : reached.Reachable := reachable_freshFleet (by decide +kernel)
  have lasting : reached.Lasting := lasting_freshFleet (by decide +kernel)
  have mirrors := hooks_mirror_pending_requests reachable lasting 7
  have untriggered : (reached.tokens.state 7).cancelled = false := by decide +kernel
  have isEmpty : (reached 0).agenda.isEmpty = true := by decide +kernel
  have completed : (reached 0).completed = [.number 1] := by decide +kernel
  obtain ⟨-, -, hooks, -, -, bare, -⟩ := mirrors
  refine ⟨reachable, lasting, by decide +kernel, completed, ?_, ?_⟩
  · exact hooks untriggered 0 (List.isEmpty_iff.mp isEmpty)
  · apply bare 0
    simp [completed]

end RpcEndpoint
