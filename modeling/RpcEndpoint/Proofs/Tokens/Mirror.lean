import Mathlib.Data.List.Nodup
import Mathlib.Logic.Function.Basic
import RpcEndpoint.Connection.Pending

/-!
# Tokens and the requests that hang on them

The requests of several connections, told apart by their names, may hang on one token. `Mirrors`
says that the hooks of a token are the hooks of these requests and no others, as long as the token
is not triggered, and that a triggered token has no hooks. It survives whatever is done to the table
of tokens, if the requests change along with it.
-/

namespace RpcEndpoint

variable {app : Application}

namespace TokenTable

/-! ## States -/

theorem token_state (token : Token) (table : TokenTable) : (table.state token).token = token := by
  unfold state
  cases found : table.find? fun held => held.token = token with
  | none =>
      rfl
  | some held =>
      simpa using List.find?_some found

@[simp]
theorem state_put (token : Token) (state : TokenState) (table : TokenTable) :
    (table.put state).state token = if token = state.token then state else table.state token := by
  unfold put
  rw [TokenTable.state, List.find?_cons]
  by_cases same : token = state.token
  · simp [same]
  · have other : decide (state.token = token) = false := by
      simpa using Ne.symm same
    rw [other, if_neg same, TokenTable.state, List.find?_filter]
    dsimp only
    congr 2
    funext held
    by_cases here : held.token = token
    · simp [here, same]
    · simp [here]

theorem state_cancel (token other : Token) (table : TokenTable) :
    ((table.cancel token).2.state other) =
      if other = token ∧ (table.state token).cancelled = false then
        { table.state token with cancelled := true, hooks := [] }
      else table.state other := by
  unfold cancel
  cases cancelled : (table.state token).cancelled with
  | true =>
      simp [cancelled]
  | false =>
      simp [cancelled, token_state]

theorem hooks_cancel
    {token : Token} {table : TokenTable} (untriggered : (table.state token).cancelled = false) :
    (table.cancel token).1 = (table.state token).hooks.map (·.2) := by
  unfold cancel
  dsimp only
  rw [untriggered]
  rfl

theorem attach?_eq_none_iff {token : Token} {hook : Hook} {table : TokenTable} :
    table.attach? token hook = none ↔ (table.state token).cancelled = true := by
  unfold attach?
  cases cancelled : (table.state token).cancelled <;> simp [cancelled]

/-- A token takes a hook under the next key. -/
theorem attach?_eq_some
    {token : Token} {hook : Hook} {table after : TokenTable} {attachment : Attachment}
    (attached : table.attach? token hook = some (attachment, after)) :
    (table.state token).cancelled = false ∧
      attachment = ⟨token, (table.state token).nextKey⟩ ∧
      ∀ other, after.state other =
        if other = token then
          { table.state token with
            nextKey := (table.state token).nextKey + 1
            hooks := (table.state token).hooks ++ [((table.state token).nextKey, hook)] }
        else table.state other := by
  unfold attach? at attached
  cases cancelled : (table.state token).cancelled with
  | true =>
      simp [cancelled] at attached
  | false =>
      simp only [cancelled, Bool.false_eq_true, if_false, Option.some.injEq,
        Prod.mk.injEq] at attached
      obtain ⟨rfl, rfl⟩ := attached
      refine ⟨rfl, rfl, ?_⟩
      intro other
      simp [token_state, cancelled]

theorem state_detach (attachment : Attachment) (other : Token) (table : TokenTable) :
    (table.detach attachment).state other =
      if other = attachment.token then
        { table.state attachment.token with
          hooks := (table.state attachment.token).hooks.filter
            fun held => held.1 ≠ attachment.key }
      else table.state other := by
  unfold detach
  simp [token_state]

end TokenTable

/-! ## Hooks of requests -/

/-- The hook of a request on a token, under its key, if it has one there. -/
def PendingRequest.hook? (name : Nat) (token : Token) (entry : PendingRequest app) :
    Option (Nat × Hook) :=
  match entry.attachment with
  | some attachment =>
    if attachment.token = token then some (attachment.key, ⟨name, entry.id⟩) else none
  | none => none

theorem PendingRequest.hook?_of_tied
    {entry : PendingRequest app} {attachment : Attachment}
    (tied : entry.attachment = some attachment) (name : Nat) (token : Token) :
    entry.hook? name token =
      if token = attachment.token then some (attachment.key, ⟨name, entry.id⟩) else none := by
  rw [PendingRequest.hook?, tied]
  dsimp only
  by_cases same : token = attachment.token
  · rw [if_pos same, if_pos same.symm]
  · rw [if_neg same, if_neg (Ne.symm same)]

/-- The hooks of requests on a token. -/
def hooksOn (name : Nat) (token : Token) (entries : List (PendingRequest app)) :
    List (Nat × Hook) :=
  entries.filterMap (PendingRequest.hook? name token)

/-- The hooks that a token holds for the connection of a name. -/
def TokenState.hooksOf (name : Nat) (state : TokenState) : List (Nat × Hook) :=
  state.hooks.filter fun held => held.2.connection = name

theorem TokenState.hooksOf_append
    (member name key next : Nat) (id : MessageId) (state : TokenState) :
    TokenState.hooksOf member
        { state with nextKey := next, hooks := state.hooks ++ [(key, ⟨name, id⟩)] } =
      state.hooksOf member ++ if name = member then [(key, ⟨name, id⟩)] else [] := by
  simp only [TokenState.hooksOf, List.filter_append]
  by_cases isName : name = member <;> simp [isName]

theorem TokenState.hooksOf_filter
    (member : Nat) (isKept : Nat × Hook → Bool) (state : TokenState) :
    TokenState.hooksOf member { state with hooks := state.hooks.filter isKept } =
      (state.hooksOf member).filter isKept := by
  simp only [TokenState.hooksOf, List.filter_filter]
  congr 1
  funext hook
  exact Bool.and_comm _ _

theorem hooksOn_cons
    (name : Nat) (token : Token) (entry : PendingRequest app)
    (rest : List (PendingRequest app)) :
    hooksOn name token (entry :: rest) =
      (entry.hook? name token).toList ++ hooksOn name token rest := by
  unfold hooksOn
  cases found : entry.hook? name token with
  | none =>
      exact List.filterMap_cons_none found
  | some hook =>
      exact List.filterMap_cons_some found

theorem mem_hooksOn {name key : Nat} {token : Token} {id : MessageId}
    {entries : List (PendingRequest app)} :
    (key, (⟨name, id⟩ : Hook)) ∈ hooksOn name token entries ↔
      ∃ entry ∈ entries, entry.attachment = some ⟨token, key⟩ ∧ entry.id = id := by
  simp only [hooksOn, List.mem_filterMap]
  refine exists_congr fun entry => and_congr_right fun _ => ?_
  unfold PendingRequest.hook?
  rcases entry.attachment with - | ⟨other, otherKey⟩
  · simp
  · by_cases same : other = token
    · simp [same]
    · simp [same]

/-- The hooks of a token are those of the requests that hang on it. -/
structure Mirrors (table : TokenTable) (held : Nat → List (PendingRequest app)) : Prop where
  triggered : ∀ token, (table.state token).cancelled = true → (table.state token).hooks = []
  fresh : ∀ token, ∀ hook ∈ (table.state token).hooks, hook.1 < (table.state token).nextKey
  distinct : ∀ token, ((table.state token).hooks.map (·.1)).Nodup
  hooks : ∀ token, (table.state token).cancelled = false → ∀ name,
    ((table.state token).hooksOf name).Perm (hooksOn name token (held name))

namespace Mirrors

variable {table : TokenTable} {held : Nat → List (PendingRequest app)}

theorem start : Mirrors [] (fun _ => ([] : List (PendingRequest app))) := by
  refine ⟨?_, ?_, ?_, ?_⟩
  · intro token _
    rfl
  · intro token hook isHook
    contradiction
  · intro token
    exact List.nodup_nil
  · intro token _ name
    exact .refl _

/-- A token has a hook just when a request hangs on it there. -/
theorem mem_hooks_iff
    (mirrors : Mirrors table held) {token : Token}
    (untriggered : (table.state token).cancelled = false)
    {name key : Nat} {id : MessageId} :
    (key, (⟨name, id⟩ : Hook)) ∈ (table.state token).hooks ↔
      ∃ entry ∈ held name, entry.attachment = some ⟨token, key⟩ ∧ entry.id = id := by
  have listed : (key, (⟨name, id⟩ : Hook)) ∈ hooksOn name token (held name) ↔ _ := mem_hooksOn
  rw [← listed, ← (mirrors.hooks token untriggered name).mem_iff, TokenState.hooksOf,
    List.mem_filter]
  simp

/-- It does not matter where the requests are as long as their hooks are the same. -/
theorem regroup
    (mirrors : Mirrors table held) {after : Nat → List (PendingRequest app)}
    (same : ∀ name token,
      (hooksOn name token (after name)).Perm (hooksOn name token (held name))) :
    Mirrors table after := by
  refine ⟨mirrors.triggered, mirrors.fresh, mirrors.distinct, ?_⟩
  intro token untriggered name
  exact (mirrors.hooks token untriggered name).trans (same name token).symm

/-- Two hooks of a token with one key are the same. -/
private theorem eq_of_key
    (mirrors : Mirrors table held) {token : Token} {left right : Nat × Hook}
    (isLeft : left ∈ (table.state token).hooks) (isRight : right ∈ (table.state token).hooks)
    (sameKey : left.1 = right.1) : left = right :=
  List.inj_on_of_nodup_map (mirrors.distinct token) isLeft isRight sameKey

/-- A request that a token has taken is one more. -/
theorem attach
    (mirrors : Mirrors table held) {name : Nat} {token : Token} {entry : PendingRequest app}
    {attachment : Attachment} {after : TokenTable}
    (tied : entry.attachment = some attachment)
    (attached : table.attach? token ⟨name, entry.id⟩ = some (attachment, after)) :
    Mirrors after (Function.update held name (entry :: held name)) := by
  obtain ⟨untriggered, isAttachment, states⟩ := TokenTable.attach?_eq_some attached
  subst isAttachment
  refine ⟨?_, ?_, ?_, ?_⟩
  · intro other triggered
    rw [states] at triggered ⊢
    by_cases same : other = token
    · rw [if_pos same] at triggered
      rw [untriggered] at triggered
      contradiction
    · rw [if_neg same] at triggered ⊢
      exact mirrors.triggered other triggered
  · intro other hook held
    rw [states] at held ⊢
    by_cases same : other = token
    · rw [if_pos same] at held ⊢
      rcases List.mem_append.mp held with wasHeld | isNew
      · exact Nat.lt_succ_of_lt (mirrors.fresh token hook wasHeld)
      · rw [List.mem_singleton.mp isNew]
        exact Nat.lt_succ_self _
    · rw [if_neg same] at held ⊢
      exact mirrors.fresh other hook held
  · intro other
    rw [states]
    by_cases same : other = token
    · rw [if_pos same]
      simp only [List.map_append, List.map_cons, List.map_nil]
      refine List.nodup_append_comm.mp (List.nodup_cons.mpr ⟨?_, mirrors.distinct token⟩)
      intro isKey
      obtain ⟨hook, isHeld, sameKey⟩ := List.mem_map.mp isKey
      exact absurd (mirrors.fresh token hook isHeld) (by omega)
    · rw [if_neg same]
      exact mirrors.distinct other
  · intro other stillUntriggered member
    rw [states] at stillUntriggered ⊢
    by_cases same : other = token
    · rw [if_pos same]
      have wasMirrored := mirrors.hooks token untriggered member
      rw [TokenState.hooksOf_append]
      by_cases isName : name = member
      · rw [if_pos isName, ← isName, Function.update_self, hooksOn_cons,
          entry.hook?_of_tied tied, if_pos same]
        rw [← isName] at wasMirrored
        refine (List.perm_append_comm).trans ?_
        rw [same]
        exact wasMirrored.cons _
      · rw [if_neg isName, List.append_nil, Function.update_of_ne (Ne.symm isName), same]
        exact wasMirrored
    · rw [if_neg same] at stillUntriggered ⊢
      have wasMirrored := mirrors.hooks other stillUntriggered member
      by_cases isName : member = name
      · rw [isName, Function.update_self, hooksOn_cons, entry.hook?_of_tied tied, if_neg same]
        rw [isName] at wasMirrored
        exact wasMirrored
      · rw [Function.update_of_ne isName]
        exact wasMirrored

section Parting

variable {name : Nat} {entry : PendingRequest app} {attachment : Attachment}
  {rest : List (PendingRequest app)}

/-- The hooks of a connection are those of one of its requests and of the others. -/
private theorem perm_parted
    (mirrors : Mirrors table held) (parted : (held name).Perm (entry :: rest)) {token : Token}
    (untriggered : (table.state token).cancelled = false) :
    ((table.state token).hooksOf name).Perm
      ((entry.hook? name token).toList ++ hooksOn name token rest) := by
  have listed := parted.filterMap (PendingRequest.hook? name token)
  change (hooksOn name token (held name)).Perm (hooksOn name token (entry :: rest)) at listed
  rw [hooksOn_cons] at listed
  exact (mirrors.hooks token untriggered name).trans listed

/-- Without the hook of one request, the hooks of each connection are those of its others. -/
private theorem perm_without
    (mirrors : Mirrors table held) (tied : entry.attachment = some attachment)
    (parted : (held name).Perm (entry :: rest))
    (untriggered : (table.state attachment.token).cancelled = false) (member : Nat) :
    (((table.state attachment.token).hooksOf member).filter
        fun hook => hook.1 ≠ attachment.key).Perm
      (hooksOn member attachment.token (Function.update held name rest member)) := by
  have own := mirrors.perm_parted parted untriggered
  rw [entry.hook?_of_tied tied, if_pos rfl, Option.toList_some, List.singleton_append] at own
  have isListed : (attachment.key, (⟨name, entry.id⟩ : Hook)) ∈
      (table.state attachment.token).hooks :=
    (List.mem_filter.mp (own.mem_iff.mpr List.mem_cons_self)).1
  by_cases isName : member = name
  · subst isName
    rw [Function.update_self]
    have keys : (((attachment.key, (⟨member, entry.id⟩ : Hook)) ::
        hooksOn member attachment.token rest).map (·.1)).Nodup := by
      refine (own.map (·.1)).nodup_iff.mp ?_
      exact (mirrors.distinct _).sublist (List.filter_sublist.map _)
    have others : (hooksOn member attachment.token rest).filter
        (fun hook => hook.1 ≠ attachment.key) = hooksOn member attachment.token rest := by
      refine List.filter_eq_self.mpr ?_
      intro hook isRest
      have different : hook.1 ≠ attachment.key := by
        intro sameKey
        refine (List.nodup_cons.mp keys).1 ?_
        exact List.mem_map.mpr ⟨hook, isRest, sameKey⟩
      exact decide_eq_true different
    have filtered := own.filter fun hook => hook.1 ≠ attachment.key
    rwa [List.filter_cons_of_neg (by simp), others] at filtered
  · rw [Function.update_of_ne isName]
    -- A key belongs to one hook, and that is of another connection.
    have others : ((table.state attachment.token).hooksOf member).filter
        (fun hook => hook.1 ≠ attachment.key) =
          (table.state attachment.token).hooksOf member := by
      refine List.filter_eq_self.mpr ?_
      intro hook isMember
      obtain ⟨isOther, isConnection⟩ := List.mem_filter.mp isMember
      have different : hook.1 ≠ attachment.key := by
        intro sameKey
        have sameHook := mirrors.eq_of_key isOther isListed sameKey
        rw [sameHook] at isConnection
        exact isName (of_decide_eq_true isConnection).symm
      exact decide_eq_true different
    rw [others]
    exact mirrors.hooks _ untriggered member

/-- A request that leaves takes its own hook along and no other. -/
theorem detach
    (mirrors : Mirrors table held) (tied : entry.attachment = some attachment)
    (parted : (held name).Perm (entry :: rest)) :
    Mirrors (table.detach attachment) (Function.update held name rest) := by
  refine ⟨?_, ?_, ?_, ?_⟩
  · intro other triggered
    rw [TokenTable.state_detach] at triggered ⊢
    by_cases same : other = attachment.token
    · rw [if_pos same] at triggered ⊢
      simp [mirrors.triggered _ triggered]
    · rw [if_neg same] at triggered ⊢
      exact mirrors.triggered other triggered
  · intro other hook isHeld
    rw [TokenTable.state_detach] at isHeld ⊢
    by_cases same : other = attachment.token
    · rw [if_pos same] at isHeld ⊢
      exact mirrors.fresh _ hook (List.mem_filter.mp isHeld).1
    · rw [if_neg same] at isHeld ⊢
      exact mirrors.fresh other hook isHeld
  · intro other
    rw [TokenTable.state_detach]
    by_cases same : other = attachment.token
    · rw [if_pos same]
      exact (mirrors.distinct _).sublist (List.filter_sublist.map _)
    · rw [if_neg same]
      exact mirrors.distinct other
  · intro other untriggered member
    rw [TokenTable.state_detach] at untriggered ⊢
    by_cases same : other = attachment.token
    · rw [if_pos same] at untriggered ⊢
      rw [TokenState.hooksOf_filter, same]
      exact mirrors.perm_without tied parted untriggered member
    · rw [if_neg same] at untriggered ⊢
      by_cases isName : member = name
      · have own := mirrors.perm_parted parted untriggered
        rw [entry.hook?_of_tied tied, if_neg same] at own
        rw [isName, Function.update_self]
        exact own
      · rw [Function.update_of_ne isName]
        exact mirrors.hooks other untriggered member

end Parting

/-- A token that is triggered gives up its hooks, and their requests keep stale attachments. -/
theorem cancel (mirrors : Mirrors table held) (token : Token) :
    Mirrors (table.cancel token).2 held := by
  refine ⟨?_, ?_, ?_, ?_⟩
  · intro other triggered
    rw [TokenTable.state_cancel] at triggered ⊢
    split
    · rfl
    · rename_i kept
      rw [if_neg kept] at triggered
      exact mirrors.triggered other triggered
  · intro other hook isHeld
    rw [TokenTable.state_cancel] at isHeld ⊢
    split at isHeld
    · contradiction
    · rename_i kept
      rw [if_neg kept]
      exact mirrors.fresh other hook isHeld
  · intro other
    rw [TokenTable.state_cancel]
    split
    · exact List.nodup_nil
    · exact mirrors.distinct other
  · intro other untriggered member
    rw [TokenTable.state_cancel] at untriggered ⊢
    split at untriggered
    · contradiction
    · rename_i kept
      rw [if_neg kept]
      exact mirrors.hooks other untriggered member

end Mirrors

end RpcEndpoint
