import Mathlib.Data.List.Induction
import RpcEndpoint.Json.Value

/-!
# Members in order

The names in every object of a sorted value ascend, and a value of which that is true is not changed
by sorting it.
-/

namespace RpcEndpoint.Json

/-- The names of the members ascend, so that each stands once. -/
def Ascending (members : List (String × Value)) : Prop :=
  members.Pairwise fun member later => member.1 < later.1

theorem ascending_iff {members : List (String × Value)} :
    Ascending members ↔ (members.map Prod.fst).Pairwise (· < ·) :=
  List.pairwise_map.symm

/-- The names in every object of the value ascend. -/
inductive Value.Ordered : Value → Prop
  | null : Ordered .null
  | bool (held : Bool) : Ordered (.bool held)
  | number (number : Number) : Ordered (.number number)
  | string (text : String) : Ordered (.string text)
  | array {items : List Value} (ordered : ∀ item ∈ items, Ordered item) : Ordered (.array items)
  | object {members : List (String × Value)} (ascending : Ascending members)
      (ordered : ∀ member ∈ members, Ordered member.2) : Ordered (.object members)

/-! ## Insertion -/

private theorem mem_insertMember
    {name : String} {value : Value} {members : List (String × Value)} {member : String × Value}
    (isHeld : member ∈ insertMember name value members) :
    member = (name, value) ∨ member ∈ members := by
  induction members with
  | nil =>
      exact .inl (List.mem_singleton.mp isHeld)
  | cons first rest inductionHypothesis =>
      rw [insertMember] at isHeld
      split at isHeld
      · exact List.mem_cons.mp isHeld
      · split at isHeld
        · exact (List.mem_cons.mp isHeld).imp_right (List.mem_cons_of_mem _)
        · rcases List.mem_cons.mp isHeld with isFirst | isLater
          · exact .inr (isFirst ▸ List.mem_cons_self)
          · exact (inductionHypothesis isLater).imp_right (List.mem_cons_of_mem _)

private theorem ascending_insertMember
    (name : String) (value : Value) {members : List (String × Value)}
    (ascending : Ascending members) : Ascending (insertMember name value members) := by
  induction members with
  | nil =>
      exact List.pairwise_singleton _ _
  | cons first rest inductionHypothesis =>
      obtain ⟨isFirst, ascendingRest⟩ := List.pairwise_cons.mp ascending
      rw [insertMember]
      split
      · rename_i isBefore
        refine List.pairwise_cons.mpr ⟨fun later isLater => ?_, ascending⟩
        rcases List.mem_cons.mp isLater with rfl | isInRest
        · exact isBefore
        · exact String.lt_trans isBefore (isFirst later isInRest)
      · rename_i isNotBefore
        split
        · rename_i isSame
          exact List.pairwise_cons.mpr ⟨isSame ▸ isFirst, ascendingRest⟩
        · rename_i isOther
          refine List.pairwise_cons.mpr ⟨fun later isLater => ?_, inductionHypothesis ascendingRest⟩
          rcases mem_insertMember isLater with rfl | isInRest
          · exact Std.lt_of_le_of_ne (String.not_lt.mp isNotBefore) (Ne.symm isOther)
          · exact isFirst later isInRest

private theorem ascending_sortMembers (members : List (String × Value)) :
    Ascending (sortMembers members) := by
  induction members using List.reverseRecOn with
  | nil =>
      exact .nil
  | append_singleton earlier member inductionHypothesis =>
      rw [sortMembers, List.foldl_append]
      exact ascending_insertMember member.1 member.2 inductionHypothesis

theorem mem_sortMembers
    {members : List (String × Value)} {member : String × Value}
    (isHeld : member ∈ sortMembers members) : member ∈ members := by
  induction members using List.reverseRecOn with
  | nil =>
      exact isHeld
  | append_singleton earlier last inductionHypothesis =>
      rw [sortMembers, List.foldl_append] at isHeld
      rcases mem_insertMember isHeld with rfl | isEarlier
      · exact List.mem_append_right _ List.mem_cons_self
      · exact List.mem_append_left _ (inductionHypothesis isEarlier)

/-- A member of a new name is added. -/
private theorem perm_insertMember
    {name : String} {members : List (String × Value)}
    (isNew : ∀ member ∈ members, member.1 ≠ name) (value : Value) :
    (insertMember name value members).Perm ((name, value) :: members) := by
  induction members with
  | nil =>
      exact .refl _
  | cons first rest inductionHypothesis =>
      have inserted := inductionHypothesis fun member isMember =>
        isNew member (List.mem_cons_of_mem _ isMember)
      rw [insertMember]
      split
      · exact .refl _
      · rw [if_neg (isNew first List.mem_cons_self).symm]
        exact (inserted.cons first).trans (.swap _ _ _)

/-- Members of different names stay what they are. -/
private theorem perm_sortMembers
    {members : List (String × Value)}
    (distinct : members.Pairwise fun member other => member.1 ≠ other.1) :
    (sortMembers members).Perm members := by
  induction members using List.reverseRecOn with
  | nil =>
      exact .refl _
  | append_singleton earlier last inductionHypothesis =>
      obtain ⟨distinctEarlier, -, isNew⟩ := List.pairwise_append.mp distinct
      rw [sortMembers, List.foldl_append]
      have inserted : (insertMember last.1 last.2 (sortMembers earlier)).Perm
          (last :: sortMembers earlier) :=
        perm_insertMember (fun member isMember =>
          isNew member (mem_sortMembers isMember) last List.mem_cons_self) last.2
      exact inserted.trans (((inductionHypothesis distinctEarlier).cons last).trans
        (List.perm_append_singleton last earlier).symm)

/-- Members are sorted in one way only. -/
theorem sortMembers_eq_of_perm
    {members sorted : List (String × Value)} (perm : members.Perm sorted)
    (ascending : Ascending sorted) : sortMembers members = sorted := by
  have distinct : sorted.Pairwise fun member other => member.1 ≠ other.1 :=
    List.Pairwise.imp String.ne_of_lt ascending
  have samePerm := (perm_sortMembers (distinct.perm perm.symm Ne.symm)).trans perm
  refine samePerm.eq_of_pairwise ?_ (ascending_sortMembers members) ascending
  intro member other _ _ isBefore isBehind
  exact absurd isBehind (String.lt_asymm isBefore)

/-! ## Sorted values -/

theorem sortedItems_eq (items : List Value) : sortedItems items = items.map .sorted := by
  induction items with
  | nil =>
      rfl
  | cons item rest inductionHypothesis =>
      rw [sortedItems, inductionHypothesis, List.map_cons]

theorem sortedMembers_eq (members : List (String × Value)) :
    sortedMembers members = members.map fun member => (member.1, member.2.sorted) := by
  induction members with
  | nil =>
      rfl
  | cons member rest inductionHypothesis =>
      rw [sortedMembers, inductionHypothesis, List.map_cons]

theorem Value.Ordered.sorted_eq {value : Value} (ordered : value.Ordered) :
    value.sorted = value := by
  induction ordered with
  | null | bool _ | number _ | string _ => rfl
  | array ordered inductionHypothesis =>
      rw [sorted, sortedItems_eq, List.map_congr_left inductionHypothesis, List.map_id']
  | object ascending ordered inductionHypothesis =>
      rw [sorted, sortedMembers_eq, List.map_congr_left (g := id), List.map_id,
        sortMembers_eq_of_perm (.refl _) ascending]
      intro member isMember
      exact Prod.ext rfl (inductionHypothesis member isMember)

mutual

theorem Value.ordered_sorted : (value : Value) → value.sorted.Ordered
  | .null => .null
  | .bool held => .bool held
  | .number number => .number number
  | .string text => .string text
  | .array items => .array (ordered_sortedItems items)
  | .object members =>
      .object (ascending_sortMembers _) fun member isHeld =>
        ordered_sortedMembers members member (mem_sortMembers isHeld)

private theorem ordered_sortedItems :
    (items : List Value) → ∀ item ∈ sortedItems items, item.Ordered
  | [] => by
      intro item isItem
      contradiction
  | first :: rest => by
      intro item isItem
      rcases List.mem_cons.mp isItem with rfl | isInRest
      · exact first.ordered_sorted
      · exact ordered_sortedItems rest item isInRest

private theorem ordered_sortedMembers :
    (members : List (String × Value)) → ∀ member ∈ sortedMembers members, member.2.Ordered
  | [] => by
      intro member isMember
      contradiction
  | (name, value) :: rest => by
      intro member isMember
      rcases List.mem_cons.mp isMember with rfl | isInRest
      · exact value.ordered_sorted
      · exact ordered_sortedMembers rest member isInRest

end

end RpcEndpoint.Json
