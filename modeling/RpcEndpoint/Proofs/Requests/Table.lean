import Mathlib.Data.List.Perm.Basic
import RpcEndpoint.Proofs.Schedule.Job

/-!
# The table of pending requests

As long as no two entries have one identifier (`Distinct`), whatever is taken out of the table and
what stays in it make up the table again.
-/

namespace RpcEndpoint.PendingTable

variable {app : Application} {table : PendingTable app} {id : MessageId}

/-- The identifiers of the pending requests. -/
def ids (table : PendingTable app) : List MessageId :=
  table.map (·.id)

/-- No two entries have one identifier. -/
def Distinct (table : PendingTable app) : Prop :=
  table.ids.Nodup

/-- What is still owed to the senders of pending requests. -/
def promises (table : PendingTable app) : List (Promise app) :=
  table.map (·.promise)

theorem map_id_promises (table : PendingTable app) :
    table.promises.map (·.id) = table.ids := by
  simp [promises, ids, PendingRequest.promise]

/-! ## Search -/

theorem mem_of_find
    {entry : PendingRequest app} (found : table.find id = some entry) : entry ∈ table :=
  List.mem_of_find?_eq_some found

theorem id_of_find
    {entry : PendingRequest app} (found : table.find id = some entry) : entry.id = id := by
  simpa using List.find?_some found

theorem find_eq_none_iff : table.find id = none ↔ id ∉ table.ids := by
  simp [find, ids]

theorem mem_ids_of_find
    {entry : PendingRequest app} (found : table.find id = some entry) : id ∈ table.ids :=
  List.mem_map.mpr ⟨entry, mem_of_find found, id_of_find found⟩

/-! ## Removal -/

theorem mem_ids_remove {other : MessageId} :
    other ∈ (table.remove id).ids ↔ other ∈ table.ids ∧ other ≠ id := by
  simp only [ids, remove, List.mem_map, List.mem_filter, decide_eq_true_eq]
  constructor
  · rintro ⟨entry, ⟨held, different⟩, rfl⟩
    exact ⟨⟨entry, held, rfl⟩, different⟩
  · rintro ⟨⟨entry, held, rfl⟩, different⟩
    exact ⟨entry, ⟨held, different⟩, rfl⟩

theorem remove_of_not_mem (absent : id ∉ table.ids) : table.remove id = table := by
  refine List.filter_eq_self.mpr ?_
  intro entry held
  have different : entry.id ≠ id := by
    rintro rfl
    exact absent (List.mem_map_of_mem held)
  simpa using different

theorem find_remove {other : MessageId} (different : other ≠ id) :
    (table.remove other).find id = table.find id := by
  rw [find, remove, find, List.find?_filter]
  congr 1
  funext held
  by_cases here : held.id = id
  · simp [here, different.symm]
  · simp [here]

/-- The entry that a search finds is the only one that a removal removes. -/
theorem perm_remove
    (distinct : table.Distinct) {entry : PendingRequest app}
    (found : table.find id = some entry) :
    table.Perm (entry :: table.remove id) := by
  induction table with
  | nil =>
      contradiction
  | cons head rest inductionHypothesis =>
      obtain ⟨isNew, restDistinct⟩ := List.nodup_cons.mp distinct
      by_cases here : head.id = id
      · subst here
        have isEntry : head = entry := by
          simpa [find] using found
        subst isEntry
        have kept : remove head.id (head :: rest) = rest := by
          rw [remove, List.filter_cons_of_neg (by simp)]
          exact remove_of_not_mem isNew
        rw [kept]
      · have later : find id rest = some entry := by
          simpa [find, here] using found
        have kept : remove id (head :: rest) =
            head :: remove id rest := by
          simp [remove, here]
        rw [kept]
        exact ((inductionHypothesis restDistinct later).cons head).trans
          (List.Perm.swap entry head _)

/-! ## Entry and expiry -/

theorem insert_of_not_mem
    {entry : PendingRequest app} (isNew : entry.id ∉ table.ids) :
    table.insert entry = table ++ [entry] := by
  rw [insert]
  exact congrArg (· ++ [entry]) (remove_of_not_mem isNew)

theorem find_insert (entry : PendingRequest app) (table : PendingTable app) :
    (table.insert entry).find entry.id = some entry := by
  have noOther : (table.filter fun held => held.id ≠ entry.id).find?
      (fun held => held.id = entry.id) = none := by
    simp
  rw [insert, find, List.find?_append, noOther]
  simp

/-- A request that is new to the table leaves it as it was. -/
theorem remove_insert
    {entry : PendingRequest app} (isNew : entry.id ∉ table.ids) :
    (table.insert entry).remove entry.id = table := by
  have others : table.remove entry.id = table := remove_of_not_mem isNew
  rw [insert_of_not_mem isNew, remove, List.filter_append, ← remove, others]
  simp

theorem mem_ids_insert {entry : PendingRequest app} :
    id ∈ (table.insert entry).ids → id ∈ table.ids ∨ id = entry.id := by
  intro held
  have split : (table.insert entry).ids = (table.remove entry.id).ids ++ [entry.id] := by
    simp [ids, insert, remove]
  rw [split, List.mem_append, List.mem_singleton] at held
  exact held.imp (fun old => (mem_ids_remove.mp old).1) fun isEntry => isEntry

theorem perm_inOrder (table : PendingTable app) : table.Perm table.inOrder :=
  (List.mergeSort_perm table _).symm

theorem perm_due (now : Instant) (table : PendingTable app) :
    table.Perm (table.due now ++ table.notDue now) := by
  have parted := List.filter_append_perm (fun entry : PendingRequest app => entry.isDue now) table
  exact parted.symm.trans ((perm_inOrder _).append_right _)

end RpcEndpoint.PendingTable
