import RpcEndpoint.Proofs.Requests.Table

/-!
# Deadlines

The table knows its earliest deadline, and it gives out the requests whose time is up. The two agree
at every instant: something is given out just when the earliest deadline has come.
-/

namespace RpcEndpoint

variable {app : Application}

/-! ## The order of identifiers -/

namespace MessageId

theorem before_asymm {left right : MessageId} (isBefore : left.before right = true) :
    right.before left = false := by
  cases left with
  | number left =>
      cases right with
      | number right =>
          simp only [before, decide_eq_true_eq, decide_eq_false_iff_not,
            Int64.lt_iff_toInt_lt] at isBefore ⊢
          omega
      | string right => rfl
  | string left =>
      cases right with
      | number right => contradiction
      | string right =>
          simp only [before, decide_eq_true_eq, decide_eq_false_iff_not] at isBefore ⊢
          exact fun isAfter => String.lt_irrefl left (String.lt_trans isBefore isAfter)

theorem not_before_trans {first second third : MessageId}
    (firstSecond : second.before first = false) (secondThird : third.before second = false) :
    third.before first = false := by
  cases first <;> cases second <;> cases third <;>
    simp only [before, decide_eq_false_iff_not, Int64.lt_iff_toInt_lt, reduceCtorEq]
      at firstSecond secondThird ⊢
  · omega
  · exact String.not_lt.mpr
      (String.le_trans (String.not_lt.mp firstSecond) (String.not_lt.mp secondThird))

/-- Of two identifiers one comes before the other. -/
theorem before_of_not_before {left right : MessageId}
    (notBefore : right.before left = false) (different : left ≠ right) :
    left.before right = true := by
  cases left with
  | number left =>
      cases right with
      | number right =>
          have notSame : left.toInt ≠ right.toInt := by
            intro same
            exact different (congrArg number (Int64.toInt_inj.mp same))
          simp only [before, decide_eq_true_eq, decide_eq_false_iff_not,
            Int64.lt_iff_toInt_lt] at notBefore ⊢
          omega
      | string right => rfl
  | string left =>
      cases right with
      | number right => contradiction
      | string right =>
          simp only [before, decide_eq_true_eq, decide_eq_false_iff_not] at notBefore ⊢
          by_contra notLess
          exact different (congrArg string
            (String.le_antisymm (String.not_lt.mp notBefore) (String.not_lt.mp notLess)))

end MessageId

namespace PendingTable

variable {table : PendingTable app} {now : Instant}

/-- Entries in order ascend if no two have one identifier. -/
theorem ascending_inOrder (distinct : table.Distinct) :
    table.inOrder.Pairwise fun left right => left.id.before right.id = true := by
  have sorted : table.inOrder.Pairwise
      fun left right => (!right.id.before left.id) = true := by
    refine List.pairwise_mergeSort ?_ ?_ table
    · intro first second third firstSecond secondThird
      simp only [Bool.not_eq_true'] at firstSecond secondThird ⊢
      exact MessageId.not_before_trans firstSecond secondThird
    · intro left right
      cases isBefore : right.id.before left.id with
      | false => rfl
      | true =>
          rw [MessageId.before_asymm isBefore]
          rfl
  have sameIds : (ids table).Perm (ids table.inOrder) := table.perm_inOrder.map _
  have different : table.inOrder.Pairwise fun left right => left.id ≠ right.id :=
    List.pairwise_map.mp (sameIds.nodup_iff.mp distinct)
  refine (sorted.and different).imp ?_
  rintro left right ⟨notBefore, notSame⟩
  rw [Bool.not_eq_true'] at notBefore
  exact MessageId.before_of_not_before notBefore notSame

/-! ## Who is due -/

theorem isDue_iff {entry : PendingRequest app} :
    entry.isDue now = true ↔
      ∃ deadline, entry.deadline = some deadline ∧
        deadline.time.nanoseconds ≤ now.nanoseconds := by
  unfold PendingRequest.isDue
  cases entry.deadline with
  | none => simp
  | some deadline => simp

theorem mem_due {entry : PendingRequest app} :
    entry ∈ table.due now ↔ entry ∈ table ∧ entry.isDue now = true := by
  rw [due, ← (perm_inOrder _).mem_iff, List.mem_filter]

theorem mem_notDue {entry : PendingRequest app} :
    entry ∈ table.notDue now ↔ entry ∈ table ∧ entry.isDue now = false := by
  rw [notDue, List.mem_filter, Bool.not_eq_true']

theorem ascending_due (distinct : table.Distinct) (now : Instant) :
    (table.due now).Pairwise fun left right => left.id.before right.id = true :=
  ascending_inOrder (distinct.sublist (List.filter_sublist.map _))

/-- Who is due is late, and not cancelled. -/
theorem lateness_of_due {entry : PendingRequest app} (isDue : entry ∈ table.due now) :
    ∃ deadline, entry.deadline = some deadline ∧
      deadline.time.nanoseconds ≤ now.nanoseconds ∧
      entry.lateness = .timedOut deadline.timeout := by
  obtain ⟨deadline, isDeadline, hasCome⟩ := isDue_iff.mp (mem_due.mp isDue).2
  refine ⟨deadline, isDeadline, hasCome, ?_⟩
  rw [PendingRequest.lateness, isDeadline]

theorem notDue_eq_self (nothing : table.due now = []) : table.notDue now = table := by
  refine List.filter_eq_self.mpr fun entry isEntry => ?_
  cases isDue : entry.isDue now with
  | false => rfl
  | true =>
      have isListed := mem_due.mpr ⟨isEntry, isDue⟩
      rw [nothing] at isListed
      contradiction

/-! ## The earliest deadline -/

/-- When the requests run out of time that have a deadline. -/
private def times (table : PendingTable app) : List Nat :=
  table.filterMap fun entry => entry.deadline.map (·.time.nanoseconds)

private theorem mem_times {reading : Nat} :
    reading ∈ times table ↔
      ∃ entry ∈ table, ∃ deadline, entry.deadline = some deadline ∧
        deadline.time.nanoseconds = reading := by
  simp [times]

/-- The earliest deadline is that of an entry, and no other is before it. -/
theorem nextDeadline_eq_some_iff {first : Instant} :
    table.nextDeadline = some first ↔
      (∃ entry ∈ table, ∃ deadline, entry.deadline = some deadline ∧ deadline.time = first) ∧
        ∀ entry ∈ table, ∀ deadline, entry.deadline = some deadline →
          first.nanoseconds ≤ deadline.time.nanoseconds := by
  obtain ⟨reading⟩ := first
  have isLeast : table.nextDeadline = some ⟨reading⟩ ↔ (times table).min? = some reading := by
    change ((times table).min?.map Instant.mk) = _ ↔ _
    simp
  rw [isLeast, List.min?_eq_some_iff, mem_times]
  refine and_congr ?_ ?_
  · constructor
    · rintro ⟨entry, isEntry, deadline, isDeadline, same⟩
      exact ⟨entry, isEntry, deadline, isDeadline, congrArg Instant.mk same⟩
    · rintro ⟨entry, isEntry, deadline, isDeadline, same⟩
      exact ⟨entry, isEntry, deadline, isDeadline, congrArg Instant.nanoseconds same⟩
  · constructor
    · intro least entry isEntry deadline isDeadline
      exact least _ (mem_times.mpr ⟨entry, isEntry, deadline, isDeadline, rfl⟩)
    · intro least reading isReading
      obtain ⟨entry, isEntry, deadline, isDeadline, rfl⟩ := mem_times.mp isReading
      exact least entry isEntry deadline isDeadline

theorem nextDeadline_le {entry : PendingRequest app} {deadline : Deadline}
    (isEntry : entry ∈ table) (isDeadline : entry.deadline = some deadline) :
    ∃ first, table.nextDeadline = some first ∧
      first.nanoseconds ≤ deadline.time.nanoseconds := by
  have isTime : deadline.time.nanoseconds ∈ times table :=
    mem_times.mpr ⟨entry, isEntry, deadline, isDeadline, rfl⟩
  cases found : table.nextDeadline with
  | none =>
      change ((times table).min?.map Instant.mk) = none at found
      rw [Option.map_eq_none_iff, List.min?_eq_none_iff] at found
      rw [found] at isTime
      contradiction
  | some first =>
      exact ⟨first, rfl, (nextDeadline_eq_some_iff.mp found).2 entry isEntry deadline isDeadline⟩

/-- Somebody is due just when the earliest deadline has come. -/
theorem due_ne_nil_iff :
    table.due now ≠ [] ↔
      ∃ first, table.nextDeadline = some first ∧ first.nanoseconds ≤ now.nanoseconds := by
  constructor
  · intro somebody
    obtain ⟨entry, isDue⟩ := List.exists_mem_of_ne_nil _ somebody
    obtain ⟨deadline, isDeadline, hasCome, -⟩ := lateness_of_due isDue
    obtain ⟨first, isFirst, early⟩ := nextDeadline_le (mem_due.mp isDue).1 isDeadline
    exact ⟨first, isFirst, Nat.le_trans early hasCome⟩
  · rintro ⟨first, isFirst, hasCome⟩
    obtain ⟨⟨entry, isEntry, deadline, isDeadline, rfl⟩, -⟩ := nextDeadline_eq_some_iff.mp isFirst
    exact List.ne_nil_of_mem (mem_due.mpr ⟨isEntry, isDue_iff.mpr ⟨deadline, isDeadline, hasCome⟩⟩)

/-- The table gets smaller just when somebody is due. -/
theorem length_notDue_lt_iff :
    (table.notDue now).length < table.length ↔ table.due now ≠ [] := by
  have parted := (perm_due now table).length_eq
  rw [List.length_append] at parted
  rw [← List.length_pos_iff]
  omega

end PendingTable

end RpcEndpoint
