import ReadThrough.Proofs.ReferenceConservation

/-! What holds of the plain lists between calls: no key is stored twice, both queues are within
their budgets, and a waiting key was observed at least once and fewer times than the threshold. -/

namespace ReadThrough.Cache.Reference

variable {α : Type} {reference : Reference α} {key : String} {value : α} {waiting : Waiting α}

/-- Observations of a key that still waits. -/
def Counts (limits : Limits) (waiting : Waiting α) : Prop :=
  1 ≤ waiting.hits ∧ waiting.hits < limits.threshold

theorem mem_enterHistory {other : Waiting α} : other ∈ (reference.enterHistory waiting).history ↔
    other ∈ reference.history ∧ other.key ≠ waiting.key ∨ other = waiting := by
  simp [enterHistory]

theorem mem_of_waiting?_eq_none (missing : reference.waiting? key = none) :
    ∀ other ∈ reference.history, other.key ≠ key := by
  simpa [waiting?] using missing

/-- A key of the main queue does not wait. -/
theorem filter_history (distinct : reference.Distinct) (member : key ∈ reference.main.map (·.1)) :
    reference.history.filter (·.key != key) = reference.history := by
  rw [Distinct, held, List.map_append] at distinct
  refine List.filter_eq_self.mpr fun waiting waits => ?_
  have different : waiting.key ≠ key := fun same =>
    (List.nodup_append.mp distinct).2.2 key member waiting.entry.1
      (List.mem_map_of_mem (List.mem_map_of_mem waits)) same.symm
  simpa using different

theorem waiting?_isSome :
    (reference.waiting? key).isSome = true ↔ key ∈ reference.historyKeys := by
  simp [waiting?, historyKeys]

theorem waiting?_eq_none : reference.waiting? key = none ↔ key ∉ reference.historyKeys := by
  rw [← waiting?_isSome, Option.not_isSome_iff_eq_none]

theorem distinct_keys (distinct : reference.Distinct) :
    (reference.keys ++ reference.historyKeys).Nodup := by
  rwa [Distinct, held, List.map_append, List.map_map] at distinct

theorem waiting?_of_mem (distinct : reference.Distinct) (member : waiting ∈ reference.history) :
    reference.waiting? waiting.key = some waiting := by
  cases found : reference.waiting? waiting.key with
  | none => exact absurd rfl (mem_of_waiting?_eq_none found waiting member)
  | some other =>
    have once : (reference.history.map fun waiting => waiting.entry.1).Nodup := by
      have distinct := distinct.sublist ((List.sublist_append_right _ _).map _)
      rwa [List.map_map] at distinct
    exact congrArg some (List.inj_on_of_nodup_map once (mem_history_of_waiting? found) member
      (key_of_waiting? found))

theorem enterHistory_distinct (distinct : reference.Distinct)
    (absent : reference.main.lookup waiting.key = none) : (reference.enterHistory waiting).Distinct := by
  have kept := enterHistory_held absent
  rw [← List.append_nil (reference.enterHistory waiting).held] at kept
  exact Distinct.of_perm kept (deposit_distinct (.add waiting.key waiting.value) distinct)

theorem observations_pos (reference : Reference α) (key : String) : 1 ≤ reference.observations key := by
  unfold observations
  split <;> omega

section
variable [ByteSized α]

structure Valid (reference : Reference α) : Prop where
  distinct : reference.Distinct
  budget : exceeds reference.maxBytes (weight reference.main) = false
  historyBudget :
    exceeds reference.historyMaxBytes (weight (reference.history.map Waiting.entry)) = false
  counted : ∀ waiting ∈ reference.history, Counts reference.toLimits waiting

/-- Fewer entries are as valid. -/
theorem Valid.sublist {fewer : Reference α} (valid : reference.Valid)
    (limits : fewer.toLimits = reference.toLimits) (main : fewer.main.Sublist reference.main)
    (history : fewer.history.Sublist reference.history) : fewer.Valid where
  distinct := valid.distinct.sublist ((main.append (history.map _)).map _)
  budget := by
    rw [limits]
    exact exceeds_mono valid.budget (weight_sublist main)
  historyBudget := by
    rw [limits]
    exact exceeds_mono valid.historyBudget (weight_sublist (history.map _))
  counted waiting member := limits ▸ valid.counted waiting (history.subset member)

theorem Valid.initial (maxBytes historyMaxBytes threshold : Nat) :
    (new maxBytes historyMaxBytes threshold : Reference α).Valid where
  distinct := List.nodup_nil
  budget := by simp [new, exceeds]
  historyBudget := by simp [new, exceeds]
  counted := by simp [new]

/-- The head of the main queue is entered from anywhere, and brings the main queue back
within its budget. -/
theorem enterMain_valid (distinct : reference.Distinct)
    (budget : exceeds reference.historyMaxBytes (weight (reference.history.map Waiting.entry)) = false)
    (counted : ∀ waiting ∈ reference.history, waiting.key ≠ key → Counts reference.toLimits waiting)
    (value : α) : (reference.enterMain key value).2.Valid where
  distinct := Distinct.of_perm (enterMain_held reference key value)
    (deposit_distinct (.add key value) distinct)
  budget := by
    simp only [enterMain, settleMain, weight_perm (List.reverse_perm _)]
    exact trim_within charge _ _
  historyBudget := exceeds_mono budget (weight_sublist (List.filter_sublist.map _))
  counted := by
    intro waiting member
    obtain ⟨kept, other⟩ := List.mem_filter.mp member
    exact counted waiting kept (by simpa using other)

/-- A key that is in the main queue already only moves, and nothing is dropped for it. -/
theorem enterMain_of_lookup (valid : reference.Valid) (found : reference.main.lookup key = some value) :
    reference.enterMain key value =
      ([], { reference with main := (key, value) :: without key reference.main }) := by
  have once : (reference.main.map (·.1)).Nodup :=
    valid.distinct.sublist ((List.sublist_append_left _ _).map _)
  have weight : weight ((key, value) :: without key reference.main).reverse = weight reference.main := by
    rw [weight_perm (List.reverse_perm _)]
    exact weight_perm (perm_without once (mem_of_lookup found)).symm
  have history : reference.history.filter (·.key != key) = reference.history :=
    filter_history valid.distinct (List.mem_map_of_mem (mem_of_lookup found))
  simp only [enterMain, settleMain, history]
  rw [trim_eq_self (by rw [← Cache.weight, weight]; exact valid.budget), List.reverse_reverse]

theorem settleHistory_subset (reference : Reference α) :
    ∀ waiting ∈ reference.settleHistory.2.history, waiting ∈ reference.history := by
  intro waiting member
  rw [← trim_append (fun waiting : Waiting α => charge waiting.entry) reference.historyMaxBytes
    reference.history]
  exact List.mem_append_right _ member

theorem settleHistory_budget (reference : Reference α) :
    exceeds reference.historyMaxBytes
      (weight (reference.settleHistory.2.history.map Waiting.entry)) = false := by
  rw [weight, List.map_map]
  exact trim_within (fun waiting : Waiting α => charge waiting.entry) _ _

/-- One more observation changes no entry, so the history keeps its weight. -/
theorem enterHistory_weight (distinct : reference.Distinct) (member : waiting ∈ reference.history)
    (hits : Nat) :
    weight ((reference.enterHistory { waiting with hits }).history.map Waiting.entry) =
      weight (reference.history.map Waiting.entry) := by
  have once : ((reference.history.map Waiting.entry).map (·.1)).Nodup :=
    distinct.sublist ((List.sublist_append_right _ _).map _)
  have entry : waiting.entry ∈ reference.history.map Waiting.entry := List.mem_map_of_mem member
  rw [weight_perm (perm_without once entry)]
  simp only [enterHistory, List.map_append, history_without, List.map_cons, List.map_nil,
    weight_append, weight_cons, weight_nil]
  exact Nat.add_comm ..

theorem get_valid (valid : reference.Valid) (key : String) : (reference.get key).2.2.Valid := by
  have others : ∀ waiting ∈ reference.history, waiting.key ≠ key → Counts reference.toLimits waiting :=
    fun waiting member _ => valid.counted waiting member
  unfold get
  split
  next value found => exact enterMain_valid valid.distinct valid.historyBudget others value
  next absent =>
    split
    next => exact valid
    next waiting found =>
      split
      next => exact enterMain_valid valid.distinct valid.historyBudget others waiting.value
      next early =>
        rw [← key_of_waiting? found] at absent
        refine ⟨enterHistory_distinct valid.distinct absent, valid.budget, ?_, ?_⟩
        · exact (enterHistory_weight valid.distinct (mem_history_of_waiting? found) _).symm ▸
            valid.historyBudget
        · intro other member
          rcases mem_enterHistory.mp member with ⟨kept, _⟩ | rfl
          · exact valid.counted other kept
          · exact ⟨Nat.le_add_left _ _, Nat.lt_of_not_le early⟩

theorem promoteReady_valid (distinct : reference.Distinct)
    (budget : exceeds reference.maxBytes (weight reference.main) = false)
    (historyBudget :
      exceeds reference.historyMaxBytes (weight (reference.history.map Waiting.entry)) = false)
    (others : ∀ waiting ∈ reference.history, waiting.key ≠ key → Counts reference.toLimits waiting)
    {hits : Nat} (positive : 1 ≤ hits)
    (own : ∀ waiting ∈ reference.history, waiting.key = key → waiting.hits = hits) :
    (reference.promoteReady key).2.Valid := by
  unfold promoteReady
  split
  next waiting found =>
    split
    next => exact enterMain_valid distinct historyBudget others waiting.value
    next early =>
      refine ⟨distinct, budget, historyBudget, fun other member => ?_⟩
      by_cases same : other.key = key
      · rw [own waiting (mem_history_of_waiting? found) (key_of_waiting? found)] at early
        rw [Counts, own other member same]
        exact ⟨positive, Nat.lt_of_not_le early⟩
      · exact others other member same
  next missing =>
    exact ⟨distinct, budget, historyBudget, fun other member =>
      others other member (mem_of_waiting?_eq_none missing other member)⟩

theorem add_valid (valid : reference.Valid) (key : String) (value : α) :
    (reference.add key value).2.Valid := by
  unfold add
  split
  next =>
    exact enterMain_valid valid.distinct valid.historyBudget
      (fun waiting member _ => valid.counted waiting member) value
  next absent =>
    let waiting : Waiting α := { key, value, hits := reference.observations key }
    let entered := reference.enterHistory waiting
    have distinct : entered.settleHistory.2.Distinct :=
      Distinct.of_perm (settleHistory_held entered) (enterHistory_distinct valid.distinct absent)
    refine promoteReady_valid distinct valid.budget (settleHistory_budget entered) ?_
      (observations_pos reference key) ?_
    · intro other member different
      rcases mem_enterHistory.mp (settleHistory_subset entered other member) with ⟨kept, _⟩ | rfl
      · exact valid.counted other kept
      · exact absurd rfl different
    · intro other member same
      rcases mem_enterHistory.mp (settleHistory_subset entered other member) with ⟨_, different⟩ | rfl
      · exact absurd same different
      · rfl

theorem removeOldest_valid (valid : reference.Valid) : reference.removeOldest.2.Valid := by
  unfold removeOldest
  split
  next => exact valid.sublist rfl (List.dropLast_sublist _) (List.Sublist.refl _)
  next => exact valid

theorem removeHistoryOldest_valid (valid : reference.Valid) :
    reference.removeHistoryOldest.2.Valid := by
  unfold removeHistoryOldest
  split
  next waiting rest history =>
    exact valid.sublist rfl (List.Sublist.refl _) (history ▸ List.sublist_cons_self waiting rest)
  next => exact valid

theorem apply_valid (valid : reference.Valid) (operation : Operation α) :
    (reference.apply operation).2.2.Valid := by
  cases operation with
  | add key value => exact add_valid valid key value
  | get key => exact get_valid valid key
  | removeOldest => exact removeOldest_valid valid
  | removeHistoryOldest => exact removeHistoryOldest_valid valid

theorem trace_valid (valid : reference.Valid) (operations : List (Operation α)) :
    (reference.trace operations).2.Valid := by
  induction operations generalizing reference with
  | nil => exact valid
  | cons operation operations ih => exact ih (apply_valid valid operation)

theorem promoteReady_limits (reference : Reference α) (key : String) :
    (reference.promoteReady key).2.toLimits = reference.toLimits := by
  unfold promoteReady
  split
  next => split <;> rfl
  next => rfl

theorem apply_limits (reference : Reference α) (operation : Operation α) :
    (reference.apply operation).2.2.toLimits = reference.toLimits := by
  cases operation with
  | add key value =>
    simp only [apply, add]
    split
    next => rfl
    next => exact promoteReady_limits _ key
  | get key =>
    simp only [apply, get]
    split
    next => rfl
    next =>
      split
      next => rfl
      next => split <;> rfl
  | removeOldest =>
    simp only [apply, removeOldest]
    split <;> rfl
  | removeHistoryOldest =>
    simp only [apply, removeHistoryOldest]
    split <;> rfl

theorem trace_limits (reference : Reference α) (operations : List (Operation α)) :
    (reference.trace operations).2.toLimits = reference.toLimits := by
  induction operations generalizing reference with
  | nil => rfl
  | cons operation operations ih => exact (ih _).trans (apply_limits reference operation)

end

end ReadThrough.Cache.Reference
