import ReadThrough.Proofs.EntryLists

/-! Nothing is lost on the plain lists: what a call leaves stored and what it drops are together
what was stored before, with the added entry in the place of the old one of its key. That keys
stay distinct follows from it. -/

namespace ReadThrough.Cache
open scoped List

variable {α : Type}

/-- What a call has to account for, given what was stored before it. -/
def Operation.deposit : Operation α → List (String × α) → List (String × α)
  | .add key value, held => (key, value) :: without key held
  | .get _, held => held
  | .removeOldest, held => held
  | .removeHistoryOldest, held => held

namespace Reference

/-- No key is stored twice, in one queue or in both. -/
def Distinct (reference : Reference α) : Prop := (reference.held.map (·.1)).Nodup

section
variable {reference : Reference α} {key : String} {value : α} {waiting : Waiting α}

theorem history_without (history : List (Waiting α)) :
    (history.filter (·.key != key)).map Waiting.entry = without key (history.map Waiting.entry) := by
  simp [without, List.filter_map, Function.comp_def, Waiting.entry]

theorem mem_held_of_lookup (found : reference.main.lookup key = some value) :
    (key, value) ∈ reference.held :=
  List.mem_append_left _ (mem_of_lookup found)

theorem key_of_waiting? (found : reference.waiting? key = some waiting) : waiting.key = key := by
  simpa using List.find?_some found

theorem mem_history_of_waiting? (found : reference.waiting? key = some waiting) :
    waiting ∈ reference.history := List.mem_of_find?_eq_some found

theorem mem_held_of_waiting? (found : reference.waiting? key = some waiting) :
    (key, waiting.value) ∈ reference.held := by
  refine List.mem_append_right _ (List.mem_map.mpr ⟨waiting, mem_history_of_waiting? found, ?_⟩)
  rw [Waiting.entry, key_of_waiting? found]

theorem enterHistory_held (absent : reference.main.lookup waiting.key = none) :
    (reference.enterHistory waiting).held ~ waiting.entry :: without waiting.key reference.held := by
  have main : without waiting.key reference.main = reference.main :=
    without_eq_self (lookup_eq_none.mp absent)
  simp only [enterHistory, held, without_append, main, List.map_append, history_without,
    ← List.append_assoc]
  exact List.perm_append_singleton _ _

theorem removeOldest_held (reference : Reference α) :
    reference.removeOldest.2.held ++ reference.removeOldest.1 ~ reference.held := by
  unfold removeOldest
  split
  next entry last =>
    have main := List.dropLast_append_getLast? entry last
    simp only [held]
    conv_rhs => rw [← main]
    rw [List.append_assoc, List.append_assoc]
    exact List.perm_append_comm.append_left _
  next => simp

theorem removeHistoryOldest_held (reference : Reference α) :
    reference.removeHistoryOldest.2.held ++ reference.removeHistoryOldest.1 ~ reference.held := by
  unfold removeHistoryOldest
  split
  next waiting rest first =>
    simp only [held, first, List.map_cons, List.append_assoc]
    exact (List.perm_append_singleton _ _).append_left _
  next => simp

theorem Distinct.of_perm {after : Reference α} {dropped deposit : List (String × α)}
    (conserved : after.held ++ dropped ~ deposit) (distinct : (deposit.map (·.1)).Nodup) :
    after.Distinct := by
  have kept := ((conserved.map (·.1)).nodup_iff).mpr distinct
  rw [List.map_append] at kept
  exact (List.nodup_append.mp kept).1

theorem deposit_distinct (operation : Operation α) (distinct : reference.Distinct) :
    ((operation.deposit reference.held).map (·.1)).Nodup := by
  cases operation with
  | add key value =>
    refine List.nodup_cons.mpr ⟨?_, distinct.sublist (List.filter_sublist.map _)⟩
    intro member
    obtain ⟨entry, kept, same⟩ := List.mem_map.mp member
    exact (mem_without.mp kept).2 same
  | get | removeOldest | removeHistoryOldest => exact distinct

end

variable [ByteSized α] {reference : Reference α} {key : String} {value : α} {waiting : Waiting α}

theorem settleMain_held (reference : Reference α) :
    reference.settleMain.2.held ++ reference.settleMain.1 ~ reference.held := by
  have whole := trim_append charge reference.maxBytes reference.main.reverse
  simp only [settleMain, held]
  generalize trim charge reference.maxBytes reference.main.reverse = trimmed at whole ⊢
  have main : reference.main = trimmed.2.reverse ++ trimmed.1.reverse := by
    rw [← List.reverse_append, whole, List.reverse_reverse]
  rw [main, List.append_assoc, List.append_assoc]
  refine List.Perm.append_left _ (List.perm_append_comm.trans ?_)
  exact (List.reverse_perm _).symm.append_right _

theorem settleHistory_held (reference : Reference α) :
    reference.settleHistory.2.held ++ reference.settleHistory.1 ~ reference.held := by
  have whole := trim_append (charge ·.entry) reference.historyMaxBytes reference.history
  simp only [settleHistory, held]
  generalize trim (charge ·.entry) reference.historyMaxBytes reference.history = trimmed at whole ⊢
  rw [← whole, List.map_append, List.append_assoc]
  exact List.Perm.append_left _ List.perm_append_comm

theorem enterMain_held (reference : Reference α) (key : String) (value : α) :
    (reference.enterMain key value).2.held ++ (reference.enterMain key value).1 ~
      (key, value) :: without key reference.held := by
  refine (settleMain_held _).trans ?_
  simp only [held, without_append, history_without, List.cons_append]
  exact List.Perm.refl _

/-- A promotion leaves everything stored that the main queue has room for. -/
theorem promoteReady_held (distinct : reference.Distinct) (key : String) :
    (reference.promoteReady key).2.held ++ (reference.promoteReady key).1 ~ reference.held := by
  unfold promoteReady
  split
  next waiting found =>
    split
    · exact (enterMain_held _ _ _).trans (perm_without distinct (mem_held_of_waiting? found)).symm
    · simp
  next => simp

theorem get_held (distinct : reference.Distinct) (key : String) :
    (reference.get key).2.2.held ++ (reference.get key).2.1 ~ reference.held := by
  unfold get
  split
  next value found =>
    exact (enterMain_held _ _ _).trans (perm_without distinct (mem_held_of_lookup found)).symm
  next absent =>
    split
    next => simp
    next waiting found =>
      have taken := (perm_without distinct (mem_held_of_waiting? found)).symm
      split
      · exact (enterMain_held _ _ _).trans taken
      · rw [← key_of_waiting? found] at absent taken
        have entered : (reference.enterHistory { waiting with hits := waiting.hits + 1 }).held ~
            waiting.entry :: without waiting.key reference.held := enterHistory_held absent
        simpa using entered.trans taken

theorem add_held (distinct : reference.Distinct) (key : String) (value : α) :
    (reference.add key value).2.held ++ (reference.add key value).1 ~
      (key, value) :: without key reference.held := by
  unfold add
  split
  next => exact enterMain_held _ _ _
  next absent =>
    let entered := reference.enterHistory { key, value, hits := reference.observations key }
    let settled := entered.settleHistory
    let ready := settled.2.promoteReady key
    have deposited : entered.held ~ (key, value) :: without key reference.held :=
      enterHistory_held absent
    have conserved : settled.2.held ++ settled.1 ~ (key, value) :: without key reference.held :=
      (settleHistory_held entered).trans deposited
    have promoted : ready.2.held ++ ready.1 ~ settled.2.held :=
      promoteReady_held (Distinct.of_perm conserved (deposit_distinct (.add key value) distinct)) key
    calc ready.2.held ++ (settled.1 ++ ready.1)
      _ ~ ready.2.held ++ (ready.1 ++ settled.1) := List.perm_append_comm.append_left _
      _ = ready.2.held ++ ready.1 ++ settled.1 := (List.append_assoc ..).symm
      _ ~ settled.2.held ++ settled.1 := promoted.append_right _
      _ ~ (key, value) :: without key reference.held := conserved

/-- One call keeps account of every entry. -/
theorem apply_held (distinct : reference.Distinct) (operation : Operation α) :
    (reference.apply operation).2.2.held ++ (reference.apply operation).2.1 ~
      operation.deposit reference.held := by
  cases operation with
  | add key value => exact add_held distinct key value
  | get key => exact get_held distinct key
  | removeOldest => exact removeOldest_held reference
  | removeHistoryOldest => exact removeHistoryOldest_held reference

end Reference

end ReadThrough.Cache
