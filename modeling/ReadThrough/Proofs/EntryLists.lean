import ReadThrough.Proofs.Reference
import Mathlib.Data.List.Nodup

/-! Lists of entries: taking a key out, weighing what is there, and trimming from one end. A
trimmed list is within its budget, and what was dropped stood before what is left. Of an item
at the end it matters only whether it fits by itself. -/

namespace ReadThrough.Cache

variable {α : Type}

section
variable {key : String} {value : α} {entry : String × α} {entries before after : List (String × α)}

theorem lookup_eq_none : entries.lookup key = none ↔ key ∉ entries.map (·.1) := by
  rw [List.lookup_eq_none_iff, List.mem_map]
  grind

theorem mem_of_lookup (found : entries.lookup key = some value) : (key, value) ∈ entries := by
  obtain ⟨before, after, rfl, _⟩ := List.lookup_eq_some_iff.mp found
  simp

theorem mem_without : entry ∈ without key entries ↔ entry ∈ entries ∧ entry.1 ≠ key := by
  simp [without]

theorem without_append : without key (before ++ after) = without key before ++ without key after :=
  List.filter_append ..

theorem without_eq_self (absent : key ∉ entries.map (·.1)) : without key entries = entries := by
  refine List.filter_eq_self.mpr fun entry member => ?_
  have different : entry.1 ≠ key := fun same => absent (same ▸ List.mem_map_of_mem member)
  simpa using different

private theorem absent_around (distinct : ((before ++ (key, value) :: after).map (·.1)).Nodup) :
    key ∉ before.map (·.1) ∧ key ∉ after.map (·.1) := by
  simp only [List.map_append, List.map_cons, List.nodup_middle, List.nodup_cons,
    List.mem_append, not_or] at distinct
  exact distinct.1

theorem lookup_middle (distinct : ((before ++ (key, value) :: after).map (·.1)).Nodup) :
    (before ++ (key, value) :: after).lookup key = some value := by
  refine List.lookup_eq_some_iff.mpr ⟨before, after, rfl, fun entry member => ?_⟩
  have different : key ≠ entry.1 := fun same =>
    (absent_around distinct).1 (same ▸ List.mem_map_of_mem member)
  simpa using different

theorem without_middle (distinct : ((before ++ (key, value) :: after).map (·.1)).Nodup) :
    without key (before ++ (key, value) :: after) = before ++ after := by
  obtain ⟨absentBefore, absentAfter⟩ := absent_around distinct
  have dropped : without key ((key, value) :: after) = without key after := by simp [without]
  rw [without_append, dropped, without_eq_self absentBefore, without_eq_self absentAfter]

/-- The entry of a key can be taken to the front when no other entry has the key. -/
theorem perm_without (distinct : (entries.map (·.1)).Nodup) (member : (key, value) ∈ entries) :
    entries.Perm ((key, value) :: without key entries) := by
  obtain ⟨before, after, rfl⟩ := List.append_of_mem member
  rw [without_middle distinct]
  exact List.perm_middle

end

section
variable [ByteSized α] {first rest : List (String × α)} {key : String} {value : α}

@[simp] theorem weight_nil : weight ([] : List (String × α)) = 0 := rfl

@[simp] theorem weight_cons (entry : String × α) :
    weight (entry :: rest) = charge entry + weight rest := rfl

@[simp] theorem weight_append : weight (first ++ rest) = weight first + weight rest := by
  simp [weight]

theorem weight_perm (same : first.Perm rest) : weight first = weight rest :=
  (same.map charge).sum_nat

theorem weight_sublist (fewer : first.Sublist rest) : weight first ≤ weight rest := by
  induction fewer with
  | slnil => exact Nat.le_refl _
  | cons entry _ ih => exact Nat.le_trans ih (Nat.le_add_left _ _)
  | cons_cons entry _ ih => exact Nat.add_le_add_left ih _

end

theorem exceeds_mono {budget less more : Nat} (within : exceeds budget more = false)
    (smaller : less ≤ more) : exceeds budget less = false := by
  simp only [exceeds, Bool.and_eq_false_iff, bne_eq_false_iff_eq, decide_eq_false_iff_not] at within ⊢
  omega

theorem exceeds_anti {less more : Nat} (exceeded : exceeds budget less = true)
    (larger : less ≤ more) : exceeds budget more = true := by
  cases within : exceeds budget more with
  | true => rfl
  | false => exact absurd (exceeds_mono within larger) (by simp [exceeded])

/-- Within a budget means at most the budget, unless the budget is zero. -/
theorem exceeds_eq_false {budget held : Nat} :
    exceeds budget held = false ↔ (budget ≠ 0 → held ≤ budget) := by
  simp [exceeds]

section
variable {β : Type} {size : β → Nat} {budget : Nat} {items : List β}

theorem trim_append (size : β → Nat) (budget : Nat) (items : List β) :
    (trim size budget items).1 ++ (trim size budget items).2 = items := by
  induction items with
  | nil => rfl
  | cons item rest ih =>
    unfold trim
    split
    · exact congrArg (item :: ·) ih
    · rfl

theorem trim_within (size : β → Nat) (budget : Nat) (items : List β) :
    exceeds budget ((trim size budget items).2.map size).sum = false := by
  induction items with
  | nil => simp [trim, exceeds]
  | cons item rest ih =>
    unfold trim
    split
    next => exact ih
    next within => simpa using within

theorem trim_eq_self (within : exceeds budget (items.map size).sum = false) :
    trim size budget items = ([], items) := by
  cases items with
  | nil => rfl
  | cons item rest =>
    rw [trim, within]
    rfl

theorem trim_map {γ : Type} (f : γ → β) (items : List γ) :
    trim size budget (items.map f) =
      ((trim (fun item => size (f item)) budget items).1.map f,
        (trim (fun item => size (f item)) budget items).2.map f) := by
  induction items with
  | nil => rfl
  | cons item rest ih =>
    simp only [List.map_cons, trim, ih, List.map_map, Function.comp_def]
    split <;> rfl

/-- Whatever was dropped stood before more than the budget allows. -/
theorem exceeds_of_trim {earlier later : List β} {item : β}
    (dropped : (trim size budget items).1 = earlier ++ item :: later) :
    exceeds budget ((item :: later ++ (trim size budget items).2).map size).sum = true := by
  induction items generalizing earlier with
  | nil => simp [trim] at dropped
  | cons first rest ih =>
    have whole := trim_append size budget (first :: rest)
    unfold trim at dropped whole ⊢
    split at dropped
    next exceeded =>
      rw [if_pos exceeded] at whole ⊢
      cases earlier with
      | nil =>
        obtain ⟨rfl, same⟩ := List.cons.inj dropped
        rw [← same]
        simpa only [List.cons_append, trim_append] using exceeded
      | cons head earlier => exact ih (List.cons.inj dropped).2
    next => simp at dropped

/-- An item that is too large by itself takes everything before it along. -/
theorem trim_concat_of_exceeds {last : β} (oversized : exceeds budget (size last) = true) :
    trim size budget (items ++ [last]) = (items ++ [last], []) := by
  induction items with
  | nil => simp [trim, oversized]
  | cons item rest ih =>
    have exceeded : exceeds budget ((item :: (rest ++ [last])).map size).sum = true :=
      exceeds_anti oversized (by simp; omega)
    rw [List.cons_append, trim, if_pos exceeded, ih]

/-- An item that fits by itself is the last one to be dropped, so it stays. -/
theorem trim_concat_of_fits {last : β} (fits : exceeds budget (size last) = false) :
    ∃ dropped rest, dropped ++ rest = items ∧
      trim size budget (items ++ [last]) = (dropped, rest ++ [last]) := by
  induction items with
  | nil => exact ⟨[], [], rfl, by simp [trim, fits]⟩
  | cons item rest ih =>
    rw [List.cons_append, trim]
    split
    next =>
      obtain ⟨dropped, kept, whole, trimmed⟩ := ih
      exact ⟨item :: dropped, kept, by rw [← whole]; rfl, by rw [trimmed]⟩
    next => exact ⟨[], item :: rest, rfl, rfl⟩

end

end ReadThrough.Cache
