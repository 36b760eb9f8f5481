import ReadThrough.Proofs.Visit

/-! What becomes of an entry that is added. Its fate is decided by its size, by the place of its key
before the call and by the limits of the cache, whatever else the queues hold: other entries give
way to it, so a queue refuses it only if it is too large by itself, and is left empty then. -/

namespace ReadThrough.Cache

variable {α : Type}

/-- Where an added entry stays, or the queue that it was too large for. -/
inductive Fate where
  | admitted
  | waits (hits : Nat)
  | refusedByHistory
  | refusedByMain
deriving Repr, DecidableEq

/-- A key that is not in the main queue has to get through the history first, with enough
observations together with this one. -/
def fate (limits : Limits) (inMain : Bool) (observed size : Nat) : Fate :=
  if !inMain && exceeds limits.historyMaxBytes size then .refusedByHistory
  else if !inMain && observed + 1 < limits.threshold then .waits (observed + 1)
  else if exceeds limits.maxBytes size then .refusedByMain
  else .admitted

namespace Fate

/-- The two queues after an entry met its fate. -/
def Leaves (entry : String × α) (main : List (String × α)) (history : List (Waiting α)) :
    Fate → Prop
  | admitted => main.head? = some entry ∧ entry.1 ∉ history.map (·.key)
  | waits hits => history.getLast? = some ⟨entry.1, entry.2, hits⟩ ∧ entry.1 ∉ main.map (·.1)
  | refusedByHistory => history = [] ∧ entry.1 ∉ main.map (·.1)
  | refusedByMain => main = [] ∧ entry.1 ∉ history.map (·.key)

/-- Whether the entry is still there after the call that added it. -/
def holds : Fate → Bool
  | admitted => true
  | waits _ => true
  | refusedByHistory => false
  | refusedByMain => false

end Fate

namespace Reference

variable [ByteSized α] {reference : Reference α} {key : String} {value : α}

theorem get_answer (reference : Reference α) (key : String) :
    (reference.get key).1 =
      (reference.main.lookup key).or ((reference.waiting? key).map (·.value)) := by
  unfold get
  cases reference.main.lookup key with
  | some value => rfl
  | none =>
    cases reference.waiting? key with
    | none => rfl
    | some waiting =>
      simp only [Option.none_or, Option.map_some]
      split <;> rfl

theorem get_of_leaves {met : Fate} (distinct : reference.Distinct)
    (leaves : met.Leaves (key, value) reference.main reference.history) :
    (reference.get key).1 = if met.holds then some value else none := by
  rw [get_answer]
  cases met with
  | admitted =>
    obtain ⟨rest, main⟩ := List.head?_eq_some_iff.mp leaves.1
    rw [main, List.lookup_cons_self]
    rfl
  | waits hits =>
    have waits := waiting?_of_mem distinct (List.mem_of_getLast? leaves.1)
    rw [lookup_eq_none.mpr leaves.2, waits]
    rfl
  | refusedByHistory =>
    rw [lookup_eq_none.mpr leaves.2, waiting?, leaves.1]
    rfl
  | refusedByMain =>
    rw [leaves.1, waiting?_eq_none.mpr leaves.2]
    rfl

/-- At the head of the main queue an entry is the last one to be dropped. -/
theorem enterMain_leaves (reference : Reference α) (key : String) (value : α) :
    (if exceeds reference.maxBytes (charge (key, value)) then Fate.refusedByMain
      else .admitted).Leaves (key, value) (reference.enterMain key value).2.main
        (reference.enterMain key value).2.history := by
  have gone : key ∉ (reference.enterMain key value).2.history.map (·.key) := by
    simp [enterMain, settleMain]
  have trims := enterMain_trims reference key value
  split
  next oversized =>
    rw [trim_concat_of_exceeds oversized] at trims
    exact ⟨List.reverse_eq_nil_iff.mp (Prod.mk.inj trims).2.symm, gone⟩
  next fits =>
    obtain ⟨dropped, rest, -, trimmed⟩ := trim_concat_of_fits (Bool.eq_false_iff.mpr fits)
    rw [trimmed] at trims
    have main := congrArg List.head? (List.reverse_eq_iff.mp (Prod.mk.inj trims).2.symm)
    exact ⟨by simpa using main, gone⟩

theorem visit_leaves {inMain : Bool} (located : inMain = true ↔ key ∈ reference.keys) (value : α) :
    (fate reference.toLimits inMain (reference.counter key) (charge (key, value))).Leaves
      (key, value) (reference.visit key value).2.2.main
        (reference.visit key value).2.2.history := by
  have outside : key ∉ reference.keys → inMain = false := fun absent =>
    Bool.eq_false_iff.mpr fun present => absent (located.mp present)
  have visited := visited reference key value
  generalize reference.visit key value = outcome at visited
  rw [fate, ← observations_eq]
  cases visited with
  | moved present =>
    rw [located.mpr present]
    exact enterMain_leaves reference key value
  | refused absent oversized =>
    rw [if_pos (by simp [outside absent, oversized])]
    exact ⟨rfl, absent⟩
  | waits absent fits early =>
    rw [if_neg (by simp [fits]), if_pos (by simp [outside absent, early])]
    exact ⟨List.getLast?_concat, absent⟩
  | @promoted dropped rest absent fits ready =>
    rw [if_neg (by simp [fits]), if_neg (by simp [ready])]
    exact enterMain_leaves { reference with history := rest } key value

end Reference

variable [ByteSized α]

/-- After any calls, an addition leaves the queues as the fate of the entry says, and a lookup
that follows finds the entry exactly if it stayed. -/
theorem added_entry_fate (maxBytes historyMaxBytes threshold : Nat)
    (operations : List (Operation α)) (key : String) (value : α) :
    ∃ before dropped after found late last,
      (new maxBytes historyMaxBytes threshold).run operations = .ok before ∧
      before.add key value = .ok (dropped, after) ∧ after.get key = .ok (found, late, last) ∧
      let met := fate ⟨maxBytes, historyMaxBytes, max threshold 1⟩ (before.contains key)
        ((before.historyHits key).getD 0) (entrySize key value)
      met.Leaves (key, value) after.mainEntries after.historyEntries ∧
        found = if met.holds then some value else none := by
  obtain ⟨before, reference, done, represents, valid, limits⟩ :=
    reachable maxBytes historyMaxBytes threshold operations
  obtain ⟨after, added, kept⟩ := represents.add valid.distinct key value
  have settled := Reference.add_valid valid key value
  obtain ⟨last, got, _⟩ := kept.get settled key
  have shows := kept.shows settled.distinct
  have leaves := Reference.visit_leaves ((represents.shows valid.distinct).contains key) value
  rw [limits, Reference.counter, ← represents.hits] at leaves
  have same : (reference.add key value).2 = (reference.visit key value).2.2 := by
    rw [reference.add_eq_visit]
  rw [← same] at leaves
  refine ⟨before, _, after, _, _, last, done, added, got, ?_,
    Reference.get_of_leaves settled.distinct leaves⟩
  rw [shows.mainEntries, shows.historyEntries]
  exact leaves

/-- A budget can be filled to the last byte. -/
example : fate ⟨4, 4, 2⟩ false 1 4 = .admitted ∧ fate ⟨3, 4, 2⟩ false 1 4 = .refusedByMain ∧
    fate ⟨4, 3, 2⟩ false 1 4 = .refusedByHistory ∧ fate ⟨4, 3, 2⟩ true 0 4 = .admitted := by decide

end ReadThrough.Cache
