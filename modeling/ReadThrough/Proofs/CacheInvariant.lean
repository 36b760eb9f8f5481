import ReadThrough.Proofs.CacheRefinement

/-! What holds of a cache after any calls on a new one. The byte counts are those of what is
stored and within the budgets, the queues share no key, the counters are those of the waiting
keys and below the threshold, and entries leave only by being reported. No call fails, so no
slot is missing and no byte count is asked for more than it has. -/

namespace ReadThrough.Cache
open scoped List

variable {α : Type}

/-- Everything that is stored, in whichever queue. -/
def held (cache : Cache α) : List (String × α) :=
  cache.mainEntries ++ cache.historyEntries.map Waiting.entry

variable [ByteSized α]

theorem run_eq_trace (cache : Cache α) (operations : List (Operation α)) :
    cache.run operations = (cache.trace operations).map (·.2) := by
  induction operations generalizing cache with
  | nil => rfl
  | cons operation operations ih =>
    simp only [run, trace, List.foldlM_cons] at ih ⊢
    cases applied : cache.apply operation with
    | error fault => rfl
    | ok outcome =>
      refine (ih outcome.2.2).trans ?_
      simp only [bind, Except.bind]
      cases outcome.2.2.trace operations <;> rfl

/-- A cache after any calls on a new one, with the lists it represents. -/
theorem reachable (maxBytes historyMaxBytes threshold : Nat) (operations : List (Operation α)) :
    ∃ cache reference, (new maxBytes historyMaxBytes threshold).run operations = .ok cache ∧
      cache.Represents reference ∧ reference.Valid ∧
      reference.toLimits = ⟨maxBytes, historyMaxBytes, max threshold 1⟩ := by
  obtain ⟨cache, done, represents⟩ := trace_new maxBytes historyMaxBytes threshold operations
  have initial : (Reference.new maxBytes historyMaxBytes threshold : Reference α).Valid :=
    Reference.Valid.initial maxBytes historyMaxBytes threshold
  exact ⟨cache, _, by rw [run_eq_trace, done]; rfl, represents,
    Reference.trace_valid initial operations, Reference.trace_limits _ operations⟩

theorem Shows.held {cache : Cache α} {reference : Reference α} (shows : cache.Shows reference) :
    cache.held = reference.held := by
  rw [Cache.held, shows.mainEntries, shows.historyEntries]
  rfl

/-- Had a count been smaller than what is taken from it, the run would have stopped there. -/
theorem byte_counts (maxBytes historyMaxBytes threshold : Nat) (operations : List (Operation α)) :
    ∃ cache, (new maxBytes historyMaxBytes threshold).run operations = .ok cache ∧
      cache.bytes = weight cache.mainEntries ∧
      cache.historyBytes = weight (cache.historyEntries.map Waiting.entry) ∧
      (maxBytes ≠ 0 → cache.bytes ≤ maxBytes) ∧
      (historyMaxBytes ≠ 0 → cache.historyBytes ≤ historyMaxBytes) := by
  obtain ⟨cache, reference, done, represents, valid, limits⟩ :=
    reachable maxBytes historyMaxBytes threshold operations
  have shows := represents.shows valid.distinct
  have budget := exceeds_eq_false.mp valid.budget
  have historyBudget := exceeds_eq_false.mp valid.historyBudget
  rw [limits] at budget historyBudget
  refine ⟨cache, done, ?_, ?_, ?_, ?_⟩
  · rw [shows.bytes, shows.mainEntries]
  · rw [shows.historyBytes, shows.historyEntries]
  · rwa [shows.bytes]
  · rwa [shows.historyBytes]

/-- The counter of a waiting key stays below the threshold, so it can be raised as long as the
threshold itself can be held. -/
theorem queues_disjoint (maxBytes historyMaxBytes threshold : Nat)
    (operations : List (Operation α)) :
    ∃ cache, (new maxBytes historyMaxBytes threshold).run operations = .ok cache ∧
      (cache.keys ++ cache.historyKeys).Nodup ∧
      (∀ key, (cache.historyHits key).isSome = true ↔ key ∈ cache.historyKeys) ∧
      (∀ key hits, cache.historyHits key = some hits →
        1 ≤ hits ∧ hits < max threshold 1 ∧ (threshold < 2 ^ 64 → hits + 1 < 2 ^ 64)) ∧
      (threshold ≤ 1 → cache.historyKeys = []) := by
  obtain ⟨cache, reference, done, represents, valid, limits⟩ :=
    reachable maxBytes historyMaxBytes threshold operations
  have shows := represents.shows valid.distinct
  have counted : ∀ waiting ∈ reference.history,
      1 ≤ waiting.hits ∧ waiting.hits < max threshold 1 := by
    intro waiting member
    have counted := valid.counted waiting member
    rwa [limits] at counted
  refine ⟨cache, done, ?_, ?_, ?_, ?_⟩
  · rw [shows.keys, shows.historyKeys]
    exact Reference.distinct_keys valid.distinct
  · intro key
    rw [shows.historyHits, shows.historyKeys, Option.isSome_map]
    exact Reference.waiting?_isSome
  · intro key hits found
    rw [shows.historyHits, Option.map_eq_some_iff] at found
    obtain ⟨waiting, waits, rfl⟩ := found
    obtain ⟨observed, early⟩ := counted waiting (Reference.mem_history_of_waiting? waits)
    exact ⟨observed, early, by omega⟩
  · intro single
    rw [shows.historyKeys]
    refine List.map_eq_nil_iff.mpr (List.eq_nil_iff_forall_not_mem.mpr fun waiting member => ?_)
    have := counted waiting member
    omega

/-- What a call leaves and what it reports is together what was there before. A key that stays,
promoted or updated, is not reported, and a lookup leaves every entry as it was. -/
theorem entries_conserved (maxBytes historyMaxBytes threshold : Nat)
    (operations : List (Operation α)) (operation : Operation α) :
    ∃ before value dropped after,
      (new maxBytes historyMaxBytes threshold).run operations = .ok before ∧
      before.apply operation = .ok (value, dropped, after) ∧
      after.held ++ dropped ~ operation.deposit before.held ∧
      (dropped.map (·.1)).Nodup ∧ (∀ entry ∈ dropped, entry.1 ∉ after.held.map (·.1)) ∧
      (∀ key, operation = .get key → ∀ entry ∈ after.held, entry ∈ before.held) := by
  obtain ⟨before, reference, done, represents, valid, _⟩ :=
    reachable maxBytes historyMaxBytes threshold operations
  obtain ⟨after, applied, kept⟩ := represents.apply valid operation
  have settled := Reference.apply_valid valid operation
  have conserved := Reference.apply_held valid.distinct operation
  rw [← (represents.shows valid.distinct).held, ← (kept.shows settled.distinct).held] at conserved
  have once : ((after.held ++ (reference.apply operation).2.1).map (·.1)).Nodup := by
    rw [(conserved.map _).nodup_iff, (represents.shows valid.distinct).held]
    exact Reference.deposit_distinct operation valid.distinct
  rw [List.map_append, List.nodup_append] at once
  obtain ⟨_, distinct, apart⟩ := once
  refine ⟨before, _, _, after, done, applied, conserved, distinct, ?_, ?_⟩
  · intro entry reported stays
    exact apart entry.1 stays entry.1 (List.mem_map_of_mem reported) rfl
  · rintro key rfl entry member
    exact conserved.subset (List.mem_append_left _ member)

end ReadThrough.Cache
