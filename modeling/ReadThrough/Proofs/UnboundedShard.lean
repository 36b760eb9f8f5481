import ReadThrough.Proofs.ShardContents

/-! A shard with both budgets zero. Whatever the threshold, it never drops an entry: a key that
was added once is found from then on. -/

namespace ReadThrough

namespace Cache.Reference

variable {α : Type} {reference : Reference α} {key : String}

/-- Both queues may hold any number of bytes. -/
structure Unbounded (reference : Reference α) : Prop where
  main : reference.maxBytes = 0
  history : reference.historyMaxBytes = 0

theorem Unbounded.of_limits {after : Reference α} (unbounded : reference.Unbounded)
    (same : after.toLimits = reference.toLimits) : after.Unbounded :=
  ⟨same ▸ unbounded.main, same ▸ unbounded.history⟩

variable [ByteSized α]

theorem enterMain_drops (unbounded : reference.Unbounded) (key : String) (value : α) :
    (reference.enterMain key value).1 = [] := by
  rw [enterMain, settleMain, unbounded.main, trim_eq_self rfl]

theorem get_drops (unbounded : reference.Unbounded) (key : String) :
    (reference.get key).2.1 = [] := by
  unfold get
  split
  next => exact enterMain_drops unbounded key _
  next =>
    split
    next => rfl
    next =>
      split
      next => exact enterMain_drops unbounded key _
      next => rfl

theorem add_drops (unbounded : reference.Unbounded) (key : String) (value : α) :
    (reference.add key value).1 = [] := by
  have promotes (after : Reference α) (free : after.Unbounded) : (after.promoteReady key).1 = [] := by
    unfold promoteReady
    split
    next =>
      split
      next => exact enterMain_drops free key _
      next => rfl
    next => rfl
  unfold add
  split
  next => exact enterMain_drops unbounded key value
  next =>
    have settled (entered : Reference α) (free : entered.Unbounded) :
        entered.settleHistory = ([], entered) := by
      rw [settleHistory, free.history, trim_eq_self rfl]
      rfl
    have free : (reference.enterHistory
        { key, value, hits := reference.observations key }).Unbounded := unbounded.of_limits rfl
    simp only [settled _ free, promotes _ free, List.append_nil]

theorem absent_of_get (missing : (reference.get key).1 = none) :
    key ∉ reference.held.map (·.1) := by
  unfold get at missing
  split at missing
  next => cases missing
  next absent =>
    split at missing
    next none =>
      rw [held, List.map_append, List.mem_append, not_or]
      refine ⟨lookup_eq_none.mp absent, fun waits => ?_⟩
      obtain ⟨entry, waits, same⟩ := List.mem_map.mp waits
      obtain ⟨waiting, member, rfl⟩ := List.mem_map.mp waits
      exact mem_of_waiting?_eq_none none waiting member same
    next => split at missing <;> cases missing

end Cache.Reference

namespace Shard

/-- The shard holds a value for a key, in whichever queue. -/
def Holds (shard : Shard) (key : String) : Prop := key ∈ shard.held.map (·.1)

/-- Both budgets are zero, for the cache that there may be as for one that is yet to come. -/
structure Unbounded (shard : Shard) : Prop where
  cacheBytes : shard.cacheBytes = 0
  historyBytes : shard.historyBytes = 0
  cache : ∀ cache, shard.cache = some cache →
    ∃ reference, cache.Represents reference ∧ reference.Valid ∧ reference.Unbounded

variable {shard : Shard} {key : String} {reference : Cache.Reference Payload}

theorem Stands.holds_iff (stands : shard.Stands reference) (key : String) :
    shard.Holds key ↔ key ∈ reference.held.map (·.1) := by
  rw [Holds, stands.held]

theorem Unbounded.stands (unbounded : shard.Unbounded) :
    ∃ reference, shard.Stands reference ∧ reference.Unbounded := by
  cases built : shard.cache with
  | none =>
    exact ⟨_, stands_of_fresh built, unbounded.cacheBytes, unbounded.historyBytes⟩
  | some cache =>
    obtain ⟨reference, represents, valid, free⟩ := unbounded.cache cache built
    exact ⟨reference, ⟨cacheOrNew_of_built built ▸ represents, valid⟩, free⟩

theorem get_budgets (shard : Shard) (key : String) :
    (shard.get key).2.cacheBytes = shard.cacheBytes ∧
      (shard.get key).2.historyBytes = shard.historyBytes := by
  unfold Shard.get
  split
  next => exact ⟨rfl, rfl⟩
  next => split <;> exact ⟨rfl, rfl⟩

theorem add_budgets (shard : Shard) (key : String) (value : Payload) :
    (shard.add key value).cacheBytes = shard.cacheBytes ∧
      (shard.add key value).historyBytes = shard.historyBytes := by
  unfold Shard.add
  split <;> exact ⟨rfl, rfl⟩

/-- A shard without budgets that stands for other lists now has none there either. -/
theorem Unbounded.of_stands {after : Shard} {lists : Cache.Reference Payload}
    (unbounded : shard.Unbounded)
    (budgets : after.cacheBytes = shard.cacheBytes ∧ after.historyBytes = shard.historyBytes)
    (stands : after.Stands lists) (free : lists.Unbounded) : after.Unbounded where
  cacheBytes := budgets.1.trans unbounded.cacheBytes
  historyBytes := budgets.2.trans unbounded.historyBytes
  cache _ built := ⟨lists, cacheOrNew_of_built built ▸ stands.represents, stands.valid, free⟩

/-- A lookup keeps every key, and a key that it does not find is not there. -/
theorem Unbounded.get (unbounded : shard.Unbounded) (key : String) :
    (shard.get key).2.Unbounded ∧ (∀ other, shard.Holds other → (shard.get key).2.Holds other) ∧
      ((shard.get key).1 = none → ¬(shard.get key).2.Holds key) := by
  obtain ⟨reference, stands, free⟩ := unbounded.stands
  obtain ⟨answer, kept⟩ := stands.get key
  have conserved := Cache.Reference.get_held stands.valid.distinct key
  rw [Cache.Reference.get_drops free, List.append_nil] at conserved
  have same (other : String) : (shard.get key).2.Holds other ↔ shard.Holds other := by
    rw [stands.holds_iff, kept.holds_iff]
    exact (conserved.map (·.1)).mem_iff
  refine ⟨?_, fun other => (same other).mpr, fun missing holds => ?_⟩
  · exact unbounded.of_stands (get_budgets shard key) kept
      (free.of_limits (Cache.Reference.apply_limits reference (.get key)))
  · rw [same, stands.holds_iff] at holds
    exact Cache.Reference.absent_of_get (answer ▸ missing) holds

/-- What is added is held, and so is everything that was held before. -/
theorem Unbounded.add (unbounded : shard.Unbounded) (key : String) (value : Payload) :
    (shard.add key value).Unbounded ∧ (shard.add key value).Holds key ∧
      ∀ other, shard.Holds other → (shard.add key value).Holds other := by
  obtain ⟨reference, stands, free⟩ := unbounded.stands
  have kept := stands.add key value
  have conserved := Cache.Reference.add_held stands.valid.distinct key value
  rw [Cache.Reference.add_drops free, List.append_nil] at conserved
  have holds (other : String) : (shard.add key value).Holds other ↔
      other ∈ ((key, value) :: Cache.without key reference.held).map (·.1) := by
    rw [kept.holds_iff]
    exact (conserved.map (·.1)).mem_iff
  refine ⟨?_, (holds key).mpr List.mem_cons_self, fun other before => (holds other).mpr ?_⟩
  · exact unbounded.of_stands (add_budgets shard key value) kept
      (free.of_limits (Cache.Reference.apply_limits reference (.add key value)))
  · by_cases same : other = key
    · exact same ▸ List.mem_cons_self
    · obtain ⟨entry, member, rfl⟩ := List.mem_map.mp ((stands.holds_iff other).mp before)
      exact List.mem_cons_of_mem _ (List.mem_map_of_mem (Cache.mem_without.mpr ⟨member, same⟩))

end Shard

end ReadThrough
