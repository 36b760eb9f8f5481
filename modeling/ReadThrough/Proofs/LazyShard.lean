import ReadThrough.Proofs.ShardContents

/-! A shard beside a cache that was there from the start. Nothing that a caller can ask tells them
apart, before the first value or after it. The shard counts evictions where its cache reports them,
and the count balances: what came in and is not there any more was evicted. -/

namespace ReadThrough

namespace Cache.Reference

variable {α : Type} [ByteSized α] {reference : Reference α}

theorem get_length (distinct : reference.Distinct) (key : String) :
    (reference.get key).2.2.held.length + (reference.get key).2.1.length =
      reference.held.length := by
  rw [← List.length_append]
  exact (get_held distinct key).length_eq

/-- An addition brings one entry more, unless the key is there already. -/
theorem add_length (distinct : reference.Distinct) (key : String) (value : α) :
    (reference.add key value).2.held.length + (reference.add key value).1.length =
      reference.held.length + if key ∈ reference.held.map (·.1) then 0 else 1 := by
  have conserved := (add_held distinct key value).length_eq
  rw [List.length_append, List.length_cons] at conserved
  split
  next held =>
    obtain ⟨old, member, rfl⟩ := List.mem_map.mp held
    have taken := (perm_without distinct member).length_eq
    exact conserved.trans taken.symm
  next absent =>
    rw [without_eq_self absent] at conserved
    exact conserved

end Cache.Reference

namespace Shard

/-- A call on a shard. -/
inductive Call where
  | add (key : String) (value : Payload)
  | get (key : String)
  | stats

/-- What a call hands back. -/
inductive Answer where
  | stored
  | found (value : Option Payload)
  | counted (stats : Stats)

def apply (shard : Shard) : Call → Answer × Shard
  | .add key value => (.stored, shard.add key value)
  | .get key => (.found (shard.get key).1, (shard.get key).2)
  | .stats => (.counted shard.stats, shard)

/-- What every call of a sequence hands back, and the shard after the last one. -/
def trace (shard : Shard) : List Call → List Answer × Shard
  | [] => ([], shard)
  | call :: calls =>
    let outcome := shard.apply call
    let rest := outcome.2.trace calls
    (outcome.1 :: rest.1, rest.2)

/-- A cache that is there from the start. Beside it stands how many entries it reported as dropped
and how many additions were of a key that it did not hold in either queue. -/
structure Eager where
  cache : Cache Payload
  reported : Nat := 0
  arrivals : Nat := 0

namespace Eager

def new (cacheBytes historyBytes threshold : Nat) : Eager :=
  { cache := .new cacheBytes historyBytes threshold }

def stats (eager : Eager) : Stats where
  entries := eager.cache.size
  bytes := eager.cache.bytes
  historyEntries := eager.cache.historySize
  historyBytes := eager.cache.historyBytes
  evictions := eager.reported

def apply (eager : Eager) : Call → Except Cache.Fault (Answer × Eager)
  | .add key value => do
    let known := eager.cache.contains key || eager.cache.inHistory key
    let (dropped, cache) ← eager.cache.add key value
    return (.stored, {
      cache, reported := eager.reported + dropped.length
      arrivals := eager.arrivals + if known then 0 else 1 })
  | .get key => do
    let (value, dropped, cache) ← eager.cache.get key
    return (.found value, { eager with cache, reported := eager.reported + dropped.length })
  | .stats => return (.counted eager.stats, eager)

def trace (eager : Eager) : List Call → Except Cache.Fault (List Answer × Eager)
  | [] => return ([], eager)
  | call :: calls => do
    let (answer, eager) ← eager.apply call
    let (answers, eager) ← eager.trace calls
    return (answer :: answers, eager)

end Eager

variable {shard : Shard} {eager : Eager} {reference : Cache.Reference Payload}

/-- A lookup acts on the cache that there will be as on the one that there is. -/
theorem Stands.get_eq (stands : shard.Stands reference) (key : String) :
    shard.cacheOrNew.get key = .ok ((shard.get key).1, (reference.get key).2.1,
        (shard.get key).2.cacheOrNew) ∧
      (shard.get key).2.evictions = shard.evictions + (reference.get key).2.1.length ∧
      (shard.get key).2.isInitialized = shard.isInitialized := by
  cases built : shard.cache with
  | none =>
    rw [get_of_fresh built, stands.get_fresh built]
    refine ⟨?_, rfl, rfl⟩
    simp [cacheOrNew, built, Cache.get, Cache.new, Cache.Queue.slot?]
  | some cache =>
    have represents := cacheOrNew_of_built built ▸ stands.represents
    obtain ⟨after, done, _⟩ := represents.get stands.valid key
    have kept : shard.get key = ((reference.get key).1, shard.keep (reference.get key).2.1 after) := by
      rw [Shard.get, built]
      simp only [done]
    rw [kept, cacheOrNew_of_built built]
    exact ⟨done, rfl, by rw [isInitialized, isInitialized, built]; rfl⟩

theorem Stands.add_eq (stands : shard.Stands reference) (key : String) (value : Payload) :
    shard.cacheOrNew.add key value =
        .ok ((reference.add key value).1, (shard.add key value).cacheOrNew) ∧
      (shard.add key value).evictions = shard.evictions + (reference.add key value).1.length ∧
      (shard.add key value).isInitialized = true := by
  obtain ⟨after, done, _⟩ := stands.represents.add stands.valid.distinct key value
  have kept : shard.add key value = shard.keep (reference.add key value).1 after := by
    rw [Shard.add, done]
  rw [kept]
  exact ⟨done, rfl, rfl⟩

theorem Stands.known_iff (stands : shard.Stands reference) (key : String) :
    (shard.cacheOrNew.contains key || shard.cacheOrNew.inHistory key) = true ↔
      key ∈ reference.held.map (·.1) := by
  have shows := stands.represents.shows stands.valid.distinct
  rw [Bool.or_eq_true, shows.contains, shows.inHistory, Cache.Reference.held, List.map_append,
    List.mem_append, List.map_map]
  rfl

/-- A shard and a cache that was there from the start, after the same calls. -/
structure Twins (shard : Shard) (eager : Eager) : Prop where
  cache : eager.cache = shard.cacheOrNew
  reported : eager.reported = shard.evictions
  idle : shard.cache = none → shard.evictions = 0
  balanced : ∃ reference, shard.Stands reference ∧
    eager.reported + reference.held.length = eager.arrivals

namespace Twins

theorem initial (cacheBytes historyBytes threshold : Nat) :
    Twins { cacheBytes, historyBytes, threshold } (.new cacheBytes historyBytes threshold) where
  cache := rfl
  reported := rfl
  idle _ := rfl
  balanced := ⟨_, stands_of_fresh rfl, rfl⟩

theorem stats (twins : Twins shard eager) : shard.stats = eager.stats := by
  unfold Shard.stats Eager.stats
  rw [twins.cache, twins.reported]
  cases built : shard.cache with
  | none =>
    rw [cacheOrNew, built]
    rfl
  | some cache => rw [cacheOrNew_of_built built]

theorem add (twins : Twins shard eager) (key : String) (value : Payload) :
    ∃ after, eager.apply (.add key value) = .ok (.stored, after) ∧
      Twins (shard.add key value) after ∧ (shard.add key value).isInitialized = true := by
  obtain ⟨reference, stands, balanced⟩ := twins.balanced
  obtain ⟨done, evictions, built⟩ := stands.add_eq key value
  have length := Cache.Reference.add_length stands.valid.distinct key value
  rw [← twins.cache] at done
  refine ⟨_, by rw [Eager.apply, done]; rfl, ⟨rfl, ?_, ?_, _, stands.add key value, ?_⟩, built⟩
  · rw [evictions, twins.reported]
  · intro idle
    rw [isInitialized, idle] at built
    cases built
  · simp only [twins.cache, stands.known_iff key]
    omega

theorem get (twins : Twins shard eager) (key : String) :
    ∃ after, eager.apply (.get key) = .ok (.found (shard.get key).1, after) ∧
      Twins (shard.get key).2 after ∧
      (shard.get key).2.isInitialized = shard.isInitialized := by
  obtain ⟨reference, stands, balanced⟩ := twins.balanced
  obtain ⟨done, evictions, built⟩ := stands.get_eq key
  have length := Cache.Reference.get_length stands.valid.distinct key
  rw [← twins.cache] at done
  refine ⟨_, by rw [Eager.apply, done]; rfl,
    ⟨rfl, ?_, fun idle => ?_, _, (stands.get key).2, ?_⟩, built⟩
  · rw [evictions, twins.reported]
  · cases fresh : shard.cache with
    | none =>
      rw [get_of_fresh fresh]
      exact twins.idle fresh
    | some cache =>
      rw [isInitialized, isInitialized, idle, fresh] at built
      cases built
  · simp only
    omega

/-- Every call is answered alike, and only an addition builds the cache of the shard. -/
theorem apply (twins : Twins shard eager) (call : Call) :
    ∃ after, eager.apply call = .ok ((shard.apply call).1, after) ∧
      Twins (shard.apply call).2 after ∧ ((shard.apply call).2.isInitialized = true ↔
        shard.isInitialized = true ∨ ∃ key value, call = .add key value) := by
  cases call with
  | add key value =>
    obtain ⟨after, done, kept, built⟩ := twins.add key value
    exact ⟨after, done, kept, iff_of_true built (.inr ⟨key, value, rfl⟩)⟩
  | get key =>
    obtain ⟨after, done, kept, same⟩ := twins.get key
    refine ⟨after, done, kept, ?_⟩
    simp [Shard.apply, same]
  | stats =>
    refine ⟨eager, ?_, twins, by simp [Shard.apply]⟩
    rw [Eager.apply, Shard.apply, twins.stats]
    rfl

theorem trace (twins : Twins shard eager) (calls : List Call) :
    ∃ after, eager.trace calls = .ok ((shard.trace calls).1, after) ∧
      Twins (shard.trace calls).2 after ∧ ((shard.trace calls).2.isInitialized = true ↔
        shard.isInitialized = true ∨ ∃ key value, .add key value ∈ calls) := by
  induction calls generalizing shard eager with
  | nil => exact ⟨eager, rfl, twins, by simp [Shard.trace]⟩
  | cons call calls ih =>
    obtain ⟨next, done, kept, first⟩ := twins.apply call
    obtain ⟨after, rest, settled, later⟩ := ih kept
    refine ⟨after, ?_, settled, ?_⟩
    · rw [Eager.trace, done]
      simp only [bind, Except.bind, rest]
      rfl
    · simp only [Shard.trace, later, first, List.mem_cons, exists_or, or_assoc, eq_comm]

end Twins

/-- Over any additions, lookups and questions for the counts, a shard answers as a cache would that
was built at the start, and its counts stay those of that cache. It builds its own cache at the
first addition and counts nothing before. Evictions are the entries that the cache reported, and as
many as additions brought in and neither queue holds. -/
theorem lazy_is_eager (cacheBytes historyBytes threshold : Nat) (calls : List Call) :
    let shard : Shard := { cacheBytes, historyBytes, threshold }
    let after := (shard.trace calls).2
    ∃ eager, (Eager.new cacheBytes historyBytes threshold).trace calls =
        .ok ((shard.trace calls).1, eager) ∧
      after.stats = eager.stats ∧
      (after.isInitialized = true ↔ ∃ key value, .add key value ∈ calls) ∧
      (after.isInitialized = false → after.stats = {}) ∧
      after.stats.evictions = eager.reported ∧
      after.stats.evictions + after.stats.entries + after.stats.historyEntries =
        eager.arrivals := by
  intro shard after
  obtain ⟨eager, done, twins, built⟩ :=
    (Twins.initial cacheBytes historyBytes threshold).trace calls
  obtain ⟨reference, stands, balanced⟩ := twins.balanced
  have shows := stands.represents.shows stands.valid.distinct
  rw [← twins.cache] at shows
  refine ⟨eager, done, twins.stats, ?_, fun idle => ?_, ?_, ?_⟩
  · simpa [shard, isInitialized] using built
  · have fresh : after.cache = none := by simpa [isInitialized] using idle
    rw [Shard.stats, fresh, twins.idle fresh]
  · rw [twins.stats]
    rfl
  · have length : reference.held.length = eager.cache.size + eager.cache.historySize := by
      rw [shows.size, shows.historySize, Cache.Reference.held, List.length_append, List.length_map]
    rw [twins.stats]
    change eager.reported + eager.cache.size + eager.cache.historySize = eager.arrivals
    omega

end Shard

end ReadThrough
