import ReadThrough.Group.Basic
import ReadThrough.Proofs.CacheInvariant
import ReadThrough.Proofs.Visit

/-! What a shard holds came in by adding. A law that every added entry satisfies is satisfied by
everything that the shard holds and by every value found in it, whatever was dropped since. -/

namespace ReadThrough

namespace Cache.Reference

variable {α : Type} [ByteSized α] {reference : Reference α} {key : String} {value : α}

theorem mem_held_of_get (found : (reference.get key).1 = some value) :
    (key, value) ∈ reference.held := by
  cases stored : reference.main.lookup key with
  | some other =>
    have same : other = value := by simpa [get, stored] using found
    exact mem_held_of_lookup (same ▸ stored)
  | none =>
    obtain ⟨waiting, waits, rfl⟩ := waiting?_of_get stored found
    exact mem_held_of_waiting? waits

theorem mem_held_of_mem_get (distinct : reference.Distinct) {entry : String × α}
    (member : entry ∈ (reference.get key).2.2.held) : entry ∈ reference.held :=
  (get_held distinct key).subset (List.mem_append_left _ member)

theorem mem_held_of_mem_add (distinct : reference.Distinct) {entry : String × α}
    (member : entry ∈ (reference.add key value).2.held) :
    entry = (key, value) ∨ entry ∈ reference.held ∧ entry.1 ≠ key := by
  have deposited := (add_held distinct key value).subset (List.mem_append_left _ member)
  exact (List.mem_cons.mp deposited).imp_right mem_without.mp

end Cache.Reference

namespace Shard

/-- The shard acts as a cache does that was there from the start. -/
structure Stands (shard : Shard) (reference : Cache.Reference Payload) : Prop where
  represents : shard.cacheOrNew.Represents reference
  valid : reference.Valid

/-- The cache of the shard, if it has one yet, is sound and holds nothing but lawful entries. -/
def Keeps (lawful : String → Payload → Prop) (shard : Shard) : Prop :=
  ∀ cache, shard.cache = some cache → ∃ reference, cache.Represents reference ∧
    reference.Valid ∧ ∀ entry ∈ reference.held, lawful entry.1 entry.2

/-- Everything that the shard holds, in whichever queue. -/
def held (shard : Shard) : List (String × Payload) :=
  match shard.cache with
  | none => []
  | some cache => cache.held

variable {lawful : String → Payload → Prop} {shard : Shard} {key : String} {value : Payload}
  {cache : Cache Payload} {reference : Cache.Reference Payload}

theorem cacheOrNew_of_built (built : shard.cache = some cache) : shard.cacheOrNew = cache := by
  rw [cacheOrNew, built]
  rfl

theorem get_of_fresh (fresh : shard.cache = none) (key : String) :
    shard.get key = (none, shard) := by
  rw [Shard.get, fresh]

theorem stands_of_fresh (fresh : shard.cache = none) :
    shard.Stands (.new shard.cacheBytes shard.historyBytes shard.threshold) := by
  refine ⟨?_, .initial _ _ _⟩
  rw [cacheOrNew, fresh]
  exact .initial _ _ _

namespace Stands

/-- Before the first value both queues are empty. -/
theorem fresh (stands : shard.Stands reference) (fresh : shard.cache = none) :
    reference.main = [] ∧ reference.history = [] := by
  have represents := stands.represents
  rw [cacheOrNew, fresh] at represents
  have shows := represents.shows stands.valid.distinct
  exact ⟨shows.mainEntries.symm, shows.historyEntries.symm⟩

theorem get_fresh (stands : shard.Stands reference) (fresh : shard.cache = none) (key : String) :
    reference.get key = (none, [], reference) := by
  obtain ⟨main, history⟩ := stands.fresh fresh
  simp [Cache.Reference.get, Cache.Reference.waiting?, main, history]

theorem held (stands : shard.Stands reference) : shard.held = reference.held := by
  unfold Shard.held
  cases built : shard.cache with
  | none =>
    obtain ⟨main, history⟩ := stands.fresh built
    rw [Cache.Reference.held, main, history]
    rfl
  | some cache =>
    have represents := cacheOrNew_of_built built ▸ stands.represents
    exact (represents.shows stands.valid.distinct).held

theorem get (stands : shard.Stands reference) (key : String) :
    (shard.get key).1 = (reference.get key).1 ∧
      (shard.get key).2.Stands (reference.get key).2.2 := by
  cases built : shard.cache with
  | none =>
    rw [get_of_fresh built, stands.get_fresh built]
    exact ⟨rfl, stands⟩
  | some cache =>
    have represents := cacheOrNew_of_built built ▸ stands.represents
    obtain ⟨after, done, kept⟩ := represents.get stands.valid key
    simp only [Shard.get, built, done, true_and]
    exact ⟨kept, Cache.Reference.get_valid stands.valid key⟩

theorem add (stands : shard.Stands reference) (key : String) (value : Payload) :
    (shard.add key value).Stands (reference.add key value).2 := by
  obtain ⟨after, done, kept⟩ := stands.represents.add stands.valid.distinct key value
  rw [Shard.add, done]
  exact ⟨kept, Cache.Reference.add_valid stands.valid key value⟩

end Stands

theorem keeps_iff : shard.Keeps lawful ↔
    ∃ reference, shard.Stands reference ∧ ∀ entry ∈ reference.held, lawful entry.1 entry.2 := by
  constructor
  · intro keeps
    cases built : shard.cache with
    | none => exact ⟨_, stands_of_fresh built, fun _ none => absurd none List.not_mem_nil⟩
    | some cache =>
      obtain ⟨reference, represents, valid, held⟩ := keeps cache built
      exact ⟨reference, ⟨cacheOrNew_of_built built ▸ represents, valid⟩, held⟩
  · rintro ⟨reference, stands, held⟩ cache built
    exact ⟨reference, cacheOrNew_of_built built ▸ stands.represents, stands.valid, held⟩

theorem keeps_of_fresh (fresh : shard.cache = none) : shard.Keeps lawful := by
  intro cache built
  nomatch fresh.symm.trans built

theorem Keeps.held (keeps : shard.Keeps lawful) :
    ∀ entry ∈ shard.held, lawful entry.1 entry.2 := by
  obtain ⟨reference, stands, held⟩ := keeps_iff.mp keeps
  rwa [stands.held]

/-- What is added takes the place of what was held for its key; for the other keys a new law may
hold because the old one did. -/
theorem Keeps.addTo {after : String → Payload → Prop} (keeps : shard.Keeps lawful)
    (allowed : after key value)
    (others : ∀ other held, other ≠ key → lawful other held → after other held) :
    (shard.add key value).Keeps after := by
  obtain ⟨reference, stands, held⟩ := keeps_iff.mp keeps
  refine keeps_iff.mpr ⟨_, stands.add key value, fun entry member => ?_⟩
  rcases Cache.Reference.mem_held_of_mem_add stands.valid.distinct member with
    rfl | ⟨before, differs⟩
  · exact allowed
  · exact others entry.1 entry.2 differs (held entry before)

theorem Keeps.add (keeps : shard.Keeps lawful) (allowed : lawful key value) :
    (shard.add key value).Keeps lawful :=
  keeps.addTo allowed fun _ _ _ before => before

theorem Keeps.get (keeps : shard.Keeps lawful) (key : String) :
    (∀ value, (shard.get key).1 = some value → lawful key value) ∧
      (shard.get key).2.Keeps lawful := by
  obtain ⟨reference, stands, held⟩ := keeps_iff.mp keeps
  obtain ⟨answer, kept⟩ := stands.get key
  constructor
  · intro value found
    exact held _ (Cache.Reference.mem_held_of_get (answer ▸ found))
  · refine keeps_iff.mpr ⟨_, kept, fun entry member => ?_⟩
    exact held entry (Cache.Reference.mem_held_of_mem_get stands.valid.distinct member)

end Shard

/-- A get refuses the empty key, or leaves the shard as a lookup leaves it. -/
theorem Group.start_cases (group : Group) (key : String) :
    group.start key = (.refused, group) ∨
    (∃ value, (group.shard.get key).1 = some value ∧ (group.start key).1 = .found value ∧
      (group.start key).2.shard = (group.shard.get key).2) ∨
    (group.shard.get key).1 = none ∧ (group.start key).1 = .missing ∧
      (group.start key).2.shard = (group.shard.get key).2 := by
  unfold start
  split
  next => exact .inl rfl
  next =>
    split
    next value shard got => exact .inr (.inl ⟨value, by rw [got], rfl, by rw [got]⟩)
    next shard got => exact .inr (.inr ⟨by rw [got], rfl, by rw [got]⟩)

end ReadThrough
