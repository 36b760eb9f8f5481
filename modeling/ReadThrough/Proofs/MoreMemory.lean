import Mathlib
import ReadThrough.Proofs.PlainLru
import ReadThrough.Proofs.ShardContents

/-! Two groups with one loader and nobody to ask, on plain LRU shards of different sizes. Whatever
they are asked for, in whatever order, the smaller shard holds the most recent part of what the
larger one holds: a key that only the smaller one lacks is loaded there and moves to the front
here. So more memory never costs a hit. -/

namespace ReadThrough

namespace Cache

variable {α : Type}

/-- Trimming leaves every end of a list in place that is within the budget. -/
theorem suffix_trim {β : Type} {size : β → Nat} {budget : Nat} {items rest : List β}
    (suffix : rest <:+ items) (within : exceeds budget (rest.map size).sum = false) :
    rest <:+ (trim size budget items).2 := by
  induction items with
  | nil => exact suffix
  | cons item items ih =>
    unfold trim
    split
    next exceeded =>
      rcases List.suffix_cons_iff.mp suffix with rfl | shorter
      · exact absurd (exceeded.symm.trans within) (by decide)
      · exact ih shorter
    next => exact suffix

namespace Lru

variable {lru small large : Lru α} {key : String} {value : α}

theorem lookup_of_isPrefix {first whole : List (String × α)} (part : first <+: whole)
    (found : first.lookup key = some value) : whole.lookup key = some value := by
  obtain ⟨rest, rfl⟩ := part
  rw [List.lookup_append, found]
  rfl

theorem get_of_found (found : lru.entries.lookup key = some value) :
    lru.get key = (some value, { lru with entries := lru.front key value }) := by
  rw [get, found]

theorem get_of_missing (missing : lru.entries.lookup key = none) :
    lru.get key = (none, lru) := by
  rw [get, missing]

theorem front_isPrefix (part : small.entries <+: large.entries) (key : String) (value : α) :
    small.front key value <+: large.front key value :=
  List.prefix_cons_inj _ |>.mpr (part.filter _)

theorem served_front {loader : String → Except String α}
    (served : ∀ entry ∈ lru.entries, loader entry.1 = .ok entry.2)
    (loaded : loader key = .ok value) :
    ∀ entry ∈ lru.front key value, loader entry.1 = .ok entry.2 := by
  intro entry member
  rcases List.mem_cons.mp member with rfl | kept
  · exact loaded
  · exact served entry (mem_without.mp kept).1

variable [ByteSized α]

theorem enter_isPrefix (lru : Lru α) (key : String) (value : α) :
    (lru.enter key value).2.entries <+: lru.front key value := by
  have whole := trim_append charge lru.maxBytes (lru.front key value).reverse
  rw [← List.reverse_suffix, enter, List.reverse_reverse]
  exact ⟨_, whole⟩

theorem enter_within (lru : Lru α) (key : String) (value : α) :
    exceeds lru.maxBytes (weight (lru.enter key value).2.entries) = false := by
  rw [enter, weight_perm (List.reverse_perm _)]
  exact trim_within charge lru.maxBytes _

/-- What fits stays: dropping stops as soon as the budget is kept. -/
theorem isPrefix_enter {part : List (String × α)} (inside : part <+: lru.front key value)
    (within : exceeds lru.maxBytes (weight part) = false) :
    part <+: (lru.enter key value).2.entries := by
  rw [← List.reverse_suffix, enter, List.reverse_reverse]
  apply suffix_trim (List.reverse_suffix.mpr inside)
  rwa [← weight, weight_perm (List.reverse_perm part)]

/-- The list after a get that calls a loader for a key that it does not hold. -/
def readThrough (lru : Lru α) (loader : String → Except String α) (key : String) : Lru α :=
  match lru.get key with
  | (some _, found) => found
  | (none, missing) =>
    match loader key with
    | .ok value => (missing.add key value).2
    | .error _ => missing

/-- A smaller and a larger list over the values of one loader. Every entry gets past both gates,
and the larger one is within its budget whenever the smaller one is. -/
structure Nested (loader : String → Except String α) (small large : Lru α) : Prop where
  part : small.entries <+: large.entries
  served : ∀ entry ∈ large.entries, loader entry.1 = .ok entry.2
  enters : ∀ key value, loader key = .ok value →
    exceeds small.gate (entrySize key value) = false ∧
      exceeds large.gate (entrySize key value) = false
  roomier : ∀ bytes, exceeds small.maxBytes bytes = false → exceeds large.maxBytes bytes = false

variable {loader : String → Except String α}

/-- A key moves to the front of both lists; where it was loaded the old end is dropped, of the
smaller list at least as far as of the larger one. -/
theorem Nested.readThrough (nested : Nested loader small large) (key : String) :
    Nested loader (small.readThrough loader key) (large.readThrough loader key) := by
  cases held : small.entries.lookup key with
  | some value =>
    have found := lookup_of_isPrefix nested.part held
    have loaded := nested.served _ (mem_of_lookup found)
    simp only [Lru.readThrough, get_of_found held, get_of_found found]
    exact ⟨front_isPrefix nested.part key value, served_front nested.served loaded,
      nested.enters, nested.roomier⟩
  | none =>
    cases found : large.entries.lookup key with
    | some value =>
      -- Only the smaller list has to load, and it gets the value that the larger one holds.
      have loaded := nested.served _ (mem_of_lookup found)
      simp only [Lru.readThrough, get_of_missing held, get_of_found found, loaded,
        add_eq_enter (.inr (nested.enters key value loaded).1)]
      refine ⟨?_, served_front nested.served loaded, nested.enters, nested.roomier⟩
      exact (enter_isPrefix small key value).trans (front_isPrefix nested.part key value)
    | none =>
      simp only [Lru.readThrough, get_of_missing held, get_of_missing found]
      cases loaded : loader key with
      | error text => exact nested
      | ok value =>
        have ⟨past, pastLarge⟩ := nested.enters key value loaded
        simp only [add_eq_enter (.inr past), add_eq_enter (.inr pastLarge)]
        refine ⟨?_, ?_, nested.enters, nested.roomier⟩
        · apply isPrefix_enter
          · exact (enter_isPrefix small key value).trans (front_isPrefix nested.part key value)
          · exact nested.roomier _ (enter_within small key value)
        · intro entry member
          exact served_front nested.served loaded entry
            ((enter_isPrefix large key value).subset member)

end Lru

end Cache

namespace Shard

def keys (shard : Shard) : List String :=
  match shard.cache with
  | none => []
  | some cache => cache.keys

theorem Stands.keys {shard : Shard} {reference : Cache.Reference Payload}
    (stands : shard.Stands reference) : shard.keys = reference.keys := by
  unfold Shard.keys
  cases built : shard.cache with
  | none =>
    rw [Cache.Reference.keys, (stands.fresh built).1]
    rfl
  | some cache =>
    have represents := cacheOrNew_of_built built ▸ stands.represents
    exact (represents.shows stands.valid.distinct).keys

end Shard

namespace Group

/-- A group with nobody to ask, on a shard that admits every key at once. -/
def alone (name : String) (loader : Loader) (cacheBytes : Nat) : Group :=
  { name, loader, shard := .lru cacheBytes }

def after (group : Group) (keys : List String) : Group :=
  keys.foldl (fun group key => (group.get key none).2) group

/-- The key if a get with nobody to ask calls the loader for it. -/
def calls (group : Group) (key : String) : List String :=
  match (group.start key).1 with
  | .missing => [key]
  | _ => []

def called (group : Group) : List String → List String
  | [] => []
  | key :: keys => group.calls key ++ (group.get key none).2.called keys

variable {group : Group} {lru : Cache.Lru Payload} {loader : Loader} {key : String}

/-- A group whose shard is a plain LRU list of what its loader gave. -/
structure Plain (loader : Loader) (group : Group) (lru : Cache.Lru Payload) : Prop where
  loader : group.loader = loader
  shard : group.shard.Stands lru.twoLists

theorem start_loader (group : Group) (key : String) :
    (group.start key).2.loader = group.loader := by
  unfold start
  split
  next => rfl
  next => split <;> rfl

theorem Plain.start (plain : Plain loader group lru) (filled : key.isEmpty = false) :
    Plain loader (group.start key).2 (lru.get key).2 ∧
      (group.start key).1 = match (lru.get key).1 with
        | some value => .found value
        | none => .missing := by
  obtain ⟨answer, kept⟩ := plain.shard.get key
  rw [Cache.Lru.get_twoLists plain.shard.valid] at answer kept
  rcases group.start_cases key with refused | ⟨value, got, hit, shard⟩ | ⟨got, missed, shard⟩
  · rw [Group.start, if_neg (by simp [filled])] at refused
    split at refused <;> nomatch congrArg Prod.fst refused
  · refine ⟨⟨(start_loader group key).trans plain.loader, shard ▸ kept⟩, ?_⟩
    rw [hit, ← answer, got]
  · refine ⟨⟨(start_loader group key).trans plain.loader, shard ▸ kept⟩, ?_⟩
    rw [missed, ← answer, got]

theorem Plain.finishLoad (plain : Plain loader group lru) (key : String) (value : Payload) :
    Plain loader (group.finishLoad key (.ok value)) (lru.add key value).2 := by
  have added := plain.shard.add key value
  rw [Cache.Lru.add_twoLists] at added
  exact ⟨plain.loader, added⟩

theorem Plain.get (plain : Plain loader group lru) (filled : key.isEmpty = false) :
    Plain loader (group.get key none).2 (lru.readThrough loader key) := by
  have ⟨looked, first⟩ := plain.start filled
  unfold Group.get Cache.Lru.readThrough
  generalize group.start key = begun at looked first
  generalize lru.get key = sought at looked first
  obtain ⟨started, group⟩ := begun
  obtain ⟨answer, lru⟩ := sought
  obtain rfl := first
  cases answer with
  | some value => exact looked
  | none =>
    have own : group.loader = loader := looked.loader
    simp only [Group.load, own]
    cases loader key with
    | ok value => exact Plain.finishLoad looked key value
    | error text => exact looked

theorem alone_plain (name : String) (loader : Loader) (cacheBytes : Nat) :
    Plain loader (alone name loader cacheBytes) (.new cacheBytes cacheBytes) :=
  ⟨rfl, Shard.stands_of_fresh rfl⟩

theorem Plain.keys (plain : Plain loader group lru) : group.shard.keys = lru.keys :=
  plain.shard.keys

/-- A get of a named key is counted as a hit, unless the loader is called. -/
theorem calls_counted (group : Group) (key : String) :
    (group.get key none).2.counters.cacheHits + (group.calls key).length =
      group.counters.cacheHits + if !key.isEmpty then 1 else 0 := by
  have loaded (group : Group) :
      (group.load key).2.counters.cacheHits = group.counters.cacheHits := by
    unfold Group.load finishLoad
    cases group.loader key <;> rfl
  unfold Group.get calls start
  cases key.isEmpty with
  | true => rfl
  | false =>
    rcases group.shard.get key with ⟨_ | value, shard⟩
    · simp [loaded]
    · simp

theorem called_counted (group : Group) (keys : List String) :
    (group.after keys).counters.cacheHits + (group.called keys).length =
      group.counters.cacheHits + keys.countP (!·.isEmpty) := by
  induction keys generalizing group with
  | nil => rfl
  | cons key keys ih =>
    have first := group.calls_counted key
    have rest := ih (group.get key none).2
    have later : group.after (key :: keys) = (group.get key none).2.after keys := rfl
    rw [later, called, List.length_append, List.countP_cons]
    omega

/-- Two groups whose shards are nested lists of what one loader gave. -/
def Nested (loader : Loader) (small large : Group) : Prop :=
  ∃ inner outer, Plain loader small inner ∧ Plain loader large outer ∧
    Cache.Lru.Nested loader inner outer

namespace Nested

variable {small large : Group}

theorem keys (nested : Nested loader small large) : small.shard.keys <+: large.shard.keys := by
  obtain ⟨inner, outer, plain, plainLarge, lists⟩ := nested
  rw [plain.keys, plainLarge.keys]
  exact lists.part.map _

theorem start (nested : Nested loader small large) (key : String) :
    (∀ value, (small.start key).1 = .found value → (large.start key).1 = .found value) ∧
      ((large.start key).1 = .missing → (small.start key).1 = .missing) := by
  obtain ⟨inner, outer, plain, plainLarge, lists⟩ := nested
  cases filled : key.isEmpty with
  | true => simp [Group.start, filled]
  | false =>
    rw [(plain.start filled).2, (plainLarge.start filled).2]
    cases held : inner.entries.lookup key with
    | none =>
      rw [Cache.Lru.get_of_missing held]
      exact ⟨nofun, fun _ => rfl⟩
    | some value =>
      rw [Cache.Lru.get_of_found held,
        Cache.Lru.get_of_found (Cache.Lru.lookup_of_isPrefix lists.part held)]
      exact ⟨fun _ same => same, nofun⟩

theorem get (nested : Nested loader small large) (key : String) :
    Nested loader (small.get key none).2 (large.get key none).2 := by
  cases filled : key.isEmpty with
  | true =>
    have refused (group : Group) : (group.get key none).2 = group := by
      simp [Group.get, Group.start, filled]
    rwa [refused, refused]
  | false =>
    obtain ⟨inner, outer, plain, plainLarge, lists⟩ := nested
    exact ⟨_, _, plain.get filled, plainLarge.get filled, lists.readThrough key⟩

theorem after (nested : Nested loader small large) (keys : List String) :
    Nested loader (small.after keys) (large.after keys) := by
  induction keys generalizing small large with
  | nil => exact nested
  | cons key keys ih => exact ih (nested.get key)

theorem calls (nested : Nested loader small large) (key : String) :
    (large.calls key).Sublist (small.calls key) := by
  unfold Group.calls
  cases begun : (large.start key).1 with
  | missing => rw [(nested.start key).2 begun]
  | refused | found => exact List.nil_sublist _

theorem called (nested : Nested loader small large) (keys : List String) :
    (large.called keys).Sublist (small.called keys) := by
  induction keys generalizing small large with
  | nil => exact List.Sublist.refl _
  | cons key keys ih =>
    rw [Group.called, Group.called]
    exact (nested.calls key).append (ih (nested.get key))

end Nested

/-- Gets with nobody to ask on two plain LRU shards, of which the larger one has more room or no
bound, while every answer of the loader fits the smaller one by itself. After any gets the
smaller shard holds a first part of the larger one's keys, every hit of the smaller group is one
of the larger group, with the same value, and the larger group has called the loader for no other
keys and no more often, so that it counts at least as many hits. -/
theorem more_memory_keeps_hits {loader : Loader} {less more : Nat} (positive : 0 < less)
    (roomier : less ≤ more ∨ more = 0)
    (fits : ∀ key value, loader key = .ok value → Cache.entrySize key value ≤ less)
    (first second : String) (keys : List String) :
    let small := alone first loader less
    let large := alone second loader more
    (small.after keys).shard.keys <+: (large.after keys).shard.keys ∧
      (∀ key value, ((small.after keys).start key).1 = .found value →
        ((large.after keys).start key).1 = .found value) ∧
      (large.called keys).Sublist (small.called keys) ∧
      (large.called keys).length ≤ (small.called keys).length ∧
      (small.after keys).counters.cacheHits ≤ (large.after keys).counters.cacheHits := by
  intro small large
  have room : ∀ bytes, Cache.exceeds less bytes = false → Cache.exceeds more bytes = false := by
    intro bytes within
    rw [Cache.exceeds_eq_false] at within ⊢
    omega
  have enters : ∀ key value, loader key = .ok value →
      Cache.exceeds less (Cache.entrySize key value) = false ∧
        Cache.exceeds more (Cache.entrySize key value) = false := by
    intro key value loaded
    have past := Cache.exceeds_eq_false.mpr fun _ => fits key value loaded
    exact ⟨past, room _ past⟩
  have nested : Nested loader small large :=
    ⟨_, _, alone_plain first loader less, alone_plain second loader more,
      List.prefix_rfl, fun _ none => absurd none List.not_mem_nil, enters, room⟩
  have settled := nested.after keys
  have fewer := (nested.called keys).length_le
  refine ⟨settled.keys, fun key => (settled.start key).1, nested.called keys, fewer, ?_⟩
  have counted := small.called_counted keys
  have countedLarge := large.called_counted keys
  have same : small.counters.cacheHits = large.counters.cacheHits := rfl
  omega

/-- Two keys that fit one at a time in two bytes. The smaller group loads the first one again,
the larger one still holds it. -/
theorem more_memory_keeps_hits_pair :
    let table := [("a", Payload.ofText "1"), ("b", .ofText "2")]
    let loader := Loader.ofTable table
    let small := alone "small" loader 2
    let large := alone "large" loader 4
    let keys := ["a", "b", "a"]
    (0 < 2) ∧ (2 ≤ 4 ∨ 4 = 0) ∧
      (∀ key value, loader key = .ok value → Cache.entrySize key value ≤ 2) ∧
      (small.after keys).shard.keys <+: (large.after keys).shard.keys ∧
      (large.called keys).length ≤ (small.called keys).length ∧
      small.called keys = ["a", "b", "a"] ∧ large.called keys = ["a", "b"] := by
  intro table loader small large keys
  have fits : ∀ key value, loader key = .ok value → Cache.entrySize key value ≤ 2 := by
    intro key value loaded
    have known : (key, value) ∈ table := by
      simp only [loader, Loader.ofTable] at loaded
      split at loaded
      next found => exact Except.ok.inj loaded ▸ Cache.mem_of_lookup found
      next => nomatch loaded
    simp only [table, List.mem_cons, Prod.mk.injEq, List.not_mem_nil, or_false] at known
    rcases known with ⟨rfl, rfl⟩ | ⟨rfl, rfl⟩ <;> decide
  have positive : 0 < 2 := by omega
  have roomier : 2 ≤ 4 ∨ 4 = 0 := by omega
  obtain ⟨part, _, _, calls, _⟩ := more_memory_keeps_hits positive roomier fits "small" "large" keys
  exact ⟨positive, roomier, fits, part, calls, by cbv, by cbv⟩

end Group

end ReadThrough
