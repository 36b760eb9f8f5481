import ReadThrough.Proofs.Visit

/-! A cache that promotes a key at its first observation is one list, most recently used entry
first, with a gate before it. Every new entry passes through the history on its way to the main
queue, so the budget of the history decides which entries get in at all; nothing ever stays in
the history between two calls. -/

namespace ReadThrough.Cache

/-- A list of entries under a byte budget. The gate keeps out new entries that are larger than
it; a gate of zero is always open. -/
structure Lru (α : Type) where
  maxBytes : Nat
  gate : Nat
  entries : List (String × α) := []

namespace Lru

variable {α : Type}

def new (maxBytes gate : Nat) : Lru α := { maxBytes, gate }

def keys (lru : Lru α) : List String := lru.entries.map (·.1)

def front (lru : Lru α) (key : String) (value : α) : List (String × α) :=
  (key, value) :: without key lru.entries

def get (lru : Lru α) (key : String) : Option α × Lru α :=
  match lru.entries.lookup key with
  | some value => (some value, { lru with entries := lru.front key value })
  | none => (none, lru)

def removeOldest (lru : Lru α) : Evicted α × Lru α :=
  match lru.entries.getLast? with
  | some entry => ([entry], { lru with entries := lru.entries.dropLast })
  | none => ([], lru)

/-- The two lists of a cache that promotes at once. -/
def twoLists (lru : Lru α) : Reference α :=
  { maxBytes := lru.maxBytes, historyMaxBytes := lru.gate, threshold := 1, main := lru.entries }

theorem removeOldest_twoLists (lru : Lru α) :
    lru.twoLists.removeOldest = (lru.removeOldest.1, lru.removeOldest.2.twoLists) := by
  have main : lru.twoLists.main = lru.entries := rfl
  simp only [Reference.removeOldest, main, removeOldest]
  cases lru.entries.getLast? <;> rfl

variable [ByteSized α]

/-- Puts an entry at the front and drops entries from the back while they exceed the budget. -/
def enter (lru : Lru α) (key : String) (value : α) : Evicted α × Lru α :=
  let trimmed := trim charge lru.maxBytes (lru.front key value).reverse
  (trimmed.1, { lru with entries := trimmed.2.reverse })

def add (lru : Lru α) (key : String) (value : α) : Evicted α × Lru α :=
  if key ∉ lru.keys ∧ exceeds lru.gate (entrySize key value) = true then ([(key, value)], lru)
  else lru.enter key value

/-- There is no history to drop anything from. -/
def apply (lru : Lru α) : Operation α → Option α × Evicted α × Lru α
  | .add key value => (none, lru.add key value)
  | .get key => ((lru.get key).1, [], (lru.get key).2)
  | .removeOldest => (none, lru.removeOldest)
  | .removeHistoryOldest => (none, [], lru)

def trace (lru : Lru α) : List (Operation α) → List (Option α × Evicted α) × Lru α
  | [] => ([], lru)
  | operation :: operations =>
    let outcome := lru.apply operation
    let rest := outcome.2.2.trace operations
    ((outcome.1, outcome.2.1) :: rest.1, rest.2)

variable {lru : Lru α} {key : String} {value : α}

theorem enterMain_twoLists (lru : Lru α) (key : String) (value : α) :
    lru.twoLists.enterMain key value =
      ((lru.enter key value).1, (lru.enter key value).2.twoLists) := rfl

theorem add_eq_enter (enters : key ∈ lru.keys ∨ exceeds lru.gate (entrySize key value) = false) :
    lru.add key value = lru.enter key value := by
  apply if_neg
  rintro ⟨absent, oversized⟩
  cases enters with
  | inl present => exact absent present
  | inr fits => exact absurd oversized (by simp [fits])

/-- A new entry is the only one in the history, so either it is too large and leaves at once or
nothing is dropped for it and it goes on to the main queue. -/
theorem add_twoLists (lru : Lru α) (key : String) (value : α) :
    lru.twoLists.add key value = ((lru.add key value).1, (lru.add key value).2.twoLists) := by
  have alone : lru.twoLists.arrived key value = [lru.twoLists.arrival key value] := rfl
  have visited := lru.twoLists.visited key value
  rw [Reference.add_eq_visit]
  generalize lru.twoLists.visit key value = outcome at visited
  cases visited with
  | moved present => rw [add_eq_enter (.inl present), enterMain_twoLists, List.nil_append]
  | refused absent oversized =>
    rw [alone, add, if_pos ⟨absent, oversized⟩]
    rfl
  | waits absent fits early trimmed =>
    have observed := lru.twoLists.observations_pos key
    exact absurd early (Nat.not_lt.mpr observed)
  | @promoted dropped rest absent fits ready trimmed =>
    -- The arrival is the whole queue, so nothing is dropped before it or left beside it.
    have whole := trim_append (fun waiting : Waiting α => charge waiting.entry) lru.gate
      (lru.twoLists.arrived key value)
    rw [show lru.gate = lru.twoLists.historyMaxBytes from rfl, trimmed, alone] at whole
    obtain ⟨rfl, rfl⟩ : dropped = [] ∧ rest = [] := by
      have length := congrArg List.length whole
      simp only [List.length_append, List.length_cons, List.length_nil] at length
      exact ⟨List.length_eq_zero_iff.mp (by omega), List.length_eq_zero_iff.mp (by omega)⟩
    rw [add_eq_enter (.inr fits)]
    rfl

theorem get_twoLists (valid : lru.twoLists.Valid) (key : String) :
    lru.twoLists.get key = ((lru.get key).1, [], (lru.get key).2.twoLists) := by
  have main : lru.twoLists.main = lru.entries := rfl
  cases found : lru.entries.lookup key with
  | some value =>
    simp only [Reference.get, main, get, found, Reference.enterMain_of_lookup valid found]
    rfl
  | none =>
    simp only [Reference.get, main, get, found]
    rfl

theorem apply_twoLists (valid : lru.twoLists.Valid) (operation : Operation α) :
    lru.twoLists.apply operation = ((lru.apply operation).1, (lru.apply operation).2.1,
      (lru.apply operation).2.2.twoLists) := by
  cases operation with
  | add key value => exact congrArg (Prod.mk none) (add_twoLists lru key value)
  | get key => exact get_twoLists valid key
  | removeOldest => exact congrArg (Prod.mk none) (removeOldest_twoLists lru)
  | removeHistoryOldest => rfl

theorem trace_twoLists (valid : lru.twoLists.Valid) (operations : List (Operation α)) :
    lru.twoLists.trace operations =
      ((lru.trace operations).1, (lru.trace operations).2.twoLists) := by
  induction operations generalizing lru with
  | nil => rfl
  | cons operation operations ih =>
    have step := apply_twoLists valid operation
    have after := Reference.apply_valid valid operation
    rw [step] at after
    simp only [Reference.trace, trace, step, ih after]

end Lru

variable {α : Type} [ByteSized α]

/-- With a threshold of one or less, the budget of the history is nothing but a gate for new
entries, and behind it the cache is a plain LRU list: after any calls the history is empty, and
the answers, the evictions, the order, the values and the byte count are those of the list. -/
theorem single_hit_is_lru (maxBytes historyMaxBytes : Nat) {threshold : Nat}
    (single : threshold ≤ 1) (operations : List (Operation α)) :
    let expected := (Lru.new maxBytes historyMaxBytes).trace operations
    ∃ cache, (new maxBytes historyMaxBytes threshold).trace operations =
        .ok (expected.1, cache) ∧
      cache.historyEntries = [] ∧ cache.historyBytes = 0 ∧
      cache.mainEntries = expected.2.entries ∧ cache.keys = expected.2.keys ∧
      cache.bytes = weight expected.2.entries := by
  intro expected
  have initial : (Reference.new maxBytes historyMaxBytes threshold : Reference α).Valid :=
    Reference.Valid.initial maxBytes historyMaxBytes threshold
  have start : (Reference.new maxBytes historyMaxBytes threshold : Reference α) =
      (Lru.new maxBytes historyMaxBytes).twoLists := by
    rw [Reference.new, Nat.max_eq_right single]
    rfl
  obtain ⟨cache, done, represents⟩ :=
    trace_new (α := α) maxBytes historyMaxBytes threshold operations
  have settled := Reference.trace_valid initial operations
  rw [start] at initial
  rw [start, Lru.trace_twoLists initial] at done represents settled
  have shows := represents.shows settled.distinct
  exact ⟨cache, done, shows.historyEntries, shows.historyBytes, shows.mainEntries, shows.keys,
    shows.bytes⟩

/-- A gate of two bytes keeps the second entry out; the third one takes the place of the first. -/
theorem single_hit_is_lru_gated :
    let operations : List (Operation String) := [.add "a" "1", .add "b" "22", .add "c" "3"]
    (1 ≤ 1) ∧ ((Lru.new 3 2).trace operations).1 =
        [(none, []), (none, [("b", "22")]), (none, [("a", "1")])] ∧
      ∃ cache, (new 3 2 1).trace operations = .ok (((Lru.new 3 2).trace operations).1, cache) ∧
        cache.historyEntries = [] ∧ cache.keys = ["c"] := by
  intro operations
  obtain ⟨cache, done, history, _, _, keys, _⟩ := single_hit_is_lru 3 2 (Nat.le_refl 1) operations
  exact ⟨Nat.le_refl 1, by decide, cache, done, history, keys.trans (by decide)⟩

end ReadThrough.Cache
