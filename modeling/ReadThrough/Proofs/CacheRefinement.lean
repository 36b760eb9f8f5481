import ReadThrough.Proofs.QueueContents
import ReadThrough.Proofs.ReferenceInvariant

/-! The stored cache does what the rules say on plain lists. It represents two lists when its
queues store their entries and its counters are those of the waiting keys. Every call on it
then succeeds, answers and drops what the rules answer and drop, and represents the lists
after the call. -/

namespace ReadThrough.Cache

variable {α : Type}

section
variable {history : List (Waiting α)} {waiting : Waiting α} {key other : String}

theorem lookup_history :
    (history.map Waiting.entry).lookup key = (history.find? (·.key == key)).map (·.value) := by
  induction history with
  | nil => rfl
  | cons waiting history ih =>
    by_cases same : waiting.key = key
    · simp [Waiting.entry, same]
    · have test : (key == waiting.key) = false := beq_eq_false_iff_ne.mpr (Ne.symm same)
      simp [Waiting.entry, List.lookup_cons, same, test, ih]

theorem find?_without : (history.filter (·.key != key)).find? (·.key == other) =
    if key = other then none else history.find? (·.key == other) := by
  rw [List.find?_filter]
  split
  next same =>
    subst same
    simp
  next different =>
    congr 1
    funext waiting
    by_cases same : waiting.key = other
    · simp [same, Ne.symm different]
    · simp [same]

/-- Without its key a counter map is that of the history without the key. -/
theorem erase_hits {hits : Std.HashMap String Nat}
    (agree : ∀ other, other ≠ key → hits[other]? = (history.find? (·.key == other)).map (·.hits)) :
    ∀ other, (hits.erase key)[other]? =
      ((history.filter (·.key != key)).find? (·.key == other)).map (·.hits) := by
  intro other
  rw [Std.HashMap.getElem?_erase, find?_without]
  by_cases same : key = other
  · simp [same]
  · simp [same, agree other (Ne.symm same)]

/-- With a new counter the map is that of the history with the key at its end. -/
theorem insert_hits {hits : Std.HashMap String Nat}
    (agree : ∀ other, hits[other]? = (history.find? (·.key == other)).map (·.hits)) :
    ∀ other, (hits.insert waiting.key waiting.hits)[other]? =
      ((history.filter (·.key != waiting.key) ++ [waiting]).find? (·.key == other)).map (·.hits) := by
  intro other
  rw [Std.HashMap.getElem?_insert, List.find?_append, find?_without]
  by_cases same : waiting.key = other
  · simp [same]
  · simp [same, agree other]

end

variable [ByteSized α]

structure Represents (cache : Cache α) (reference : Reference α) : Prop where
  main : cache.main.Stores reference.maxBytes reference.main
  history : cache.history.Stores reference.historyMaxBytes (reference.history.map Waiting.entry)
  hits : ∀ key, cache.hits[key]? = (reference.waiting? key).map (·.hits)
  threshold : cache.threshold = reference.threshold

/-- Everything that can be asked of the cache agrees with the lists. -/
structure Shows (cache : Cache α) (reference : Reference α) : Prop where
  mainEntries : cache.mainEntries = reference.main
  historyEntries : cache.historyEntries = reference.history
  keys : cache.keys = reference.keys
  historyKeys : cache.historyKeys = reference.historyKeys
  contains : ∀ key, cache.contains key = true ↔ key ∈ reference.keys
  inHistory : ∀ key, cache.inHistory key = true ↔ key ∈ reference.historyKeys
  historyHits : ∀ key, cache.historyHits key = (reference.waiting? key).map (·.hits)
  size : cache.size = reference.main.length
  historySize : cache.historySize = reference.history.length
  bytes : cache.bytes = weight reference.main
  historyBytes : cache.historyBytes = weight (reference.history.map Waiting.entry)

/-- A call succeeded with what the rules drop, on a cache for what the rules leave. -/
def Follows (outcome : Except Fault (Evicted α × Cache α)) (expected : Evicted α × Reference α) :
    Prop :=
  ∃ cache, outcome = .ok (expected.1, cache) ∧ cache.Represents expected.2

/-- The same of a call that hands back a value. -/
def Answers (outcome : Except Fault (Option α × Evicted α × Cache α))
    (expected : Option α × Evicted α × Reference α) : Prop :=
  ∃ cache, outcome = .ok (expected.1, expected.2.1, cache) ∧ cache.Represents expected.2.2

namespace Represents

variable {cache : Cache α} {reference : Reference α} {key : String} {value : α} {slot : Nat}

theorem initial (maxBytes historyMaxBytes threshold : Nat) :
    (new maxBytes historyMaxBytes threshold : Cache α).Represents
      (Reference.new maxBytes historyMaxBytes threshold) where
  main := Queue.empty_stores maxBytes
  history := Queue.empty_stores historyMaxBytes
  hits key := by simp [new, Reference.new, Reference.waiting?]
  threshold := rfl

theorem removeOldest (represents : cache.Represents reference) :
    Follows cache.removeOldest reference.removeOldest := by
  rcases List.eq_nil_or_concat reference.main with empty | ⟨rest, ⟨key, held⟩, main⟩
  · have tail := represents.main.tail_eq_none.mpr empty
    have rule : reference.removeOldest = ([], reference) := by
      simp [Reference.removeOldest, empty]
    exact rule ▸ ⟨cache, by simp [Cache.removeOldest, tail], represents⟩
  · rw [List.concat_eq_append] at main
    have rule : reference.removeOldest = ([(key, held)], { reference with main := rest }) := by
      simp [Reference.removeOldest, main]
    obtain ⟨slot, removed, tail, done, kept⟩ := (main ▸ represents.main).removeLast
    rw [rule]
    refine ⟨{ cache with main := removed }, ?_, kept, represents.history, represents.hits,
      represents.threshold⟩
    simp only [Cache.removeOldest, tail, done]
    rfl

theorem removeHistoryOldest (represents : cache.Represents reference) :
    Follows cache.removeHistoryOldest reference.removeHistoryOldest := by
  rcases history : reference.history with _ | ⟨waiting, rest⟩
  · have head := represents.history.head_eq_none.mpr (by simp [history])
    have rule : reference.removeHistoryOldest = ([], reference) := by
      simp [Reference.removeHistoryOldest, history]
    exact rule ▸ ⟨cache, by simp [Cache.removeHistoryOldest, head], represents⟩
  · have rule : reference.removeHistoryOldest =
        ([waiting.entry], { reference with history := rest }) := by
      simp [Reference.removeHistoryOldest, history]
    have stores := represents.history
    rw [history, List.map_cons] at stores
    obtain ⟨slot, removed, head, done, kept⟩ := stores.removeFirst
    rw [rule]
    refine ⟨{ cache with history := removed, hits := cache.hits.erase waiting.key }, ?_,
      represents.main, kept, ?_, represents.threshold⟩
    · simp only [Cache.removeHistoryOldest, head, done]
      rfl
    · have fresh : ∀ other ∈ rest, (other.key != waiting.key) = true := by
        intro other member
        have absent := (List.nodup_cons.mp stores.distinct).1
        simpa using fun same : other.key = waiting.key =>
          absent (List.mem_map.mpr ⟨other.entry, List.mem_map_of_mem member, same⟩)
      have others : reference.history.filter (·.key != waiting.key) = rest := by
        rw [history, List.filter_cons_of_neg (by simp), List.filter_eq_self.mpr fresh]
      intro key
      rw [Reference.waiting?, ← others]
      exact erase_hits (fun other _ => represents.hits other) key

theorem trimMain {items : List (String × α)}
    (represents : cache.Represents { reference with main := items.reverse }) :
    let trimmed := trim charge reference.maxBytes items
    Follows (cache.trimMain items.length)
      (trimmed.1, { reference with main := trimmed.2.reverse }) := by
  induction items generalizing cache with
  | nil => exact ⟨cache, rfl, represents⟩
  | cons item rest ih =>
    have exceeded := represents.main.overBudget
    rw [weight_perm (List.reverse_perm _), weight] at exceeded
    simp only [List.length_cons, Cache.trimMain, trim]
    rw [exceeded]
    split
    next =>
      have rule : Reference.removeOldest { reference with main := (item :: rest).reverse } =
          ([item], { reference with main := rest.reverse }) := by
        simp [Reference.removeOldest]
      obtain ⟨dropped, done, kept⟩ := represents.removeOldest
      rw [rule] at done kept
      obtain ⟨trimmed, last, settled⟩ := ih kept
      exact ⟨trimmed, by rw [done]; simp only [bind, Except.bind, last]; rfl, settled⟩
    next => exact ⟨cache, rfl, represents⟩

theorem evictMainOverflow (represents : cache.Represents reference) :
    Follows cache.evictMainOverflow reference.settleMain := by
  have size : cache.size = reference.main.reverse.length := by
    rw [List.length_reverse]
    exact represents.main.size
  rw [Cache.evictMainOverflow, size]
  apply trimMain
  rw [List.reverse_reverse]
  exact represents

theorem trimHistory {items : List (Waiting α)}
    (represents : cache.Represents { reference with history := items }) :
    let trimmed :=
      trim (fun waiting : Waiting α => charge waiting.entry) reference.historyMaxBytes items
    Follows (cache.trimHistory items.length)
      (trimmed.1.map Waiting.entry, { reference with history := trimmed.2 }) := by
  induction items generalizing cache with
  | nil => exact ⟨cache, rfl, represents⟩
  | cons item rest ih =>
    have exceeded : cache.history.overBudget = exceeds reference.historyMaxBytes
        ((item :: rest).map fun waiting => charge waiting.entry).sum := by
      rw [represents.history.overBudget, weight, List.map_map]
      rfl
    simp only [List.length_cons, Cache.trimHistory, trim]
    rw [exceeded]
    split
    next =>
      obtain ⟨dropped, done, kept⟩ := represents.removeHistoryOldest
      obtain ⟨trimmed, last, settled⟩ := ih kept
      exact ⟨trimmed, by rw [done]; simp only [bind, Except.bind, last]; rfl, settled⟩
    next => exact ⟨cache, rfl, represents⟩

/-- A waiting key is taken over by the main queue with its value. Its counter is given up, so
it does not matter which one it was. -/
theorem promote {waiting : Waiting α} (main : cache.main.Stores reference.maxBytes reference.main)
    (history : cache.history.Stores reference.historyMaxBytes (reference.history.map Waiting.entry))
    (hits : ∀ other, other ≠ key → cache.hits[other]? = (reference.waiting? other).map (·.hits))
    (threshold : cache.threshold = reference.threshold)
    (absent : reference.main.lookup key = none) (found : cache.history.slot? key = some slot)
    (waits : reference.waiting? key = some waiting) :
    Follows (cache.promote slot) (reference.enterMain key waiting.value) := by
  have same : (reference.history.map Waiting.entry).lookup key = some waiting.value := by
    rw [lookup_history, ← Reference.waiting?, waits]
    rfl
  obtain ⟨removed, done, kept⟩ := history.remove found same
  rw [Cache.promote, done]
  apply evictMainOverflow
  refine ⟨?_, ?_, erase_hits hits, threshold⟩
  · rw [without_eq_self (lookup_eq_none.mp absent)]
    exact main.pushFront absent waiting.value
  · rw [Reference.history_without]
    exact kept

theorem evictHistoryOverflow (represents : cache.Represents reference) :
    Follows cache.evictHistoryOverflow reference.settleHistory := by
  have size : cache.historySize = reference.history.length := by
    rw [← List.length_map Waiting.entry]
    exact represents.history.size
  rw [Cache.evictHistoryOverflow, size]
  exact trimHistory represents

/-- The index of the history finds the waiting keys, and their counters are at hand. -/
theorem waits (represents : cache.Represents reference) (found : cache.history.slot? key = some slot) :
    ∃ waiting, reference.waiting? key = some waiting ∧
      (reference.history.map Waiting.entry).lookup key = some waiting.value ∧
      cache.hits.getD key 0 = waiting.hits := by
  obtain ⟨held, same⟩ := represents.history.lookup found
  have counter := represents.hits key
  rw [lookup_history, ← Reference.waiting?, Option.map_eq_some_iff] at same
  obtain ⟨waiting, waits, rfl⟩ := same
  refine ⟨waiting, waits, by rw [lookup_history, ← Reference.waiting?, waits]; rfl, ?_⟩
  rw [Std.HashMap.getD_eq_getD_getElem?, counter, waits]
  rfl

theorem waiting?_eq_none (represents : cache.Represents reference)
    (missing : cache.history.slot? key = none) : reference.waiting? key = none := by
  have absent := represents.history.slot?_eq_none.mp missing
  rw [lookup_history, Option.map_eq_none_iff] at absent
  exact absent

/-- A key that is put at the end of the history is counted there. -/
theorem waitsLast (represents : cache.Represents reference) (waiting : Waiting α)
    {history : Queue α}
    (kept : history.Stores reference.historyMaxBytes
      (without waiting.key (reference.history.map Waiting.entry) ++ [waiting.entry])) :
    Represents { cache with history, hits := cache.hits.insert waiting.key waiting.hits }
      (reference.enterHistory waiting) where
  main := represents.main
  history := by
    rw [Reference.enterHistory, List.map_append, Reference.history_without]
    exact kept
  hits := insert_hits represents.hits
  threshold := represents.threshold

/-- A key of the main queue moves to its head; the rule trims a queue that is within its budget. -/
theorem getMain (represents : cache.Represents reference) (valid : reference.Valid)
    (indexed : cache.main.slot? key = some slot) :
    Answers (cache.get key) (reference.get key) := by
  obtain ⟨value, found⟩ := represents.main.lookup indexed
  obtain ⟨moved, done, kept, again⟩ := represents.main.moveToFront indexed found
  have read := kept.value again List.lookup_cons_self
  have rule : reference.get key =
      (some value, [], { reference with main := (key, value) :: without key reference.main }) := by
    simp only [Reference.get, found, Reference.enterMain_of_lookup valid found]
  rw [rule]
  refine ⟨{ cache with main := moved }, ?_, kept, represents.history, represents.hits,
    represents.threshold⟩
  simp only [Cache.get, indexed, done, bind, Except.bind, read]
  rfl

/-- A waiting key is counted first, and then promoted or sent to the end of the history. -/
theorem getWaiting (represents : cache.Represents reference) (indexed : cache.main.slot? key = none)
    (found : cache.history.slot? key = some slot) :
    Answers (cache.get key) (reference.get key) := by
  have absent := represents.main.slot?_eq_none.mp indexed
  obtain ⟨waiting, waits, same, counter⟩ := represents.waits found
  have main : (cache.observe key).main.Stores reference.maxBytes reference.main := represents.main
  have history : (cache.observe key).history.Stores reference.historyMaxBytes
      (reference.history.map Waiting.entry) := represents.history
  have read : (cache.observe key).history.value slot = .ok waiting.value := history.value found same
  have observed : (cache.observe key).hits.getD key 0 = waiting.hits + 1 := by
    simp [Cache.observe, counter]
  by_cases ready : reference.threshold ≤ waiting.hits + 1
  · have rule : reference.get key = (some waiting.value, reference.enterMain key waiting.value) := by
      simp only [Reference.get, absent, waits, if_pos ready]
    -- The key is counted once more than the history says; the promotion gives the counter up.
    have others : ∀ other, other ≠ key →
        (cache.observe key).hits[other]? = (reference.waiting? other).map (·.hits) := by
      intro other different
      rw [← represents.hits other]
      simp [Cache.observe, Std.HashMap.getElem?_insert, Ne.symm different]
    obtain ⟨after, promoted, settled⟩ :=
      promote main history others represents.threshold absent found waits
    rw [rule]
    refine ⟨after, ?_, settled⟩
    simp only [Cache.get, indexed, found, bind, Except.bind, read, observed]
    rw [if_pos (represents.threshold ▸ ready), promoted]
    rfl
  · obtain rfl := Reference.key_of_waiting? waits
    have rule : reference.get waiting.key =
        (some waiting.value, [], reference.enterHistory { waiting with hits := waiting.hits + 1 }) := by
      simp only [Reference.get, absent, waits, if_neg ready]
    obtain ⟨moved, done, kept⟩ := history.moveToBack found same
    rw [rule]
    refine ⟨{ cache.observe waiting.key with history := moved }, ?_, ?_⟩
    · simp only [Cache.get, indexed, found, bind, Except.bind, read, observed]
      rw [if_neg (represents.threshold ▸ ready), done]
      rfl
    · rw [Cache.observe, counter]
      exact represents.waitsLast { waiting with hits := waiting.hits + 1 } kept

theorem get (represents : cache.Represents reference) (valid : reference.Valid) (key : String) :
    Answers (cache.get key) (reference.get key) := by
  cases indexed : cache.main.slot? key with
  | some slot => exact represents.getMain valid indexed
  | none =>
    cases found : cache.history.slot? key with
    | some slot => exact represents.getWaiting indexed found
    | none =>
      have absent := represents.main.slot?_eq_none.mp indexed
      have missing := represents.waiting?_eq_none found
      have rule : reference.get key = (none, [], reference) := by
        simp only [Reference.get, absent, missing]
      exact rule ▸ ⟨cache, by simp only [Cache.get, indexed, found], represents⟩

theorem enterHistory (represents : cache.Represents reference) (key : String) (value : α) :
    ∃ entered, cache.enterHistory key value = .ok entered ∧ entered.Represents
      (reference.enterHistory { key, value, hits := reference.observations key }) := by
  cases found : cache.history.slot? key with
  | none =>
    have absent := represents.history.slot?_eq_none.mp found
    have first : reference.observations key = 1 := by
      rw [Reference.observations, represents.waiting?_eq_none found]
    have kept := represents.history.pushBack absent value
    rw [← without_eq_self (lookup_eq_none.mp absent)] at kept
    rw [first]
    exact ⟨_, by rw [Cache.enterHistory, found],
      represents.waitsLast { key, value, hits := 1 } kept⟩
  | some slot =>
    obtain ⟨waiting, waits, _, counter⟩ := represents.waits found
    have again : reference.observations key = cache.hits.getD key 0 + 1 := by
      rw [Reference.observations, waits, counter]
    obtain ⟨replaced, revalued, written, stored, still, same, others⟩ :=
      represents.history.replace found value
    obtain ⟨moved, done, kept⟩ := stored.moveToBack still same
    rw [others] at kept
    rw [again]
    refine ⟨{ cache with history := moved }.observe key, ?_,
      represents.waitsLast { key, value, hits := cache.hits.getD key 0 + 1 } kept⟩
    simp only [Cache.enterHistory, found, bind, Except.bind, written, done]
    rfl

theorem promoteReady (represents : cache.Represents reference)
    (absent : reference.main.lookup key = none) :
    Follows (cache.promoteReady key) (reference.promoteReady key) := by
  cases found : cache.history.slot? key with
  | none =>
    rw [Reference.promoteReady, represents.waiting?_eq_none found, Cache.promoteReady, found]
    exact ⟨cache, rfl, represents⟩
  | some slot =>
    obtain ⟨waiting, waits, _, counter⟩ := represents.waits found
    simp only [Reference.promoteReady, waits, Cache.promoteReady, found, counter, represents.threshold]
    split
    next =>
      exact promote represents.main represents.history (fun other _ => represents.hits other)
        represents.threshold absent found waits
    next => exact ⟨cache, rfl, represents⟩

theorem add (represents : cache.Represents reference) (distinct : reference.Distinct) (key : String)
    (value : α) : Follows (cache.add key value) (reference.add key value) := by
  cases indexed : cache.main.slot? key with
  | some slot =>
    obtain ⟨old, found⟩ := represents.main.lookup indexed
    obtain ⟨replaced, revalued, written, stored, still, same, others⟩ :=
      represents.main.replace indexed value
    obtain ⟨moved, done, kept, _⟩ := stored.moveToFront still same
    have unmoved := Reference.filter_history distinct (List.mem_map_of_mem (mem_of_lookup found))
    have entered : Represents { cache with main := moved }
        { reference with
          main := (key, value) :: without key reference.main
          history := reference.history.filter (·.key != key) } := by
      rw [unmoved, ← others]
      exact ⟨kept, represents.history, represents.hits, represents.threshold⟩
    have rule : reference.add key value = reference.enterMain key value := by
      rw [Reference.add, found]
    obtain ⟨after, trimmed, settled⟩ := entered.evictMainOverflow
    rw [rule]
    refine ⟨after, ?_, settled⟩
    simp only [Cache.add, indexed, bind, Except.bind, written, done]
    exact trimmed
  | none =>
    have absent := represents.main.slot?_eq_none.mp indexed
    obtain ⟨entered, done, waiting⟩ := represents.enterHistory key value
    obtain ⟨trimmed, dropped, within⟩ := waiting.evictHistoryOverflow
    obtain ⟨after, promoted, settled⟩ := within.promoteReady absent
    simp only [Reference.add, absent]
    refine ⟨after, ?_, settled⟩
    simp only [Cache.add, indexed, bind, Except.bind, done, dropped, promoted]
    rfl

/-- Every call succeeds with the answer and the drops of the rules. -/
theorem apply (represents : cache.Represents reference) (valid : reference.Valid)
    (operation : Operation α) : Answers (cache.apply operation) (reference.apply operation) := by
  cases operation with
  | add key value =>
    obtain ⟨after, done, kept⟩ := represents.add valid.distinct key value
    exact ⟨after, by rw [Cache.apply, done]; rfl, kept⟩
  | get key => exact represents.get valid key
  | removeOldest =>
    obtain ⟨after, done, kept⟩ := represents.removeOldest
    exact ⟨after, by rw [Cache.apply, done]; rfl, kept⟩
  | removeHistoryOldest =>
    obtain ⟨after, done, kept⟩ := represents.removeHistoryOldest
    exact ⟨after, by rw [Cache.apply, done]; rfl, kept⟩

theorem trace (represents : cache.Represents reference) (valid : reference.Valid)
    (operations : List (Operation α)) :
    ∃ after, cache.trace operations = .ok ((reference.trace operations).1, after) ∧
      after.Represents (reference.trace operations).2 := by
  induction operations generalizing cache reference with
  | nil => exact ⟨cache, rfl, represents⟩
  | cons operation operations ih =>
    obtain ⟨next, done, kept⟩ := represents.apply valid operation
    obtain ⟨after, rest, settled⟩ := ih kept (Reference.apply_valid valid operation)
    refine ⟨after, ?_, settled⟩
    simp only [Cache.trace, done, bind, Except.bind, rest]
    rfl

theorem historyEntries (represents : cache.Represents reference) (distinct : reference.Distinct) :
    cache.historyEntries = reference.history := by
  rw [Cache.historyEntries, represents.history.contents, List.map_map]
  conv_rhs => rw [← List.map_id reference.history]
  refine List.map_congr_left fun waiting member => ?_
  have counter := represents.hits waiting.key
  rw [Reference.waiting?_of_mem distinct member] at counter
  simp [Waiting.entry, Std.HashMap.getD_eq_getD_getElem?, counter]

theorem shows (represents : cache.Represents reference) (distinct : reference.Distinct) :
    cache.Shows reference where
  mainEntries := represents.main.contents
  historyEntries := represents.historyEntries distinct
  keys := represents.main.keys
  historyKeys := represents.history.keys.trans (List.map_map ..)
  contains _ := represents.main.contains
  inHistory key := by
    rw [Cache.inHistory, represents.history.contains, List.map_map]
    rfl
  historyHits := represents.hits
  size := represents.main.size
  historySize := represents.history.size.trans (List.length_map _)
  bytes := represents.main.usedBytes
  historyBytes := represents.history.usedBytes

end Represents

theorem trace_new (maxBytes historyMaxBytes threshold : Nat) (operations : List (Operation α)) :
    ∃ cache, (new maxBytes historyMaxBytes threshold).trace operations =
        .ok (((Reference.new maxBytes historyMaxBytes threshold).trace operations).1, cache) ∧
      cache.Represents ((Reference.new maxBytes historyMaxBytes threshold).trace operations).2 :=
  (Represents.initial maxBytes historyMaxBytes threshold).trace
    (Reference.Valid.initial maxBytes historyMaxBytes threshold) operations

/-- Over any calls on a new cache, every answer and every list of dropped entries is that of
the rules, and so is everything that can be asked of the cache after them. -/
theorem follows_rules (maxBytes historyMaxBytes threshold : Nat) (operations : List (Operation α)) :
    ∃ cache, (new maxBytes historyMaxBytes threshold).trace operations =
        .ok (((Reference.new maxBytes historyMaxBytes threshold).trace operations).1, cache) ∧
      cache.Shows ((Reference.new maxBytes historyMaxBytes threshold).trace operations).2 := by
  obtain ⟨cache, done, represents⟩ := trace_new maxBytes historyMaxBytes threshold operations
  have initial : (Reference.new maxBytes historyMaxBytes threshold : Reference α).Valid :=
    Reference.Valid.initial maxBytes historyMaxBytes threshold
  exact ⟨cache, done, represents.shows (Reference.trace_valid initial operations).distinct⟩

end ReadThrough.Cache
