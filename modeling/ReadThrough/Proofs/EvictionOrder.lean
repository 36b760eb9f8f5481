import ReadThrough.Proofs.Visit

/-! Both queues are sorted by the latest observations of their keys: the main queue from the
newest to the oldest, the history from the oldest to the newest. So what overflows at the old
end of a queue is what was not observed for longest, and no more is dropped than has to be. -/

namespace ReadThrough.Cache

variable {α : Type}

/-- The place in a record, counted from one, of the latest call that observed a key; zero if
there is none. -/
def stamp (key : String) : List (Call α) → Nat
  | [] => 0
  | call :: earlier => if call.observes key then earlier.length + 1 else stamp key earlier

/-- Keys that were all observed, each one later than those before it. -/
structure Aging (calls : List (Call α)) (keys : List String) : Prop where
  observed : ∀ key ∈ keys, 0 < stamp key calls
  ordered : keys.Pairwise fun older newer => stamp older calls < stamp newer calls

variable {calls : List (Call α)} {call : Call α} {keys fewer : List String} {key : String}
  {entry : String × α}

theorem stamp_le_length (key : String) (calls : List (Call α)) : stamp key calls ≤ calls.length := by
  induction calls with
  | nil => exact Nat.le_refl 0
  | cons call earlier ih =>
    simp only [stamp, List.length_cons]
    split <;> omega

theorem stamp_of_observes (observed : call.observes key = true) :
    stamp key (call :: calls) = calls.length + 1 := by
  rw [stamp, if_pos observed]

theorem stamp_of_not_observes (unobserved : call.observes key = false) :
    stamp key (call :: calls) = stamp key calls := by
  simp [stamp, unobserved]

namespace Aging

theorem nil : Aging calls [] := ⟨by simp, List.Pairwise.nil⟩

theorem sublist (aging : Aging calls keys) (sublist : fewer.Sublist keys) : Aging calls fewer :=
  ⟨fun key member => aging.observed key (sublist.subset member), aging.ordered.sublist sublist⟩

theorem keep (aging : Aging calls keys) (unobserved : ∀ key ∈ keys, call.observes key = false) :
    Aging (call :: calls) keys := by
  refine ⟨?_, aging.ordered.imp_of_mem ?_⟩
  · intro key member
    rw [stamp_of_not_observes (unobserved key member)]
    exact aging.observed key member
  · intro older newer first second before
    rw [stamp_of_not_observes (unobserved older first), stamp_of_not_observes (unobserved newer second)]
    exact before

/-- The key that a call observes becomes the newest one. -/
theorem refresh (aging : Aging calls keys) (observed : call.observed? = some entry)
    (absent : entry.1 ∉ keys) : Aging (call :: calls) (keys ++ [entry.1]) := by
  have others : ∀ key ∈ keys, call.observes key = false := by
    intro key member
    have different : key ≠ entry.1 := fun same => absent (same ▸ member)
    simpa using mt (Call.observes_iff observed).mp different
  have newest : stamp entry.1 (call :: calls) = calls.length + 1 :=
    stamp_of_observes ((Call.observes_iff observed).mpr rfl)
  refine ⟨?_, List.pairwise_append.mpr ⟨(aging.keep others).ordered, List.pairwise_singleton .., ?_⟩⟩
  · intro key member
    rcases List.mem_append.mp member with old | new
    · exact (aging.keep others).observed key old
    · obtain rfl := List.mem_singleton.mp new
      omega
  · intro older old newer new
    obtain rfl := List.mem_singleton.mp new
    rw [newest, stamp_of_not_observes (others older old)]
    exact Nat.lt_succ_of_le (stamp_le_length older calls)

end Aging

/-- A queue, oldest entry first, that took up an entry: the entry belongs to the other queue
and this one is as it was, or the entry is now the newest one here. -/
def TookUp (entry : String × α) (before queue : List (String × α)) : Prop :=
  queue = before ∧ entry.1 ∉ before.map (·.1) ∨ queue = without entry.1 before ++ [entry]

theorem Aging.tookUp {before queue : List (String × α)} (aging : Aging calls (before.map (·.1)))
    (observed : call.observed? = some entry) (tookUp : TookUp entry before queue) :
    Aging (call :: calls) (queue.map (·.1)) := by
  rcases tookUp with ⟨rfl, absent⟩ | rfl
  · refine aging.keep fun key member => ?_
    have different : key ≠ entry.1 := fun same => absent (same ▸ member)
    simpa using mt (Call.observes_iff observed).mp different
  · rw [List.map_append]
    refine (aging.sublist (List.filter_sublist.map _)).refresh observed fun member => ?_
    obtain ⟨other, kept, same⟩ := List.mem_map.mp member
    exact (mem_without.mp kept).2 same

variable [ByteSized α]

/-- What a queue within a budget loses by overflow, oldest entry first. Every entry goes while
it and what is behind it exceed the budget, and it is the one that was not observed for longest. -/
structure Overflow (budget : Nat) (calls : List (Call α))
    (queue dropped kept : List (String × α)) : Prop where
  whole : dropped ++ kept = queue
  within : budget ≠ 0 → weight kept ≤ budget
  needed : ∀ earlier entry later, dropped = earlier ++ entry :: later →
    budget ≠ 0 ∧ budget < weight (entry :: later ++ kept)
  oldest : ∀ earlier entry later, dropped = earlier ++ entry :: later →
    ∀ other ∈ later ++ kept, stamp entry.1 calls < stamp other.1 calls

theorem Overflow.of_trim {budget : Nat} {queue dropped kept : List (String × α)}
    (aging : Aging calls (queue.map (·.1))) (trimmed : trim charge budget queue = (dropped, kept)) :
    Overflow budget calls queue dropped kept := by
  have whole := trim_append charge budget queue
  have within := trim_within charge budget queue
  rw [trimmed] at whole within
  refine ⟨whole, exceeds_eq_false.mp within, ?_, ?_⟩
  · intro earlier entry later split
    have exceeded : exceeds budget (weight (entry :: later ++ (trim charge budget queue).2)) = true :=
      exceeds_of_trim (by rw [trimmed]; exact split)
    rw [trimmed] at exceeded
    simpa [exceeds, weight] using exceeded
  · intro earlier entry later split other member
    have ordered := aging.ordered
    rw [← whole, split, List.append_assoc, List.cons_append, List.map_append, List.map_cons] at ordered
    exact (List.pairwise_cons.mp (List.pairwise_append.mp ordered).2.1).1 other.1
      (List.mem_map_of_mem member)

namespace Reference

variable {reference : Reference α} {value : α}

/-- Everything that is stored is sorted by age. -/
structure Ordered (calls : List (Call α)) (reference : Reference α) : Prop where
  main : Aging calls (reference.main.reverse.map (·.1))
  history : Aging calls ((reference.history.map Waiting.entry).map (·.1))

/-- A visit takes the entry up in the history, the main queue or both, one after the other, and
drops from each what does not fit. -/
theorem visit_trims (valid : reference.Valid) (key : String) (value : α) :
    ∃ arrived settled standing,
      TookUp (key, value) (reference.history.map Waiting.entry) arrived ∧
      trim charge reference.historyMaxBytes arrived = ((reference.visit key value).1, settled) ∧
      ((reference.visit key value).2.2.history.map Waiting.entry = settled ∨
        (reference.visit key value).2.2.history.map Waiting.entry = without key settled) ∧
      TookUp (key, value) reference.main.reverse standing ∧
      trim charge reference.maxBytes standing =
        ((reference.visit key value).2.1, (reference.visit key value).2.2.main.reverse) := by
  have unmoved : trim charge reference.maxBytes reference.main.reverse = ([], reference.main.reverse) := by
    refine trim_eq_self ?_
    rw [← weight, weight_perm (List.reverse_perm _)]
    exact valid.budget
  have outside : key ∉ reference.keys → TookUp (key, value) reference.main.reverse reference.main.reverse :=
    fun absent => .inl ⟨rfl, by simpa [keys] using absent⟩
  generalize outcome : reference.visit key value = visit
  have visited := outcome ▸ visited reference key value
  cases visited with
  | moved member =>
    have history : trim charge reference.historyMaxBytes (reference.history.map Waiting.entry) =
        ([], reference.history.map Waiting.entry) := trim_eq_self valid.historyBudget
    refine ⟨_, _, _, .inl ⟨rfl, ?_⟩, history, .inl ?_, .inr rfl, enterMain_trims reference key value⟩
    · intro waits
      have distinct := distinct_keys valid.distinct
      rw [List.map_map] at waits
      exact (List.nodup_append.mp distinct).2.2 key member key waits rfl
    · exact congrArg (List.map Waiting.entry) (filter_history valid.distinct member)
  | refused absent oversized =>
    have trimmed : trim charge reference.historyMaxBytes ((reference.arrived key value).map Waiting.entry) =
        ((reference.arrived key value).map Waiting.entry, []) := by
      rw [arrived_entries]
      exact trim_concat_of_exceeds oversized
    exact ⟨_, _, _, .inr (arrived_entries reference key value), trimmed, .inl rfl, outside absent, unmoved⟩
  | waits absent _ _ trimmed =>
    exact ⟨_, _, _, .inr (arrived_entries reference key value), trim_entries trimmed, .inl rfl,
      outside absent, unmoved⟩
  | @promoted dropped rest absent _ _ trimmed =>
    refine ⟨_, _, _, .inr (arrived_entries reference key value), trim_entries trimmed, .inr ?_,
      .inr rfl, enterMain_trims _ key value⟩
    rw [List.map_append, without_append]
    simp [enterMain, settleMain, history_without, without, arrival, Waiting.entry]

theorem call_ordered {operation : Operation α} (ordered : Ordered calls reference)
    (valid : reference.Valid) :
    Ordered ((reference.call operation).1 :: calls) (reference.call operation).2 := by
  cases observed : (reference.call operation).1.observed? with
  | none =>
    obtain ⟨main, history⟩ := call_of_no_entry observed
    have unobserved : ∀ key, (reference.call operation).1.observes key = false :=
      Call.observes_of_none observed
    have stays : (reference.call operation).2.main.Sublist reference.main :=
      main ▸ List.sublist_append_left ..
    exact ⟨(ordered.main.sublist (stays.reverse.map _)).keep fun key _ => unobserved key,
      (ordered.history.sublist ((history.sublist.map _).map _)).keep fun key _ => unobserved key⟩
  | some entry =>
    obtain ⟨key, value⟩ := entry
    have visit := call_of_entry valid observed
    obtain ⟨arrived, settled, standing, waits, history, left, stands, main⟩ :=
      visit_trims valid key value
    rw [← visit] at history left main
    have older := ordered.history.tookUp observed waits
    have whole := trim_append charge reference.historyMaxBytes arrived
    have newer := ordered.main.tookUp observed stands
    have all := trim_append charge reference.maxBytes standing
    rw [history] at whole
    rw [main] at all
    have kept : settled.Sublist arrived := whole ▸ List.sublist_append_right ..
    have stays : (reference.call operation).2.main.reverse.Sublist standing :=
      all ▸ List.sublist_append_right ..
    refine ⟨newer.sublist (stays.map _), ?_⟩
    rcases left with same | less
    · exact same ▸ older.sublist (kept.map _)
    · exact less ▸ older.sublist ((List.filter_sublist.trans kept).map _)

end Reference

/-- After any calls both queues are sorted by the latest observation of each key, and so they
are within every later call that observes an entry: what overflows is what was not observed
for longest, the history before the main queue, and no more than has to. -/
theorem eviction_order (maxBytes historyMaxBytes threshold : Nat) (operations : List (Operation α)) :
    ∃ calls cache, (new maxBytes historyMaxBytes threshold).record operations = .ok (calls, cache) ∧
      calls.map (·.operation) = operations.reverse ∧
      (new maxBytes historyMaxBytes threshold).run operations = .ok cache ∧
      (∀ key ∈ cache.keys ++ cache.historyKeys, 0 < stamp key calls) ∧
      cache.keys.Pairwise (fun newer older => stamp older calls < stamp newer calls) ∧
      cache.historyKeys.Pairwise (fun older newer => stamp older calls < stamp newer calls) ∧
      ∀ operation, ∃ call after, cache.call operation = .ok (call, after) ∧
        cache.apply operation = .ok (call.answer, call.fromHistory ++ call.fromMain, after) ∧
        (∀ key, operation = .get key → call.observed? = none → call.dropped = []) ∧
        ∀ entry, call.observed? = some entry → ∃ arrived settled standing,
          TookUp entry (cache.historyEntries.map Waiting.entry) arrived ∧
          Overflow historyMaxBytes (call :: calls) arrived call.fromHistory settled ∧
          (after.historyEntries.map Waiting.entry = settled ∨
            after.historyEntries.map Waiting.entry = without entry.1 settled) ∧
          TookUp entry cache.mainEntries.reverse standing ∧
          Overflow maxBytes (call :: calls) standing call.fromMain after.mainEntries.reverse := by
  obtain ⟨calls, cache, reference, written, made, done, represents, valid, limits, ordered⟩ :=
    recorded (fun _ _ _ valid ordered => Reference.call_ordered ordered valid)
      maxBytes historyMaxBytes threshold operations ⟨.nil, .nil⟩
  have shows := represents.shows valid.distinct
  obtain ⟨rfl, rfl, -⟩ : reference.maxBytes = maxBytes ∧ reference.historyMaxBytes = historyMaxBytes ∧
      reference.threshold = max threshold 1 := by
    rw [limits]
    exact ⟨rfl, rfl, rfl⟩
  refine ⟨calls, cache, written, made, done, ?_, ?_, ?_, ?_⟩
  · intro key member
    rw [shows.keys, shows.historyKeys] at member
    rcases List.mem_append.mp member with member | member
    · exact ordered.main.observed key (by simpa [Reference.keys] using member)
    · exact ordered.history.observed key (by simpa [Reference.historyKeys, Waiting.entry] using member)
  · have sorted := ordered.main.ordered
    rw [List.map_reverse, List.pairwise_reverse] at sorted
    exact shows.keys ▸ sorted
  · rw [shows.historyKeys]
    simpa [Reference.historyKeys, Function.comp_def, Waiting.entry] using ordered.history.ordered
  · intro operation
    obtain ⟨after, called, follows⟩ := represents.call valid operation
    have following := follows.shows (Reference.call_valid valid operation).distinct
    refine ⟨_, after, called, by rw [apply_eq_call, called]; rfl, ?_, ?_⟩
    · rintro key rfl unobserved
      have missing : (reference.get key).1 = none := Option.map_eq_none_iff.mp unobserved
      have dropped : (reference.call (.get key)).1.dropped = (reference.get key).2.1 := rfl
      rw [dropped, Reference.get_of_missing missing]
    · intro entry observed
      have visit := Reference.call_of_entry valid observed
      obtain ⟨arrived, settled, standing, waits, history, left, stands, main⟩ :=
        Reference.visit_trims valid entry.1 entry.2
      rw [← visit] at history left main
      rw [shows.historyEntries, shows.mainEntries, following.historyEntries, following.mainEntries]
      exact ⟨arrived, settled, standing, waits,
        .of_trim (ordered.history.tookUp observed waits) history, left, stands,
        .of_trim (ordered.main.tookUp observed stands) main⟩

end ReadThrough.Cache
