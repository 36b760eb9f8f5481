import ReadThrough.Proofs.Admission

/-! Calls for keys outside the main queue, too few for any key to reach the threshold. Such a scan
passes through the history, where its entries drive out each other and whatever else waits there,
and leaves the main queue as it was. A key that is driven out and comes again starts over, so its
counter never exceeds what it was at the start and the calls for the key since then. -/

namespace ReadThrough.Cache

variable {α : Type}

/-- The key that an addition or a lookup is about. -/
def Operation.key? : Operation α → Option String
  | .add key _ => some key
  | .get key => some key
  | .removeOldest => none
  | .removeHistoryOldest => none

/-- How many calls are about a key. -/
def visits (key : String) (operations : List (Operation α)) : Nat :=
  operations.countP (·.key? == some key)

/-- Additions and lookups of keys that are not in the main queue, each of them visited so seldom
that it stays below the threshold even on top of the observations it starts with. -/
def Scan (mainKeys : List String) (counter : String → Nat) (threshold : Nat)
    (operations : List (Operation α)) : Prop :=
  ∀ operation ∈ operations, ∃ key ∈ operation.key?,
    key ∉ mainKeys ∧ counter key + visits key operations < threshold

instance (mainKeys : List String) (counter : String → Nat) (threshold : Nat)
    (operations : List (Operation α)) : Decidable (Scan mainKeys counter threshold operations) :=
  inferInstanceAs (Decidable (∀ operation ∈ operations, ∃ key ∈ operation.key?,
    key ∉ mainKeys ∧ counter key + visits key operations < threshold))

variable {key : String} {value : α} {operation : Operation α} {operations : List (Operation α)}

theorem visits_cons : visits key (operation :: operations) =
    visits key operations + if operation.key? == some key then 1 else 0 :=
  List.countP_cons

theorem visits_reverse : visits key operations.reverse = visits key operations :=
  (List.reverse_perm operations).countP_eq _

theorem Scan.reverse {mainKeys : List String} {counter : String → Nat} {threshold : Nat}
    (scan : Scan mainKeys counter threshold operations) :
    Scan mainKeys counter threshold operations.reverse := by
  intro operation member
  obtain ⟨key, about, absent, few⟩ := scan operation (List.mem_reverse.mp member)
  exact ⟨key, about, absent, by rwa [visits_reverse]⟩

theorem Scan.of_cons {mainKeys : List String} {counter : String → Nat} {threshold : Nat}
    (scan : Scan mainKeys counter threshold (operation :: operations)) :
    Scan mainKeys counter threshold operations := by
  intro other member
  obtain ⟨key, about, absent, few⟩ := scan other (List.mem_cons_of_mem _ member)
  rw [visits_cons] at few
  exact ⟨key, about, absent, by omega⟩

namespace Reference

variable {reference : Reference α}

theorem counter_of_mem {waiting : Waiting α} (distinct : reference.Distinct)
    (member : waiting ∈ reference.history) : reference.counter waiting.key = waiting.hits := by
  rw [counter, waiting?_of_mem distinct member]
  rfl

theorem counter_le {bound : Nat}
    (bounded : ∀ waiting ∈ reference.history, waiting.key = key → waiting.hits ≤ bound) :
    reference.counter key ≤ bound := by
  unfold counter
  cases found : reference.waiting? key with
  | none => exact Nat.zero_le bound
  | some waiting =>
    exact bounded waiting (mem_history_of_waiting? found) (key_of_waiting? found)

/-- What recorded calls have left as it was at the start. -/
structure Undisturbed (start : Reference α) (calls : List (Call α)) (reference : Reference α) :
    Prop where
  main : reference.main = start.main
  dropped : ∀ call ∈ calls, call.fromMain = []
  counter : ∀ key, reference.counter key ≤ start.counter key + visits key (calls.map (·.operation))

/-- As long as the recorded calls are a scan they leave everything undisturbed. A part of a scan is
one itself, so this can be carried along the record from its first call on. -/
structure Withstands (start : Reference α) (calls : List (Call α)) (reference : Reference α) :
    Prop where
  limits : reference.toLimits = start.toLimits
  undisturbed : Scan start.keys start.counter start.threshold (calls.map (·.operation)) →
    Undisturbed start calls reference

theorem Withstands.initial (start : Reference α) : Withstands start [] start :=
  ⟨rfl, fun _ => ⟨rfl, nofun, fun _ => Nat.le_add_right _ _⟩⟩

variable [ByteSized α]

/-- One more observation, or fewer for a key that leaves. -/
theorem visit_counter_le (distinct : reference.Distinct) (key : String) (value : α)
    (other : String) :
    (reference.visit key value).2.2.counter other ≤
      reference.counter other + if key = other then 1 else 0 := by
  apply counter_le
  rintro waiting member rfl
  rcases mem_visit_history member with ⟨kept, _⟩ | rfl
  · rw [counter_of_mem distinct kept]
    exact Nat.le_add_right _ _
  · change reference.observations key ≤ reference.counter key + if key = key then 1 else 0
    rw [if_pos rfl, observations_eq]

/-- Below the threshold a visit does not reach the main queue. -/
theorem visit_of_early (value : α) (absent : key ∉ reference.keys)
    (early : reference.observations key < reference.threshold) :
    (reference.visit key value).2.1 = [] ∧
      (reference.visit key value).2.2.main = reference.main := by
  have visited := visited reference key value
  generalize reference.visit key value = outcome at visited
  cases visited with
  | moved present => exact absurd present absent
  | refused => exact ⟨rfl, rfl⟩
  | waits => exact ⟨rfl, rfl⟩
  | promoted _ _ ready => exact absurd early (Nat.not_lt.mpr ready)

theorem call_of_early (valid : reference.Valid) (about : operation.key? = some key)
    (absent : key ∉ reference.keys) (early : reference.observations key < reference.threshold) :
    (reference.call operation).1.fromMain = [] ∧
      (reference.call operation).2.main = reference.main ∧
      ∀ other, (reference.call operation).2.counter other ≤
        reference.counter other + if key = other then 1 else 0 := by
  cases operation with
  | add added value =>
    obtain rfl := Option.some.inj about
    have ⟨dropped, main⟩ := visit_of_early value absent early
    exact ⟨dropped, main, visit_counter_le valid.distinct added value⟩
  | get sought =>
    obtain rfl := Option.some.inj about
    cases found : (reference.get sought).1 with
    | none =>
      simp only [call, get_of_missing found, true_and]
      exact fun other => Nat.le_add_right _ _
    | some value =>
      have visit := visit_of_get valid found
      have ⟨dropped, main⟩ := visit_of_early value absent early
      have counters := visit_counter_le valid.distinct sought value
      rw [visit] at dropped main counters
      exact ⟨dropped, main, counters⟩
  | removeOldest => cases about
  | removeHistoryOldest => cases about

theorem Undisturbed.call {start : Reference α} {calls : List (Call α)}
    (undisturbed : Undisturbed start calls reference) (valid : reference.Valid)
    (limits : reference.toLimits = start.toLimits)
    (scan : Scan start.keys start.counter start.threshold
      (operation :: calls.map (·.operation))) :
    Undisturbed start ((reference.call operation).1 :: calls) (reference.call operation).2 := by
  obtain ⟨key, about : operation.key? = some key, absent, few⟩ := scan operation List.mem_cons_self
  have early : reference.observations key < reference.threshold := by
    have counted := undisturbed.counter key
    rw [visits_cons, about, beq_self_eq_true, if_pos rfl] at few
    rw [observations_eq, limits]
    omega
  have outside : key ∉ reference.keys := by rwa [keys, undisturbed.main]
  obtain ⟨dropped, main, counter⟩ := call_of_early valid about outside early
  refine ⟨main.trans undisturbed.main, ?_, fun other => ?_⟩
  · intro call member
    rcases List.mem_cons.mp member with rfl | earlier
    · exact dropped
    · exact undisturbed.dropped call earlier
  · have before := undisturbed.counter other
    have after := counter other
    simp only [List.map_cons, call_operation, visits_cons, about, Option.some_beq_some, beq_iff_eq]
    rw [← Nat.add_assoc]
    exact Nat.le_trans after (Nat.add_le_add_right before _)

theorem Withstands.call {start : Reference α} {calls : List (Call α)}
    (withstands : Withstands start calls reference) (valid : reference.Valid)
    (operation : Operation α) :
    Withstands start ((reference.call operation).1 :: calls) (reference.call operation).2 := by
  refine ⟨(call_limits reference operation).trans withstands.limits, fun scan => ?_⟩
  rw [List.map_cons, call_operation] at scan
  exact (withstands.undisturbed scan.of_cons).call valid withstands.limits scan

end Reference

variable [ByteSized α]

/-- After any calls, a scan leaves the main queue with its keys, their order, its values and its
bytes, and whatever it drops it drops from the history. -/
theorem scan_resistance (maxBytes historyMaxBytes threshold : Nat)
    (operations : List (Operation α)) :
    ∃ cache, (new maxBytes historyMaxBytes threshold).run operations = .ok cache ∧
      ∀ scan, Scan cache.keys (fun key => (cache.historyHits key).getD 0) threshold scan →
        ∃ calls after, cache.record scan = .ok (calls, after) ∧
          calls.map (·.operation) = scan.reverse ∧ cache.run scan = .ok after ∧
          after.mainEntries = cache.mainEntries ∧ after.keys = cache.keys ∧
          after.bytes = cache.bytes ∧ ∀ call ∈ calls, call.fromMain = [] := by
  obtain ⟨cache, start, done, represents, valid, limits⟩ :=
    reachable maxBytes historyMaxBytes threshold operations
  have shows := represents.shows valid.distinct
  refine ⟨cache, done, fun scan scans => ?_⟩
  have ready : Scan start.keys start.counter start.threshold scan.reverse := by
    have least : threshold ≤ start.threshold := by
      rw [limits]
      exact Nat.le_max_left ..
    simp only [shows.keys, shows.historyHits] at scans
    intro operation member
    obtain ⟨key, about, absent, few⟩ := scans.reverse operation member
    exact ⟨key, about, absent, Nat.lt_of_lt_of_le few least⟩
  obtain ⟨calls, after, settled, recorded, made, representing, settledValid, _, withstands⟩ :=
    represents.extended (fun _ _ operation valid kept => kept.call valid operation) scan valid
      (Reference.Withstands.initial start)
  rw [List.map_nil, List.append_nil] at made
  have undisturbed := withstands.undisturbed (made ▸ ready)
  have showing := representing.shows settledValid.distinct
  refine ⟨calls, after, recorded, made, ?_, ?_, ?_, ?_, undisturbed.dropped⟩
  · rw [run_eq_record, record, recorded]
    rfl
  · rw [showing.mainEntries, shows.mainEntries, undisturbed.main]
  · rw [showing.keys, shows.keys, Reference.keys, undisturbed.main, Reference.keys]
  · rw [showing.bytes, shows.bytes, undisturbed.main]

/-- Three keys scanned twice each through a history of four bytes, where one of them is too large
even for an empty history. -/
theorem scan_resistance_flood :
    let operations : List (Operation String) :=
      [.add "m" "1", .get "m", .get "m", .add "w" "1", .get "w"]
    let scan : List (Operation String) :=
      [.add "a" "123", .add "b" "123", .get "b", .add "c" "1234567", .get "c", .add "a" "1"]
    ∃ cache, (new 2 4 3).run operations = .ok cache ∧
      Scan cache.keys (fun key => (cache.historyHits key).getD 0) 3 scan ∧
      ∃ calls after, cache.record scan = .ok (calls, after) ∧
        after.mainEntries = [("m", "1")] ∧ ∀ call ∈ calls, call.fromMain = [] := by
  intro operations scan
  obtain ⟨cache, done, resists⟩ := scan_resistance 2 4 3 operations
  obtain ⟨shown, traced, shows⟩ := follows_rules 2 4 3 operations
  obtain rfl : shown = cache := by
    rw [run_eq_trace, traced] at done
    exact Except.ok.inj done
  have scans : Scan shown.keys (fun key => (shown.historyHits key).getD 0) 3 scan := by
    simp only [shows.keys, shows.historyHits]
    decide
  obtain ⟨calls, after, recorded, _, _, main, _, _, dropped⟩ := resists scan scans
  exact ⟨shown, done, scans, calls, after, recorded, main.trans (shows.mainEntries.trans (by decide)),
    dropped⟩

end ReadThrough.Cache
