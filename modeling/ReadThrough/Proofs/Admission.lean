import ReadThrough.Proofs.Visit

/-! A key is admitted to the main queue by its observations in one unbroken stay in the history.
While it waits its counter is their number; the observation that reaches the threshold takes it
out of the history, into the main queue unless its entry is too large for the history alone. -/

namespace ReadThrough.Cache

variable {α : Type}

/-- The observations of a key in the stay that the record ends with: in the latest calls after
all of which it waited. -/
def stay (key : String) (calls : List (Call α)) : Nat :=
  (calls.takeWhile fun call => key ∈ call.waiting).countP (·.observes key)

variable {calls : List (Call α)} {call : Call α} {key : String} {value : α}

theorem stay_of_waits (waits : key ∈ call.waiting) :
    stay key (call :: calls) = stay key calls + if call.observes key then 1 else 0 := by
  simp [stay, waits, List.countP_cons]

theorem stay_of_gone (gone : key ∉ call.waiting) : stay key (call :: calls) = 0 := by
  simp [stay, gone]

namespace Reference

variable {reference : Reference α}

/-- The record knows how often every waiting key was observed since it began to wait. -/
structure Remembers (calls : List (Call α)) (reference : Reference α) : Prop where
  waits : ∀ waiting ∈ reference.history, waiting.hits = stay waiting.key calls
  gone : ∀ key, key ∉ reference.historyKeys → stay key calls = 0

theorem Remembers.observations (remembers : Remembers calls reference) (key : String) :
    reference.observations key = stay key calls + 1 := by
  unfold Reference.observations
  split
  next waiting waits =>
    rw [remembers.waits waiting (mem_history_of_waiting? waits), key_of_waiting? waits]
  next missing =>
    rw [remembers.gone key (waiting?_eq_none.mp missing)]

variable [ByteSized α]

/-- After a visit others wait as before, and the visited key with one more observation. -/
theorem mem_visit_history {waiting : Waiting α}
    (member : waiting ∈ (reference.visit key value).2.2.history) :
    waiting ∈ reference.history ∧ waiting.key ≠ key ∨ waiting = reference.arrival key value := by
  have visited := visited reference key value
  generalize reference.visit key value = outcome at visited member
  have arrives : ∀ waiting ∈ reference.arrived key value,
      waiting ∈ reference.history ∧ waiting.key ≠ key ∨ waiting = reference.arrival key value := by
    intro waiting member
    simpa [arrived] using member
  cases visited with
  | moved present =>
    obtain ⟨kept, different⟩ := List.mem_filter.mp member
    exact .inl ⟨kept, by simpa using different⟩
  | refused absent oversized => cases member
  | waits absent fits early trimmed => exact arrives waiting (mem_of_trimmed trimmed member)
  | promoted absent fits ready trimmed =>
    obtain ⟨kept, _⟩ := List.mem_filter.mp member
    exact arrives waiting (mem_of_trimmed trimmed (List.mem_append_left _ kept))

theorem call_remembers {operation : Operation α} (remembers : Remembers calls reference)
    (valid : reference.Valid) :
    Remembers ((reference.call operation).1 :: calls) (reference.call operation).2 := by
  have waiting := call_waiting reference operation
  refine ⟨?_, fun key absent => stay_of_gone (waiting ▸ absent)⟩
  intro other member
  rw [stay_of_waits (waiting ▸ List.mem_map_of_mem member)]
  cases observed : (reference.call operation).1.observed? with
  | none =>
    rw [Call.observes_of_none observed]
    exact remembers.waits other ((call_of_no_entry observed).2.subset member)
  | some entry =>
    obtain ⟨key, value⟩ := entry
    rw [congrArg (·.2.2) (call_of_entry valid observed)] at member
    rcases mem_visit_history member with ⟨kept, different⟩ | rfl
    · have unobserved : (reference.call operation).1.observes other.key = false := by
        simpa using mt (Call.observes_iff observed).mp different
      rw [unobserved]
      exact remembers.waits other kept
    · have observes : (reference.call operation).1.observes (reference.arrival key value).key = true :=
        (Call.observes_iff observed).mpr rfl
      rw [observes]
      exact remembers.observations key

/-- A key enters the main queue before all that stay there, until the tail overflows. -/
theorem enterMain_whole (reference : Reference α) (key : String) (value : α) :
    (reference.enterMain key value).2.main ++ (reference.enterMain key value).1.reverse =
      (key, value) :: without key reference.main := by
  have whole := trim_append charge reference.maxBytes (without key reference.main.reverse ++ [(key, value)])
  rw [enterMain_trims] at whole
  simpa [without] using congrArg List.reverse whole

theorem observations_le_threshold (valid : reference.Valid) (positive : 1 ≤ reference.threshold)
    (key : String) : reference.observations key ≤ reference.threshold := by
  unfold observations
  split
  next waiting waits => exact (valid.counted waiting (mem_history_of_waiting? waits)).2
  next => exact positive

/-- Only at the threshold does a visit bring a key into the main queue. -/
theorem visit_enters {other : String} (absent : other ∉ reference.keys)
    (enters : other ∈ ((reference.visit key value).2.2.main ++
      (reference.visit key value).2.1.reverse).map (·.1)) :
    other = key ∧ reference.threshold ≤ reference.observations key := by
  have visited := visited reference key value
  generalize reference.visit key value = outcome at visited enters
  have unentered : ∀ (reference : Reference α), other ∉ reference.keys →
      other ∈ ((reference.enterMain key value).2.main ++
        (reference.enterMain key value).1.reverse).map (·.1) → other = key := by
    intro reference absent enters
    rw [enterMain_whole] at enters
    rcases List.mem_cons.mp enters with same | old
    · exact same
    · exact absurd ((List.filter_sublist.map _).subset old) absent
  cases visited with
  | moved present => exact absurd (unentered reference absent enters ▸ present) absent
  | refused => exact absurd (by rwa [List.reverse_nil, List.append_nil] at enters) absent
  | waits => exact absurd (by rwa [List.reverse_nil, List.append_nil] at enters) absent
  | promoted missing fits ready trimmed => exact ⟨unentered _ absent enters, ready⟩

/-- A call brings a key into the main queue by observing it at the threshold. -/
theorem call_enters {operation : Operation α} {other : String} (valid : reference.Valid)
    (absent : other ∉ reference.keys)
    (enters : other ∈ ((reference.call operation).2.main ++
      (reference.call operation).1.fromMain.reverse).map (·.1)) :
    (reference.call operation).1.observes other = true ∧
      reference.threshold ≤ reference.observations other := by
  cases observed : (reference.call operation).1.observed? with
  | none =>
    rw [(call_of_no_entry observed).1] at enters
    exact absurd enters absent
  | some entry =>
    have visit := call_of_entry valid observed
    have main : (reference.call operation).2 = (reference.visit entry.1 entry.2).2.2 :=
      congrArg (·.2.2) visit
    have dropped : (reference.call operation).1.fromMain = (reference.visit entry.1 entry.2).2.1 :=
      congrArg (·.2.1) visit
    rw [main, dropped] at enters
    obtain ⟨rfl, ready⟩ := visit_enters absent enters
    exact ⟨(Call.observes_iff observed).mpr rfl, ready⟩

/-- A visit at the threshold ends a stay. -/
theorem visit_at_threshold (value : α) (absent : key ∉ reference.keys)
    (reached : reference.threshold ≤ reference.observations key) :
    key ∉ (reference.visit key value).2.2.historyKeys ∧
      (exceeds reference.historyMaxBytes (charge (key, value)) = true →
        (key, value) ∈ (reference.visit key value).1 ∧ (reference.visit key value).2.1 = [] ∧
          (reference.visit key value).2.2.main = reference.main) ∧
      (exceeds reference.historyMaxBytes (charge (key, value)) = false →
        (reference.visit key value).2.2.main ++ (reference.visit key value).2.1.reverse =
          (key, value) :: reference.main) := by
  have visited := visited reference key value
  generalize reference.visit key value = outcome at visited
  cases visited with
  | moved present => exact absurd present absent
  | refused missing oversized =>
    refine ⟨List.not_mem_nil, ?_, ?_⟩
    · intro _
      refine ⟨?_, rfl, rfl⟩
      rw [arrived_entries]
      exact List.mem_concat_self
    · intro fits
      rw [oversized] at fits
      cases fits
  | waits missing fits early trimmed => exact absurd reached (Nat.not_le_of_lt early)
  | promoted missing fits ready trimmed =>
    refine ⟨?_, ?_, fun _ => ?_⟩
    · intro waits
      obtain ⟨waiting, member, same⟩ := List.mem_map.mp waits
      have different := (List.mem_filter.mp member).2
      simp [same] at different
    · intro oversized
      rw [oversized] at fits
      cases fits
    · rw [enterMain_whole, without_eq_self absent]

/-- What waits has room in the history, so only an addition can be too large for it. -/
theorem fits_of_get (valid : reference.Valid) (absent : key ∉ reference.keys)
    (found : (reference.get key).1 = some value) :
    exceeds reference.historyMaxBytes (charge (key, value)) = false := by
  obtain ⟨waiting, waits, rfl⟩ := waiting?_of_get (lookup_eq_none.mpr absent) found
  have stored : (key, waiting.value) ∈ reference.history.map Waiting.entry := by
    have member : waiting.entry ∈ reference.history.map Waiting.entry :=
      List.mem_map_of_mem (mem_history_of_waiting? waits)
    rwa [Waiting.entry, key_of_waiting? waits] at member
  have lighter := weight_sublist (List.singleton_sublist.mpr stored)
  exact exceeds_mono valid.historyBudget lighter

end Reference

variable [ByteSized α]

/-- After any calls the counter of a waiting key is the number of its observations in this stay,
and the call that makes it the threshold ends the stay: no other brings the key into the main
queue, and that one does unless it adds an entry too large for the history by itself. -/
theorem admission (maxBytes historyMaxBytes threshold : Nat) (operations : List (Operation α)) :
    ∃ calls cache, (new maxBytes historyMaxBytes threshold).record operations = .ok (calls, cache) ∧
      calls.map (·.operation) = operations.reverse ∧
      (new maxBytes historyMaxBytes threshold).run operations = .ok cache ∧
      (∀ key ∈ cache.historyKeys, cache.historyHits key = some (stay key calls)) ∧
      ∀ operation, ∃ call after, cache.call operation = .ok (call, after) ∧
        cache.apply operation = .ok (call.answer, call.fromHistory ++ call.fromMain, after) ∧
        ∀ key ∉ cache.keys,
          (key ∈ (after.mainEntries ++ call.fromMain.reverse).map (·.1) →
            call.observes key = true ∧ stay key calls + 1 = max threshold 1) ∧
          ∀ value, call.observed? = some (key, value) → stay key calls + 1 = max threshold 1 →
            key ∉ after.historyKeys ∧
            (operation = .add key value → exceeds historyMaxBytes (charge (key, value)) = true →
              (key, value) ∈ call.fromHistory ∧ call.fromMain = [] ∧
                after.mainEntries = cache.mainEntries) ∧
            (¬(operation = .add key value ∧ exceeds historyMaxBytes (charge (key, value)) = true) →
              after.mainEntries ++ call.fromMain.reverse = (key, value) :: cache.mainEntries) := by
  obtain ⟨calls, cache, reference, written, made, done, represents, valid, limits, remembers⟩ :=
    recorded (fun _ _ _ valid remembers => Reference.call_remembers remembers valid)
      maxBytes historyMaxBytes threshold operations ⟨by simp [Reference.new], by simp [stay]⟩
  have shows := represents.shows valid.distinct
  obtain ⟨-, rfl, least⟩ : reference.maxBytes = maxBytes ∧
      reference.historyMaxBytes = historyMaxBytes ∧ reference.threshold = max threshold 1 := by
    rw [limits]
    exact ⟨rfl, rfl, rfl⟩
  refine ⟨calls, cache, written, made, done, ?_, ?_⟩
  · intro key member
    rw [shows.historyKeys] at member
    obtain ⟨waiting, waits⟩ := Option.isSome_iff_exists.mp (Reference.waiting?_isSome.mpr member)
    rw [shows.historyHits, waits, Option.map_some,
      remembers.waits waiting (Reference.mem_history_of_waiting? waits),
      Reference.key_of_waiting? waits]
  · intro operation
    obtain ⟨after, called, follows⟩ := represents.call valid operation
    have following := follows.shows (Reference.call_valid valid operation).distinct
    refine ⟨_, after, called, by rw [apply_eq_call, called]; rfl, ?_⟩
    intro key absent
    rw [shows.keys] at absent
    rw [following.mainEntries, following.historyKeys, shows.mainEntries, ← least,
      ← remembers.observations]
    refine ⟨?_, ?_⟩
    · intro enters
      obtain ⟨observes, ready⟩ := Reference.call_enters valid absent enters
      have early := Reference.observations_le_threshold valid (by omega) key
      exact ⟨observes, Nat.le_antisymm early ready⟩
    · intro value observed reached
      have visit := Reference.call_of_entry valid observed
      obtain ⟨gone, refused, admitted⟩ :=
        Reference.visit_at_threshold value absent (Nat.le_of_eq reached.symm)
      rw [← visit] at gone refused admitted
      refine ⟨gone, fun _ => refused, ?_⟩
      intro fitting
      apply admitted
      cases operation with
      | add added stored =>
        obtain ⟨rfl, rfl⟩ := Prod.mk.inj (Option.some.inj observed)
        simpa using fitting
      | get sought =>
        obtain ⟨answer, found, same⟩ := Option.map_eq_some_iff.mp observed
        obtain ⟨rfl, rfl⟩ := Prod.mk.inj same
        exact Reference.fits_of_get valid absent found
      | removeOldest => cases observed
      | removeHistoryOldest => cases observed

end ReadThrough.Cache
