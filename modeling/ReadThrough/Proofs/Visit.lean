import ReadThrough.Proofs.CallRecord

/-! What one observation of a key does to the plain lists. A lookup that finds a key does what
adding the found value would do, so both are one visit, and a visit ends in one of four ways. -/

namespace ReadThrough.Cache.Reference

variable {α : Type} {reference : Reference α} {key : String} {value : α}

/-- The history with a key at its end, before anything is dropped from it. -/
def arrived (reference : Reference α) (key : String) (value : α) : List (Waiting α) :=
  reference.history.filter (·.key != key) ++ [reference.arrival key value]

/-- The observations of a key in its present stay in the history; none of a key that is not there. -/
def counter (reference : Reference α) (key : String) : Nat :=
  ((reference.waiting? key).map (·.hits)).getD 0

theorem observations_eq (reference : Reference α) (key : String) :
    reference.observations key = reference.counter key + 1 := by
  unfold observations counter
  cases reference.waiting? key <;> rfl

theorem arrived_entries (reference : Reference α) (key : String) (value : α) :
    (reference.arrived key value).map Waiting.entry =
      without key (reference.history.map Waiting.entry) ++ [(key, value)] := by
  rw [arrived, List.map_append, history_without]
  rfl

theorem waiting?_concat {rest : List (Waiting α)} {waiting : Waiting α}
    (fresh : ∀ other ∈ rest, other.key ≠ waiting.key) :
    { reference with history := rest ++ [waiting] }.waiting? waiting.key = some waiting := by
  have missing : rest.find? (·.key == waiting.key) = none := by simpa using fresh
  simp [waiting?, missing]

variable [ByteSized α]

theorem add_eq_visit (reference : Reference α) (key : String) (value : α) :
    reference.add key value = ((reference.visit key value).1 ++ (reference.visit key value).2.1,
      (reference.visit key value).2.2) :=
  congrArg Prod.snd (apply_eq_call reference (.add key value))

theorem enterMain_trims (reference : Reference α) (key : String) (value : α) :
    trim charge reference.maxBytes (without key reference.main.reverse ++ [(key, value)]) =
      ((reference.enterMain key value).1, (reference.enterMain key value).2.main.reverse) := by
  have queue : without key reference.main.reverse ++ [(key, value)] =
      ((key, value) :: without key reference.main).reverse := by
    simp [without]
  simp only [enterMain, settleMain, List.reverse_reverse]
  rw [queue]

theorem trim_entries {budget : Nat} {history dropped kept : List (Waiting α)}
    (trimmed : trim (charge ·.entry) budget history = (dropped, kept)) :
    trim charge budget (history.map Waiting.entry) =
      (dropped.map Waiting.entry, kept.map Waiting.entry) := by
  rw [trim_map, trimmed]

theorem mem_of_trimmed {budget : Nat} {history dropped kept : List (Waiting α)} {waiting : Waiting α}
    (trimmed : trim (charge ·.entry) budget history = (dropped, kept)) (member : waiting ∈ kept) :
    waiting ∈ history := by
  have whole := trim_append (fun waiting : Waiting α => charge waiting.entry) budget history
  rw [trimmed] at whole
  exact whole ▸ List.mem_append_right _ member

/-- The ways a visit may end: the key is in the main queue and moves to its head; it is too
large for the history, which it leaves together with all others; it waits on; or it has now
been observed often enough and moves to the head of the main queue. -/
inductive Visited (reference : Reference α) (key : String) (value : α) :
    Evicted α × Evicted α × Reference α → Prop
  | moved (member : key ∈ reference.keys) :
      Visited reference key value ([], reference.enterMain key value)
  | refused (absent : key ∉ reference.keys)
      (oversized : exceeds reference.historyMaxBytes (charge (key, value)) = true) :
      Visited reference key value
        ((reference.arrived key value).map Waiting.entry, [], { reference with history := [] })
  | waits {dropped rest : List (Waiting α)} (absent : key ∉ reference.keys)
      (fits : exceeds reference.historyMaxBytes (charge (key, value)) = false)
      (early : reference.observations key < reference.threshold)
      (trimmed : trim (charge ·.entry) reference.historyMaxBytes (reference.arrived key value) =
        (dropped, rest ++ [reference.arrival key value])) :
      Visited reference key value (dropped.map Waiting.entry, [],
        { reference with history := rest ++ [reference.arrival key value] })
  | promoted {dropped rest : List (Waiting α)} (absent : key ∉ reference.keys)
      (fits : exceeds reference.historyMaxBytes (charge (key, value)) = false)
      (ready : reference.threshold ≤ reference.observations key)
      (trimmed : trim (charge ·.entry) reference.historyMaxBytes (reference.arrived key value) =
        (dropped, rest ++ [reference.arrival key value])) :
      Visited reference key value
        (dropped.map Waiting.entry, { reference with history := rest }.enterMain key value)

theorem settleHistory_eq (reference : Reference α) {dropped kept : List (Waiting α)}
    (trimmed : trim (charge ·.entry) reference.historyMaxBytes reference.history = (dropped, kept)) :
    reference.settleHistory = (dropped.map Waiting.entry, { reference with history := kept }) := by
  rw [settleHistory, trimmed]

/-- A key at the end of the history is taken over by the main queue or stays where it is. -/
theorem promoteReady_concat (reference : Reference α) {rest : List (Waiting α)}
    (waiting : Waiting α) (fresh : ∀ other ∈ rest, other.key ≠ waiting.key) :
    { reference with history := rest ++ [waiting] }.promoteReady waiting.key =
      if reference.threshold ≤ waiting.hits then
        { reference with history := rest }.enterMain waiting.key waiting.value
      else ([], { reference with history := rest ++ [waiting] }) := by
  rw [promoteReady, waiting?_concat fresh]
  simp [enterMain]

theorem visited (reference : Reference α) (key : String) (value : α) :
    Visited reference key value (reference.visit key value) := by
  unfold visit
  split
  next held found => exact .moved (List.mem_map_of_mem (mem_of_lookup found))
  next missing =>
    have absent := lookup_eq_none.mp missing
    cases fits : exceeds reference.historyMaxBytes (charge (key, value)) with
    | true =>
      have trimmed : trim (charge ·.entry) reference.historyMaxBytes (reference.arrived key value) =
          (reference.arrived key value, []) :=
        trim_concat_of_exceeds fits
      rw [settleHistory_eq (reference.enterHistory (reference.arrival key value)) trimmed]
      exact .refused absent fits
    | false =>
      obtain ⟨dropped, rest, whole, trimmed⟩ :
          ∃ dropped rest, dropped ++ rest = reference.history.filter (·.key != key) ∧
            trim (charge ·.entry) reference.historyMaxBytes (reference.arrived key value) =
              (dropped, rest ++ [reference.arrival key value]) :=
        trim_concat_of_fits fits
      have fresh : ∀ other ∈ rest, other.key ≠ key := by
        intro other member
        have kept : other ∈ reference.history.filter (·.key != key) :=
          whole ▸ List.mem_append_right _ member
        simpa using (List.mem_filter.mp kept).2
      have ready : { reference with history := rest ++ [reference.arrival key value] }.promoteReady key =
          if reference.threshold ≤ reference.observations key then
            { reference with history := rest }.enterMain key value
          else ([], { reference with history := rest ++ [reference.arrival key value] }) :=
        promoteReady_concat reference (reference.arrival key value) fresh
      rw [settleHistory_eq (reference.enterHistory (reference.arrival key value)) trimmed]
      change Visited reference key value (dropped.map Waiting.entry,
        { reference with history := rest ++ [reference.arrival key value] }.promoteReady key)
      rw [ready]
      split
      next reached => exact .promoted absent fits reached trimmed
      next early => exact .waits absent fits (Nat.lt_of_not_le early) trimmed

/-- A waiting key that is looked up keeps its value, so the history has room for it as before. -/
theorem visit_of_waiting? {waiting : Waiting α} (valid : reference.Valid)
    (absent : reference.main.lookup key = none) (waits : reference.waiting? key = some waiting) :
    reference.visit key waiting.value = ([], (reference.get key).2) := by
  obtain rfl := key_of_waiting? waits
  let again : Waiting α := { waiting with hits := waiting.hits + 1 }
  have arrives : reference.arrival waiting.key waiting.value = again := by
    simp only [arrival, observations, waits, again]
  have within : exceeds reference.historyMaxBytes
      ((reference.enterHistory again).history.map fun waiting => charge waiting.entry).sum = false := by
    have weight := enterHistory_weight valid.distinct (mem_history_of_waiting? waits) again.hits
    rw [Cache.weight, List.map_map] at weight
    exact (congrArg (exceeds _) weight).trans valid.historyBudget
  have settled : (reference.enterHistory again).settleHistory = ([], reference.enterHistory again) :=
    settleHistory_eq (reference.enterHistory again) (trim_eq_self within)
  have fresh : ∀ other ∈ reference.history.filter (·.key != waiting.key),
      other.key ≠ waiting.key := by
    intro other kept
    simpa using (List.mem_filter.mp kept).2
  have entered : { reference with
      history := reference.history.filter (·.key != waiting.key) }.enterMain waiting.key waiting.value =
      reference.enterMain waiting.key waiting.value := by
    simp [enterMain]
  have promoted := promoteReady_concat reference again fresh
  rw [entered] at promoted
  simp only [visit, get, absent, waits, arrives, settled]
  refine congrArg (Prod.mk []) (promoted.trans ?_)
  split <;> rfl

/-- What a lookup finds outside the main queue waits. -/
theorem waiting?_of_get (absent : reference.main.lookup key = none)
    (found : (reference.get key).1 = some value) :
    ∃ waiting, reference.waiting? key = some waiting ∧ waiting.value = value := by
  cases waits : reference.waiting? key with
  | none => simp [get, absent, waits] at found
  | some waiting =>
    refine ⟨waiting, rfl, ?_⟩
    simp only [get, absent, waits] at found
    split at found <;> exact Option.some.inj found

/-- A lookup that finds a value does what adding that value would do. -/
theorem visit_of_get (valid : reference.Valid) (found : (reference.get key).1 = some value) :
    reference.visit key value = ([], (reference.get key).2) := by
  cases stored : reference.main.lookup key with
  | some held =>
    simp only [get, stored, Option.some.injEq] at found
    subst found
    simp only [visit, get, stored]
  | none =>
    obtain ⟨waiting, waits, rfl⟩ := waiting?_of_get stored found
    exact visit_of_waiting? valid stored waits

theorem get_of_missing (missing : (reference.get key).1 = none) :
    reference.get key = (none, [], reference) := by
  unfold get at missing ⊢
  split at missing
  next => cases missing
  next =>
    split at missing
    next => rfl
    next => split at missing <;> cases missing

/-- A call that observes an entry is a visit. -/
theorem call_of_entry {operation : Operation α} (valid : reference.Valid)
    (observed : (reference.call operation).1.observed? = some (key, value)) :
    ((reference.call operation).1.fromHistory, (reference.call operation).1.fromMain,
      (reference.call operation).2) = reference.visit key value := by
  cases operation with
  | add added stored =>
    obtain ⟨rfl, rfl⟩ := Prod.mk.inj (Option.some.inj observed)
    rfl
  | get sought =>
    obtain ⟨answer, found, same⟩ := Option.map_eq_some_iff.mp observed
    obtain ⟨rfl, rfl⟩ := Prod.mk.inj same
    exact (visit_of_get valid found).symm
  | removeOldest => cases observed
  | removeHistoryOldest => cases observed

/-- A call that observes nothing only drops, and only from the old ends. -/
theorem call_of_no_entry {operation : Operation α}
    (unobserved : (reference.call operation).1.observed? = none) :
    (reference.call operation).2.main ++ (reference.call operation).1.fromMain.reverse =
        reference.main ∧
      (reference.call operation).2.history <:+ reference.history := by
  cases operation with
  | add key value => cases unobserved
  | get key =>
    have missing : (reference.get key).1 = none := Option.map_eq_none_iff.mp unobserved
    simp only [call, get_of_missing missing]
    exact ⟨List.append_nil _, List.suffix_rfl⟩
  | removeOldest =>
    simp only [call, removeOldest]
    split
    next entry last => exact ⟨List.dropLast_append_getLast? entry last, List.suffix_rfl⟩
    next => exact ⟨List.append_nil _, List.suffix_rfl⟩
  | removeHistoryOldest =>
    simp only [call, removeHistoryOldest]
    split
    next waiting rest first => exact ⟨List.append_nil _, first ▸ List.suffix_cons waiting rest⟩
    next => exact ⟨List.append_nil _, List.suffix_rfl⟩

end ReadThrough.Cache.Reference
