import ReadThrough.Proofs.CacheInvariant

/-! The record of a run: every call with its answer, with what each queue dropped for it and
with the keys that waited after it, the latest call first. Laws about the past of a key are
read off the record. A cache and the lists it represents leave the same record. -/

namespace ReadThrough.Cache

variable {α : Type}

structure Call (α : Type) where
  operation : Operation α
  answer : Option α := none
  fromHistory : Evicted α := []
  fromMain : Evicted α := []
  waiting : List String

/-- Everything a call dropped, in order. -/
def Call.dropped (call : Call α) : Evicted α := call.fromHistory ++ call.fromMain

/-- The entry that a call observes, by adding it or by finding it. -/
def Call.observed? (call : Call α) : Option (String × α) :=
  match call.operation with
  | .add key value => some (key, value)
  | .get key => call.answer.map fun value => (key, value)
  | .removeOldest => none
  | .removeHistoryOldest => none

def Call.observes (call : Call α) (key : String) : Bool := call.observed?.any (·.1 == key)

theorem Call.observes_iff {call : Call α} {entry : String × α} {key : String}
    (observed : call.observed? = some entry) :
    call.observes key = true ↔ key = entry.1 := by
  simp only [Call.observes, observed, Option.any_some, beq_iff_eq]
  exact eq_comm

theorem Call.observes_of_none {call : Call α} (unobserved : call.observed? = none) (key : String) :
    call.observes key = false := by
  simp [Call.observes, unobserved]

variable [ByteSized α]

/-- A call with the drops of the two queues apart. -/
def call (cache : Cache α) (operation : Operation α) : Except Fault (Call α × Cache α) :=
  match operation with
  | .add key value =>
    match cache.main.slot? key with
    | some _ => do
      let (fromMain, after) ← cache.add key value
      return ({ operation, fromMain, waiting := after.historyKeys }, after)
    | none => do
      let entered ← cache.enterHistory key value
      let (fromHistory, settled) ← entered.evictHistoryOverflow
      let (fromMain, after) ← settled.promoteReady key
      return ({ operation, fromHistory, fromMain, waiting := after.historyKeys }, after)
  | .get key => do
    let (answer, fromMain, after) ← cache.get key
    return ({ operation, answer, fromMain, waiting := after.historyKeys }, after)
  | .removeOldest => do
    let (fromMain, after) ← cache.removeOldest
    return ({ operation, fromMain, waiting := after.historyKeys }, after)
  | .removeHistoryOldest => do
    let (fromHistory, after) ← cache.removeHistoryOldest
    return ({ operation, fromHistory, waiting := after.historyKeys }, after)

/-- The record with one more call. -/
def extend (past : List (Call α) × Cache α) (operation : Operation α) :
    Except Fault (List (Call α) × Cache α) := do
  let (call, after) ← past.2.call operation
  return (call :: past.1, after)

def record (cache : Cache α) (operations : List (Operation α)) :
    Except Fault (List (Call α) × Cache α) :=
  operations.foldlM extend ([], cache)

namespace Reference

/-- A key as it waits once it is observed again. -/
def arrival (reference : Reference α) (key : String) (value : α) : Waiting α :=
  { key, value, hits := reference.observations key }

/-- What the two queues drop when a value arrives for a key, and the lists after it. -/
def visit (reference : Reference α) (key : String) (value : α) :
    Evicted α × Evicted α × Reference α :=
  match reference.main.lookup key with
  | some _ => ([], reference.enterMain key value)
  | none =>
    let settled := (reference.enterHistory (reference.arrival key value)).settleHistory
    (settled.1, settled.2.promoteReady key)

/-- What a call records on the lists, and the lists after it. -/
def call (reference : Reference α) (operation : Operation α) : Call α × Reference α :=
  match operation with
  | .add key value =>
    let (fromHistory, fromMain, after) := reference.visit key value
    ({ operation, fromHistory, fromMain, waiting := after.historyKeys }, after)
  | .get key =>
    let (answer, fromMain, after) := reference.get key
    ({ operation, answer, fromMain, waiting := after.historyKeys }, after)
  | .removeOldest =>
    let (fromMain, after) := reference.removeOldest
    ({ operation, fromMain, waiting := after.historyKeys }, after)
  | .removeHistoryOldest =>
    let (fromHistory, after) := reference.removeHistoryOldest
    ({ operation, fromHistory, waiting := after.historyKeys }, after)

end Reference

/-- A call does what the operation does. -/
theorem apply_eq_call (cache : Cache α) (operation : Operation α) :
    cache.apply operation =
      (cache.call operation).map fun (call, after) => (call.answer, call.dropped, after) := by
  cases operation with
  | add key value =>
    simp only [apply, call]
    cases indexed : cache.main.slot? key with
    | some slot => cases cache.add key value <;> rfl
    | none =>
      simp only [add, indexed]
      cases cache.enterHistory key value with
      | error fault => rfl
      | ok entered =>
        simp only [bind, Except.bind]
        cases entered.evictHistoryOverflow with
        | error fault => rfl
        | ok settled =>
          simp only
          cases settled.2.promoteReady key <;> rfl
  | get key =>
    simp only [apply, call]
    cases cache.get key <;> rfl
  | removeOldest =>
    simp only [apply, call]
    cases cache.removeOldest <;> rfl
  | removeHistoryOldest =>
    simp only [apply, call]
    cases cache.removeHistoryOldest with
    | error fault => rfl
    | ok outcome => simp [bind, Except.bind, pure, Except.pure, Except.map, Call.dropped]

theorem run_eq_foldlM (calls : List (Call α)) (cache : Cache α) (operations : List (Operation α)) :
    cache.run operations = (operations.foldlM extend (calls, cache)).map (·.2) := by
  induction operations generalizing calls cache with
  | nil => rfl
  | cons operation operations ih =>
    simp only [run, List.foldlM_cons] at ih ⊢
    rw [apply_eq_call, extend]
    cases cache.call operation with
    | error fault => rfl
    | ok outcome => exact ih (outcome.1 :: calls) outcome.2

theorem run_eq_record (cache : Cache α) (operations : List (Operation α)) :
    cache.run operations = (cache.record operations).map (·.2) :=
  run_eq_foldlM [] cache operations

namespace Reference

theorem apply_eq_call (reference : Reference α) (operation : Operation α) :
    reference.apply operation =
      ((reference.call operation).1.answer, (reference.call operation).1.dropped,
        (reference.call operation).2) := by
  cases operation with
  | add key value =>
    simp only [apply, add, call, visit]
    cases reference.main.lookup key <;> rfl
  | get key => rfl
  | removeOldest => rfl
  | removeHistoryOldest => simp [apply, call, Call.dropped]

theorem call_valid {reference : Reference α} (valid : reference.Valid) (operation : Operation α) :
    (reference.call operation).2.Valid := by
  have after := apply_valid valid operation
  rwa [apply_eq_call] at after

theorem call_limits (reference : Reference α) (operation : Operation α) :
    (reference.call operation).2.toLimits = reference.toLimits := by
  have limits := apply_limits reference operation
  rwa [apply_eq_call] at limits

theorem call_waiting (reference : Reference α) (operation : Operation α) :
    (reference.call operation).1.waiting = (reference.call operation).2.historyKeys := by
  cases operation with
  | add key value => rfl
  | get key => rfl
  | removeOldest => rfl
  | removeHistoryOldest => rfl

theorem call_operation (reference : Reference α) (operation : Operation α) :
    (reference.call operation).1.operation = operation := by
  cases operation with
  | add key value => rfl
  | get key => rfl
  | removeOldest => rfl
  | removeHistoryOldest => rfl

end Reference

namespace Represents

variable {cache : Cache α} {reference : Reference α}

theorem historyKeys (represents : cache.Represents reference) :
    cache.historyKeys = reference.historyKeys :=
  represents.history.keys.trans (List.map_map ..)

/-- A call on the cache records what the same call on the lists records. -/
theorem call (represents : cache.Represents reference) (valid : reference.Valid)
    (operation : Operation α) :
    ∃ after, cache.call operation = .ok ((reference.call operation).1, after) ∧
      after.Represents (reference.call operation).2 := by
  cases operation with
  | add key value =>
    simp only [Cache.call, Reference.call, Reference.visit]
    cases indexed : cache.main.slot? key with
    | some slot =>
      obtain ⟨old, found⟩ := represents.main.lookup indexed
      obtain ⟨after, done, kept⟩ := represents.add valid.distinct key value
      simp only [Reference.add, found] at done kept ⊢
      refine ⟨after, ?_, kept⟩
      rw [done, ← kept.historyKeys]
      rfl
    | none =>
      have absent := represents.main.slot?_eq_none.mp indexed
      obtain ⟨entered, done, waiting⟩ : ∃ entered, cache.enterHistory key value = .ok entered ∧
          entered.Represents (reference.enterHistory (reference.arrival key value)) :=
        represents.enterHistory key value
      obtain ⟨trimmed, dropped, within⟩ := waiting.evictHistoryOverflow
      obtain ⟨after, promoted, kept⟩ := within.promoteReady absent
      simp only [absent]
      refine ⟨after, ?_, kept⟩
      simp only [bind, Except.bind, done, dropped, promoted, ← kept.historyKeys]
      rfl
  | get key =>
    obtain ⟨after, done, kept⟩ := represents.get valid key
    refine ⟨after, ?_, kept⟩
    simp only [Cache.call, Reference.call, done, bind, Except.bind, ← kept.historyKeys]
    rfl
  | removeOldest =>
    obtain ⟨after, done, kept⟩ := represents.removeOldest
    refine ⟨after, ?_, kept⟩
    simp only [Cache.call, Reference.call, done, bind, Except.bind, ← kept.historyKeys]
    rfl
  | removeHistoryOldest =>
    obtain ⟨after, done, kept⟩ := represents.removeHistoryOldest
    refine ⟨after, ?_, kept⟩
    simp only [Cache.call, Reference.call, done, bind, Except.bind, ← kept.historyKeys]
    rfl

end Represents

/-- Calls on a cache that represents lists keep what every call on the lists keeps. -/
theorem Represents.extended {holds : List (Call α) → Reference α → Prop}
    (step : ∀ calls reference operation, reference.Valid → holds calls reference →
      holds ((reference.call operation).1 :: calls) (reference.call operation).2)
    (operations : List (Operation α)) {calls : List (Call α)} {cache : Cache α}
    {reference : Reference α} (represents : cache.Represents reference) (valid : reference.Valid)
    (kept : holds calls reference) :
    ∃ record after settled, operations.foldlM extend (calls, cache) = .ok (record, after) ∧
      record.map (·.operation) = operations.reverse ++ calls.map (·.operation) ∧
      after.Represents settled ∧ settled.Valid ∧ settled.toLimits = reference.toLimits ∧
      holds record settled := by
  induction operations generalizing calls cache reference with
  | nil => exact ⟨calls, cache, reference, rfl, rfl, represents, valid, rfl, kept⟩
  | cons operation operations ih =>
    obtain ⟨next, done, following⟩ := represents.call valid operation
    obtain ⟨record, after, settled, rest, made, representing, settledValid, limits, last⟩ :=
      ih following (Reference.call_valid valid operation)
        (step calls reference operation valid kept)
    refine ⟨record, after, settled, ?_, ?_, representing, settledValid,
      limits.trans (Reference.call_limits reference operation), last⟩
    · simp only [List.foldlM_cons, extend, done, bind, Except.bind]
      exact rest
    · rw [made, List.map_cons, Reference.call_operation]
      simp

/-- What holds of an empty record and is kept by every call holds of the cache after any calls
on a new one, by way of the lists that it represents. -/
theorem recorded {holds : List (Call α) → Reference α → Prop}
    (step : ∀ calls reference operation, reference.Valid → holds calls reference →
      holds ((reference.call operation).1 :: calls) (reference.call operation).2)
    (maxBytes historyMaxBytes threshold : Nat) (operations : List (Operation α))
    (start : holds [] (.new maxBytes historyMaxBytes threshold)) :
    ∃ calls cache reference,
      (new maxBytes historyMaxBytes threshold).record operations = .ok (calls, cache) ∧
      calls.map (·.operation) = operations.reverse ∧
      (new maxBytes historyMaxBytes threshold).run operations = .ok cache ∧
      cache.Represents reference ∧ reference.Valid ∧
      reference.toLimits = ⟨maxBytes, historyMaxBytes, max threshold 1⟩ ∧
      holds calls reference := by
  obtain ⟨calls, cache, reference, done, made, represents, valid, limits, kept⟩ :=
    (Represents.initial maxBytes historyMaxBytes threshold).extended step operations
      (Reference.Valid.initial maxBytes historyMaxBytes threshold) start
  rw [List.map_nil, List.append_nil] at made
  refine ⟨calls, cache, reference, done, made, ?_, represents, valid, limits, kept⟩
  rw [run_eq_record, record, done]
  rfl

end ReadThrough.Cache
