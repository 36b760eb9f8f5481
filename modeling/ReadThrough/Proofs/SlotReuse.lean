import ReadThrough.Proofs.SlabSequence
import Mathlib.Data.Finset.Option
import Mathlib.Data.Finset.Range
import Mathlib.Order.Bounds.Basic

/-! The slots that a list hands out in a run. Calls may stop on the way, and the run goes on with
the list as they leave it. The calls that came to an end tell which slots there are, which of them
are free and in which order pushes take these. So there are never more slots than the list had
entries at one time. -/

namespace ReadThrough.SlabList

variable {α : Type}

/-- The slots that were ever handed out. The latest call comes first. -/
def issued : List (Call α) → Finset Nat
  | [] => ∅
  | call :: past => call.handsOut?.toFinset ∪ issued past

/-- The slots that were taken back and not handed out again since, the one taken back last
first. -/
def vacated : List (Call α) → List Nat
  | [] => []
  | call :: past =>
    call.takesBack?.toList ++ (vacated past).filter fun slot => call.handsOut? ≠ some slot

/-- The slot for a push: the one taken back last of those that are free, else a new one. -/
def nextSlot (calls : List (Call α)) : Nat :=
  (vacated calls).head?.getD (issued calls).card

/-- A list after any number of attempted calls. Only those that came to an end are on record,
the latest first. -/
structure Run (α : Type) where
  calls : List (Call α) := []
  list : SlabList α := empty

/-- Where the work on a call stops, the run goes on with the list as it is then. -/
def Run.attempt (run : Run α) (operation : Operation α) : Run α :=
  match Work.apply operation run.list with
  | .ok reply after => ⟨⟨operation, reply⟩ :: run.calls, after⟩
  | .error _ after => { run with list := after }

def attempts (operations : List (Operation α)) : Run α := operations.foldl Run.attempt {}

/-- The lengths that the list has in a run, at the start and after every attempt. -/
def lengths (operations : List (Operation α)) : Set Nat :=
  {length | ∃ first, first <+: operations ∧ (attempts first).list.size = length}

/-- What a call does to the free stack and to the number of slots. -/
inductive Supply (call : Call α) (list after : SlabList α) : Prop where
  | reused {slot : Nat} (stack : list.free = slot :: after.free) (out : call.handsOut? = some slot)
      (back : call.takesBack? = none) (slots : after.slots.size = list.slots.size)
  | fresh (stack : list.free = []) (same : after.free = [])
      (out : call.handsOut? = some list.slots.size) (back : call.takesBack? = none)
      (slots : after.slots.size = list.slots.size + 1)
  | freed {slot : Nat} (stack : after.free = slot :: list.free) (out : call.handsOut? = none)
      (back : call.takesBack? = some slot) (slots : after.slots.size = list.slots.size)
  | kept (stack : after.free = list.free) (out : call.handsOut? = none)
      (back : call.takesBack? = none) (slots : after.slots.size = list.slots.size)

namespace Supply

variable {call : Call α} {list changed after : SlabList α}

theorem allocate (list : SlabList α) (key : String) (value : α)
    (out : call.handsOut? = some (list.allocate key value).1) (back : call.takesBack? = none) :
    Supply call list (list.allocate key value).2 := by
  unfold SlabList.allocate at out ⊢
  cases stack : list.free with
  | nil =>
    simp only [stack] at out ⊢
    exact .fresh stack rfl out back (by simp)
  | cons slot free =>
    simp only [stack] at out ⊢
    exact .reused stack out back (by simp)

theorem relinked (supply : Supply call list changed) (relinked : Relinked changed after) :
    Supply call list after := by
  cases supply with
  | reused stack out back slots =>
    exact .reused (stack.trans (by rw [relinked.free])) out back (relinked.slots.trans slots)
  | fresh stack same out back slots =>
    exact .fresh stack (relinked.free.trans same) out back (relinked.slots.trans slots)
  | freed stack out back slots =>
    exact .freed (relinked.free.trans stack) out back (relinked.slots.trans slots)
  | kept stack out back slots =>
    exact .kept (relinked.free.trans stack) out back (relinked.slots.trans slots)

theorem of_relinked (relinked : Relinked list after) (out : call.handsOut? = none)
    (back : call.takesBack? = none) : Supply call list after :=
  .kept relinked.free out back relinked.slots

/-- There are more slots than before only if all of them are taken. -/
theorem slots_eq_max (supply : Supply call list after) {cells : List (Cell α)}
    (chained : after.Chained cells) : after.slots.size = max after.size list.slots.size := by
  have shared := chained.slots_size
  cases supply with
  | fresh _ same _ _ slots =>
    rw [same, List.length_nil] at shared
    omega
  | reused _ _ _ slots | freed _ _ _ slots | kept _ _ _ slots => omega

end Supply

/-- A call about a slot with a node succeeds, with one of these effects on the free stack. -/
theorem exists_supply {list : SlabList α} (operation : Operation α)
    (found : ∀ slot ∈ operation.slot?, ∃ held, list.node slot = .ok held) :
    ∃ reply after, list.apply operation = .ok (reply, after) ∧
      Supply ⟨operation, reply⟩ list after := by
  cases operation with
  | pushFront key value =>
    exact ⟨_, _, rfl, (Supply.allocate list key value rfl rfl).relinked (.attachFront _ _)⟩
  | pushBack key value =>
    exact ⟨_, _, rfl, (Supply.allocate list key value rfl rfl).relinked (.attachBack _ _)⟩
  | moveToFront slot =>
    obtain ⟨held, found⟩ := found slot rfl
    obtain ⟨moved, done, relinked⟩ := Relinked.moveToFront found
    exact ⟨_, moved, by rw [apply, done]; rfl, .of_relinked relinked rfl rfl⟩
  | moveToBack slot =>
    obtain ⟨held, found⟩ := found slot rfl
    obtain ⟨moved, done, relinked⟩ := Relinked.moveToBack found
    exact ⟨_, moved, by rw [apply, done]; rfl, .of_relinked relinked rfl rfl⟩
  | replace slot value =>
    obtain ⟨held, found⟩ := found slot rfl
    exact ⟨_, _, by rw [apply, SlabList.replace, found]; rfl,
      .of_relinked (.update list slot _) rfl rfl⟩
  | remove slot =>
    obtain ⟨held, found⟩ := found slot rfl
    have relinked := Relinked.detach list slot held
    exact ⟨_, _, by rw [apply, SlabList.remove, found]; rfl,
      .freed (congrArg (slot :: ·) relinked.free) rfl rfl
        ((Array.size_setIfInBounds ..).trans relinked.slots)⟩

/-- A call about a slot without a node gives the error that is met there. -/
theorem Chained.apply_error {list : SlabList α} {cells : List (Cell α)}
    (chained : list.Chained cells) {operation : Operation α} {slot : Nat} {error : SlotError}
    (about : operation.slot? = some slot) (missing : list.node slot = .error error) :
    list.apply operation = .error error := by
  cases operation with
  | pushFront | pushBack => nomatch about
  | moveToFront =>
    cases about
    rw [SlabList.apply, chained.moveToFront_error missing]
    rfl
  | moveToBack =>
    cases about
    rw [SlabList.apply, chained.moveToBack_error missing]
    rfl
  | replace =>
    cases about
    rw [SlabList.apply, replace_error missing]
    rfl
  | remove =>
    cases about
    rw [SlabList.apply, remove_error missing]
    rfl

/-- The calls that a list went through account for its slots. -/
structure Accounts (calls : List (Call α)) (list : SlabList α) (cells : List (Cell α)) : Prop where
  chained : list.Chained cells
  held : ∀ slot, live calls slot = true ↔ slot ∈ slotsOf cells
  slots : issued calls = Finset.range list.slots.size
  free : list.free = vacated calls

namespace Accounts

variable {calls : List (Call α)} {call : Call α} {list after : SlabList α}
  {cells moved : List (Cell α)}

theorem start : Accounts [] (empty : SlabList α) [] :=
  ⟨empty_chained, by simp [live], rfl, rfl⟩

theorem issued_cons (accounts : Accounts calls list cells) (supply : Supply call list after) :
    issued (call :: calls) = Finset.range after.slots.size := by
  rw [issued, accounts.slots]
  cases supply with
  | @reused slot stack out _ slots =>
    have inside : slot ∈ Finset.range list.slots.size :=
      Finset.mem_range.mpr (accounts.chained.free_lt (stack ▸ List.mem_cons_self))
    rw [out, slots, Option.toFinset_some, Finset.singleton_union, Finset.insert_eq_of_mem inside]
  | fresh _ _ out _ slots =>
    rw [out, slots, Option.toFinset_some, Finset.singleton_union, Finset.range_add_one]
  | freed _ out _ slots | kept _ out _ slots =>
    rw [out, slots, Option.toFinset_none, Finset.empty_union]

theorem vacated_cons (accounts : Accounts calls list cells) (supply : Supply call list after) :
    after.free = vacated (call :: calls) := by
  rw [vacated, ← accounts.free]
  cases supply with
  | @reused slot stack out back =>
    -- The slot stands on the stack once, so that nothing but the top of it goes.
    have once := accounts.chained.room.recycled
    rw [stack, List.nodup_cons] at once
    have others : ∀ other ∈ after.free, slot ≠ other :=
      fun other member same => once.1 (same ▸ member)
    rw [stack, out, back, List.filter_cons_of_neg (by simp),
      List.filter_eq_self.mpr (by simpa using others)]
    rfl
  | fresh stack same _ back => rw [stack, same, back]; rfl
  | freed stack out back => rw [stack, out, back]; simp
  | kept stack out back => rw [stack, out, back]; simp

/-- A call about a slot of the chain succeeds, and the record with it accounts for the list that
it leaves. -/
theorem recorded (accounts : Accounts calls list cells) {operation : Operation α}
    (about : ∀ slot ∈ operation.slot?, slot ∈ slotsOf cells) :
    ∃ reply after moved, list.apply operation = .ok (reply, after) ∧
      Accounts (⟨operation, reply⟩ :: calls) after moved ∧
      after.slots.size = max after.size list.slots.size := by
  obtain ⟨reply, after, moved, done, effect, chained⟩ := accounts.chained.apply operation about
  have found : ∀ slot ∈ operation.slot?, ∃ node, list.node slot = .ok node :=
    fun slot named => node_of_occupied (accounts.chained.live slot (about slot named))
  obtain ⟨_, _, again, supply⟩ := exists_supply operation found
  obtain ⟨rfl, rfl⟩ := Prod.mk.inj (Except.ok.inj (done.symm.trans again))
  refine ⟨reply, after, moved, done,
    ⟨chained, fun slot => ?_, accounts.issued_cons supply, accounts.vacated_cons supply⟩,
    supply.slots_eq_max chained⟩
  rw [effect.mem_slotsOf accounts.chained.spine.distinct, ← accounts.held]
  simp [live]

end Accounts

namespace Run

variable {run : Run α} {cells : List (Cell α)} {operation : Operation α}

theorem attempt_of_ok (chained : run.list.Chained cells) {reply : Reply α} {after : SlabList α}
    (done : run.list.apply operation = .ok (reply, after)) :
    run.attempt operation = ⟨⟨operation, reply⟩ :: run.calls, after⟩ := by
  rw [attempt, chained.works, done]
  rfl

/-- Work that stops has changed nothing. -/
theorem attempt_of_error (chained : run.list.Chained cells) {error : SlotError}
    (refused : run.list.apply operation = .error error) : run.attempt operation = run := by
  rw [attempt, chained.works, refused]
  rfl

theorem attempt_accounts (accounts : Accounts run.calls run.list cells)
    (operation : Operation α) :
    ∃ moved, Accounts (run.attempt operation).calls (run.attempt operation).list moved ∧
      (run.attempt operation).list.slots.size =
        max (run.attempt operation).list.size run.list.slots.size := by
  have chained := accounts.chained
  -- A push is about no slot, so it is never among the calls that stop.
  by_cases about : ∀ slot ∈ operation.slot?, slot ∈ slotsOf cells
  · obtain ⟨reply, after, moved, done, kept, grown⟩ := accounts.recorded about
    rw [attempt_of_ok chained done]
    exact ⟨moved, kept, grown⟩
  · obtain ⟨slot, named, outside⟩ : ∃ slot ∈ operation.slot?, slot ∉ slotsOf cells := by
      simpa using about
    cases found : run.list.node slot with
    | ok held => exact absurd ((chained.room.live slot).mp (occupied_of_node found)) outside
    | error error =>
      rw [attempt_of_error chained (chained.apply_error named found)]
      have shared := chained.slots_size
      exact ⟨cells, accounts, by omega⟩

end Run

theorem attempts_concat (operations : List (Operation α)) (operation : Operation α) :
    attempts (operations ++ [operation]) = (attempts operations).attempt operation := by
  simp [attempts]

theorem attempts_accounts (operations : List (Operation α)) :
    ∃ cells, Accounts (attempts operations).calls (attempts operations).list cells := by
  induction operations using List.reverseRecOn with
  | nil => exact ⟨[], .start⟩
  | append_singleton operations operation ih =>
    obtain ⟨cells, accounts⟩ := ih
    obtain ⟨moved, recorded, _⟩ := Run.attempt_accounts accounts operation
    rw [attempts_concat]
    exact ⟨moved, recorded⟩

theorem lengths_concat (operations : List (Operation α)) (operation : Operation α) :
    lengths (operations ++ [operation]) =
      insert (attempts (operations ++ [operation])).list.size (lengths operations) := by
  ext length
  simp only [lengths, List.prefix_concat_iff, Set.mem_ofPred_eq, Set.mem_insert_iff]
  grind

/-- A slot is added only when all others are taken, and then the list is longer than ever. -/
theorem isGreatest_lengths (operations : List (Operation α)) :
    IsGreatest (lengths operations) (attempts operations).list.slots.size := by
  induction operations using List.reverseRecOn with
  | nil => simp [lengths, attempts, empty]
  | append_singleton operations operation ih =>
    obtain ⟨cells, accounts⟩ := attempts_accounts operations
    obtain ⟨_, _, grown⟩ := Run.attempt_accounts accounts operation
    rw [lengths_concat, attempts_concat, grown]
    exact ih.insert _

theorem allocate_fst (list : SlabList α) (key : String) (value : α) :
    (list.allocate key value).1 = list.free.head?.getD list.slots.size := by
  unfold allocate
  cases list.free <;> rfl

/-- However calls follow each other, and whichever of them stop, the slots are numbered from zero
on, and there are as many as the list had entries at the time when it was longest. The free stack
holds the vacant slots, each once and the one that was taken back last on top. A push gives that
one, and only if there is none a new slot with the next number. -/
theorem slots_reused (operations : List (Operation α)) :
    let run := attempts operations
    issued run.calls = Finset.range run.list.slots.size ∧
      IsGreatest (lengths operations) (issued run.calls).card ∧
      run.list.free = vacated run.calls ∧ run.list.free.Nodup ∧
      (∀ slot, slot ∈ run.list.free ↔ run.list.slots[slot]? = some none) ∧
      ∀ key value, ∃ front back,
        run.list.pushFront key value = (nextSlot run.calls, front) ∧
        Work.pushFront key value run.list = .ok (nextSlot run.calls) front ∧
        run.list.pushBack key value = (nextSlot run.calls, back) ∧
        Work.pushBack key value run.list = .ok (nextSlot run.calls) back := by
  intro run
  obtain ⟨cells, accounts⟩ := attempts_accounts operations
  have chained := accounts.chained
  have count : (issued run.calls).card = run.list.slots.size := by
    rw [accounts.slots, Finset.card_range]
  have next : run.list.free.head?.getD run.list.slots.size = nextSlot run.calls := by
    rw [nextSlot, ← accounts.free, count]
  refine ⟨accounts.slots, count ▸ isGreatest_lengths operations, accounts.free,
    chained.room.recycled, fun slot => ?_, fun key value => ?_⟩
  · rw [← chained.room.vacant]
    simp [occupied?, run]
  · rw [← next, ← allocate_fst run.list key value]
    exact ⟨_, _, rfl, chained.pushFront_works key value, rfl, chained.pushBack_works key value⟩

-- Two of these calls stop. The slots of the four pushes, the latest first.
example :
    let operations : List (Operation Nat) := [.pushBack "a" 1, .pushBack "b" 2, .remove 0,
      .remove 0, .moveToBack 5, .pushFront "c" 3, .pushFront "d" 4]
    (attempts operations).calls.filterMap Call.handsOut? = [2, 0, 1, 0] := by decide

end ReadThrough.SlabList
