import ReadThrough.Proofs.SlotReuse

/-! Calls for a slot that need not be live, on any list that calls can lead to, even if some of
them stopped. A call stops exactly if its slot is not live at the time. It tells a slot that never
was handed out from one that was taken back, and it stops before it has changed anything. -/

namespace ReadThrough.SlabList

variable {α β : Type}

def Work.value (slot : Nat) : Work α α := (·.value) <$> Work.node slot

/-- What a call for a slot comes to after a run, as work in place and as a function of the list. -/
structure Guarded (run : Run α) (slot : Nat) (work : Work α β)
    (call : Except SlotError (β × SlabList α)) : Prop where
  inPlace : work run.list = Work.outcome run.list call
  stops : (∃ stop after, work run.list = .error stop after) ↔ live run.calls slot = false
  unallocated : slot ∉ issued run.calls →
    work run.list = .error (.slot (.unallocated run.list.slots.size slot)) run.list
  vacant : slot ∈ issued run.calls → live run.calls slot = false →
    work run.list = .error (.slot (.vacant slot)) run.list

namespace Accounts

variable {calls : List (Call α)} {list : SlabList α} {cells : List (Cell α)} {slot : Nat}

theorem node_of_live (accounts : Accounts calls list cells) (lives : live calls slot = true) :
    ∃ held, list.node slot = .ok held :=
  node_of_occupied (accounts.chained.live slot ((accounts.held slot).mp lives))

theorem node_of_not_issued (accounts : Accounts calls list cells) (never : slot ∉ issued calls) :
    list.node slot = .error (.unallocated list.slots.size slot) := by
  rw [accounts.slots, Finset.mem_range, Nat.not_lt] at never
  rw [node, Array.getElem?_eq_none never]

theorem node_of_not_live (accounts : Accounts calls list cells) (once : slot ∈ issued calls)
    (gone : live calls slot = false) : list.node slot = .error (.vacant slot) := by
  rw [accounts.slots, Finset.mem_range] at once
  cases content : list.slots[slot] with
  | none => rw [node, Array.getElem?_eq_getElem once, content]
  | some held =>
    have taken : list.occupied? slot = some true := by simp [occupied?, once, content]
    have lives := (accounts.held slot).mpr ((accounts.chained.room.live slot).mp taken)
    exact absurd (lives.symm.trans gone) (by decide)

end Accounts

theorem value_works (list : SlabList α) (slot : Nat) :
    Work.value slot list = Work.outcome list ((list.value slot).map (·, list)) := by
  unfold SlabList.value
  cases found : list.node slot with
  | error error => exact Work.map_error (Work.node_error found) _
  | ok held => exact Work.map_ok (Work.node_ok found) _

namespace Accounts

variable {run : Run α} {cells : List (Cell α)}

/-- The work follows a call that succeeds where there is a node, and else gives the error that is
met there. -/
theorem guarded {slot : Nat} (accounts : Accounts run.calls run.list cells) {work : Work α β}
    {call : Except SlotError (β × SlabList α)} (inPlace : work run.list = Work.outcome run.list call)
    (accepted : ∀ held, run.list.node slot = .ok held → ∃ result, call = .ok result)
    (refused : ∀ error, run.list.node slot = .error error → call = .error error) :
    Guarded run slot work call := by
  have stopped : ∀ error, run.list.node slot = .error error →
      work run.list = .error (.slot error) run.list := by
    intro error missing
    rw [inPlace, refused error missing]
    rfl
  have unallocated (never : slot ∉ issued run.calls) :=
    stopped _ (accounts.node_of_not_issued never)
  have vacant (once : slot ∈ issued run.calls) (gone : live run.calls slot = false) :=
    stopped _ (accounts.node_of_not_live once gone)
  refine ⟨inPlace, ⟨fun ⟨stop, after, halted⟩ => ?_, fun gone => ?_⟩, unallocated, vacant⟩
  · by_contra lives
    obtain ⟨held, found⟩ := accounts.node_of_live (Bool.of_not_eq_false lives)
    obtain ⟨result, done⟩ := accepted held found
    rw [inPlace, done] at halted
    nomatch halted
  · by_cases once : slot ∈ issued run.calls
    · exact ⟨_, _, vacant once gone⟩
    · exact ⟨_, _, unallocated once⟩

theorem value_guarded (accounts : Accounts run.calls run.list cells) (slot : Nat) :
    Guarded run slot (Work.value slot) ((run.list.value slot).map (·, run.list)) := by
  apply accounts.guarded (value_works run.list slot)
  · intro held found
    exact ⟨_, by rw [SlabList.value, found]; rfl⟩
  · intro error missing
    rw [SlabList.value, missing]
    rfl

theorem moveToFront_guarded (accounts : Accounts run.calls run.list cells) (slot : Nat) :
    Guarded run slot (Work.moveToFront slot)
      ((run.list.moveToFront slot).map (Prod.mk ())) := by
  apply accounts.guarded (accounts.chained.moveToFront_works slot)
  · intro held found
    obtain ⟨moved, done, _⟩ := Relinked.moveToFront found
    exact ⟨_, by rw [done]; rfl⟩
  · intro error missing
    rw [accounts.chained.moveToFront_error missing]
    rfl

theorem moveToBack_guarded (accounts : Accounts run.calls run.list cells) (slot : Nat) :
    Guarded run slot (Work.moveToBack slot) ((run.list.moveToBack slot).map (Prod.mk ())) := by
  apply accounts.guarded (accounts.chained.moveToBack_works slot)
  · intro held found
    obtain ⟨moved, done, _⟩ := Relinked.moveToBack found
    exact ⟨_, by rw [done]; rfl⟩
  · intro error missing
    rw [accounts.chained.moveToBack_error missing]
    rfl

theorem replace_guarded (accounts : Accounts run.calls run.list cells) (slot : Nat) (value : α) :
    Guarded run slot (Work.replace slot value) (run.list.replace slot value) := by
  apply accounts.guarded (Chained.replace_works run.list slot value)
  · intro held found
    exact ⟨_, by rw [SlabList.replace, found]; rfl⟩
  · exact fun _ missing => replace_error missing value

theorem remove_guarded (accounts : Accounts run.calls run.list cells) (slot : Nat) :
    Guarded run slot (Work.remove slot) (run.list.remove slot) := by
  apply accounts.guarded (accounts.chained.remove_works slot)
  · intro held found
    exact ⟨_, by rw [SlabList.remove, found]; rfl⟩
  · exact fun _ missing => remove_error missing

end Accounts

/-- However calls follow each other, and whichever of them stop: a call for a slot stops exactly if
the slot was not handed out, or was taken back and not handed out again. It stops with one error in
the first case and another in the second, and leaves the list as it was. -/
theorem slot_calls_guarded (operations : List (Operation α)) (slot : Nat) :
    let run := attempts operations
    Guarded run slot (Work.value slot) ((run.list.value slot).map (·, run.list)) ∧
      Guarded run slot (Work.moveToFront slot) ((run.list.moveToFront slot).map (Prod.mk ())) ∧
      Guarded run slot (Work.moveToBack slot) ((run.list.moveToBack slot).map (Prod.mk ())) ∧
      (∀ value, Guarded run slot (Work.replace slot value) (run.list.replace slot value)) ∧
      Guarded run slot (Work.remove slot) (run.list.remove slot) := by
  intro run
  obtain ⟨cells, accounts⟩ := attempts_accounts operations
  exact ⟨accounts.value_guarded slot, accounts.moveToFront_guarded slot,
    accounts.moveToBack_guarded slot, accounts.replace_guarded slot, accounts.remove_guarded slot⟩

example :
    let list := (attempts [.pushBack "a" 1, .remove 0] : Run Nat).list
    list.remove 0 = .error (.vacant 0) ∧ list.remove 1 = .error (.unallocated 1 1) := by decide

end ReadThrough.SlabList
