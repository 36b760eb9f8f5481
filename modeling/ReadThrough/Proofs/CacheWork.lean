import ReadThrough.Proofs.CacheInvariant
import ReadThrough.Proofs.SlabWork

/-! The index and the list of a queue, and a cache that is changed in place. In every cache that
calls can lead to, the index of a queue leads to exactly the slots that hold a node, each under the
key of its node. In-place work on a cache stops where it hands a slot without a node to a list, even
if the list would not look there. On these caches it never stops, and it leaves what the calls
leave. -/

namespace ReadThrough

namespace SlabList

variable {α : Type}

theorem getElem?_of_mem_walk {list : SlabList α} {link : Node α → Option Nat} {steps slot : Nat}
    {start : Option Nat} {held : Node α} (member : (slot, held) ∈ list.walk link steps start) :
    list.slots[slot]? = some (some held) := by
  induction steps generalizing start with
  | zero => nomatch member
  | succ steps ih =>
    cases start with
    | none => nomatch member
    | some first =>
      unfold walk at member
      split at member
      next node found =>
        rcases List.mem_cons.mp member with same | later
        · obtain ⟨rfl, rfl⟩ := Prod.mk.inj same
          exact found
        · exact ih later
      next => nomatch member

/-- Work for a slot that holds a node comes to an end, and the nodes are chained again. -/
structure InPlace {β : Type} (list : SlabList α) (slot : Nat) (work : Work α β) (result : β)
    (after : SlabList α) : Prop where
  live : ∃ held, list.node slot = .ok held
  works : work list = .ok result after
  chained : ∃ cells, after.Chained cells

namespace Chained

variable {list moved : SlabList α} {cells : List (Cell α)} {held : Node α} {slot : Nat}

/-- The chain leads to every node that there is. -/
theorem mem_entries (chained : list.Chained cells) :
    (slot, held) ∈ list.entries ↔ list.node slot = .ok held := by
  constructor
  · intro member
    exact node_of_getElem? (getElem?_of_mem_walk member)
  · intro found
    have inside := (chained.room.live slot).mp (occupied_of_node found)
    rw [← chained.entries, slotsOf, List.map_map] at inside
    obtain ⟨⟨_, node⟩, member, rfl⟩ := List.mem_map.mp inside
    obtain rfl : node = held :=
      Except.ok.inj ((node_of_getElem? (getElem?_of_mem_walk member)).symm.trans found)
    exact member

theorem moveToFront_inPlace (chained : list.Chained cells)
    (done : list.moveToFront slot = .ok moved) :
    list.InPlace slot (Work.moveToFront slot) () moved := by
  -- The call does not look at a slot that is first already; that it holds a node is by the chain.
  have live : ∃ held, list.node slot = .ok held := by
    cases found : list.node slot with
    | error error => nomatch (chained.moveToFront_error found).symm.trans done
    | ok held => exact ⟨held, rfl⟩
  refine ⟨live, by rw [chained.moveToFront_works, done]; rfl, ?_⟩
  obtain ⟨cell, before, after, rfl, rfl⟩ := chained.cell_of_node live.choose_spec
  obtain ⟨_, again, kept⟩ := chained.moveToFront
  exact ⟨_, Except.ok.inj (again.symm.trans done) ▸ kept⟩

theorem moveToBack_inPlace (chained : list.Chained cells)
    (done : list.moveToBack slot = .ok moved) :
    list.InPlace slot (Work.moveToBack slot) () moved := by
  have live : ∃ held, list.node slot = .ok held := by
    cases found : list.node slot with
    | error error => nomatch (chained.moveToBack_error found).symm.trans done
    | ok held => exact ⟨held, rfl⟩
  refine ⟨live, by rw [chained.moveToBack_works, done]; rfl, ?_⟩
  obtain ⟨cell, before, after, rfl, rfl⟩ := chained.cell_of_node live.choose_spec
  obtain ⟨_, again, kept⟩ := chained.moveToBack
  exact ⟨_, Except.ok.inj (again.symm.trans done) ▸ kept⟩

theorem replace_inPlace {value old : α} (chained : list.Chained cells)
    (done : list.replace slot value = .ok (old, moved)) :
    list.InPlace slot (Work.replace slot value) old moved := by
  obtain ⟨held, found, _⟩ := exists_ok_of_bind done
  refine ⟨⟨held, found⟩, by rw [replace_works, done]; rfl, ?_⟩
  obtain ⟨cell, before, after, rfl, rfl⟩ := chained.cell_of_node found
  obtain ⟨_, again, kept⟩ := chained.replace value
  obtain ⟨_, rfl⟩ := Prod.mk.inj (Except.ok.inj (again.symm.trans done))
  exact ⟨_, kept⟩

theorem remove_inPlace {entry : String × α} (chained : list.Chained cells)
    (done : list.remove slot = .ok (entry, moved)) :
    list.InPlace slot (Work.remove slot) entry moved := by
  obtain ⟨held, found, _⟩ := exists_ok_of_bind done
  refine ⟨⟨held, found⟩, by rw [chained.remove_works, done]; rfl, ?_⟩
  obtain ⟨cell, before, after, rfl, rfl⟩ := chained.cell_of_node found
  obtain ⟨_, again, kept⟩ := chained.remove
  obtain ⟨_, rfl⟩ := Prod.mk.inj (Except.ok.inj (again.symm.trans done))
  exact ⟨_, kept⟩

end Chained

end SlabList

namespace Cache

open SlabList (Stop)

variable {α β : Type}

/-- The index and the list of a queue are inverse to each other. -/
structure Queue.Indexed (queue : Queue α) : Prop where
  found : ∀ key slot, queue.slot? key = some slot ↔
    ∃ node, queue.entries.node slot = .ok node ∧ node.key = key
  linked : ∀ slot node, (slot, node) ∈ queue.entries.entries ↔ queue.entries.node slot = .ok node
  size : queue.index.size = queue.entries.size

variable [ByteSized α]

theorem Queue.Holds.size_index {queue : Queue α} {cells : List (SlabList.Cell α)}
    (holds : queue.Holds cells) : queue.index.size = queue.entries.size := by
  have keys : queue.index.keys.Perm (cells.map (·.key)) := by
    refine (List.perm_ext_iff_of_nodup queue.index.nodup_keys holds.distinct).mpr fun key => ?_
    rw [Std.HashMap.mem_keys, Std.HashMap.mem_iff_isSome_getElem?, Option.isSome_iff_exists]
    have indexed := holds.indexed key
    unfold slot? at indexed
    simp only [indexed, List.mem_map, place, Prod.mk.injEq]
    constructor
    · rintro ⟨_, cell, member, rfl, _⟩
      exact ⟨cell, member, rfl⟩
    · rintro ⟨cell, member, rfl⟩
      exact ⟨_, cell, member, rfl, rfl⟩
  rw [← Std.HashMap.length_keys, keys.length_eq, List.length_map, holds.chained.room.size]

theorem Queue.Stores.indexed {queue : Queue α} {maxBytes : Nat} {entries : List (String × α)}
    (stores : queue.Stores maxBytes entries) : queue.Indexed := by
  obtain ⟨cells, holds, _, _⟩ := stores
  refine ⟨fun key slot => ?_, fun _ _ => holds.chained.mem_entries, holds.size_index⟩
  rw [holds.indexed]
  constructor
  · intro placed
    obtain ⟨cell, member, same⟩ := List.mem_map.mp placed
    obtain ⟨rfl, rfl⟩ := Prod.mk.inj same
    obtain ⟨before, after, rfl⟩ := List.append_of_mem member
    exact ⟨_, holds.chained.spine.node, rfl⟩
  · rintro ⟨node, found, rfl⟩
    obtain ⟨cell, before, after, rfl, rfl⟩ := holds.chained.cell_of_node found
    obtain rfl := Except.ok.inj (found.symm.trans holds.chained.spine.node)
    exact List.mem_map.mpr ⟨cell, by simp, rfl⟩

/-- Work on a queue that is changed in place. -/
abbrev Queue.Work (α β : Type) := EStateM Stop (Queue α) β

namespace Queue.Work

def onList (work : SlabList.Work α β) : Work α β := fun queue =>
  match work queue.entries with
  | .ok value entries => .ok value { queue with entries }
  | .error stop entries => .error stop { queue with entries }

/-- A call of the list for a slot, which has to hold a node whatever the call does. -/
def onSlot (slot : Nat) (call : SlabList.Work α β) : Work α β := do
  let _ ← onList (SlabList.Work.node slot)
  onList call

def giveBack (taken : Nat) : Work α Unit := do
  if taken ≤ (← getThe (Queue α)).usedBytes then
    modify fun queue => { queue with usedBytes := queue.usedBytes - taken }
  else throw .underflow

def pushFront (key : String) (value : α) : Work α Unit := do
  modify fun queue => { queue with usedBytes := queue.usedBytes + entrySize key value }
  let slot ← onList (SlabList.Work.pushFront key value)
  modify fun queue => { queue with index := queue.index.insert key slot }

def pushBack (key : String) (value : α) : Work α Unit := do
  modify fun queue => { queue with usedBytes := queue.usedBytes + entrySize key value }
  let slot ← onList (SlabList.Work.pushBack key value)
  modify fun queue => { queue with index := queue.index.insert key slot }

def value (slot : Nat) : Work α α :=
  onSlot slot ((·.value) <$> SlabList.Work.node slot)

def moveToFront (slot : Nat) : Work α Unit := onSlot slot (SlabList.Work.moveToFront slot)

def moveToBack (slot : Nat) : Work α Unit := onSlot slot (SlabList.Work.moveToBack slot)

def replace (slot : Nat) (value : α) : Work α Unit := do
  let old ← onSlot slot (SlabList.Work.replace slot value)
  giveBack (ByteSized.byteSize old)
  modify fun queue => { queue with usedBytes := queue.usedBytes + ByteSized.byteSize value }

def remove (slot : Nat) : Work α (String × α) := do
  let (key, value) ← onSlot slot (SlabList.Work.remove slot)
  modify fun queue => { queue with index := queue.index.erase key }
  giveBack (entrySize key value)
  return (key, value)

end Queue.Work

/-- The list of the queue chains its cells, whatever the index says. -/
def Queue.Linked (queue : Queue α) : Prop := ∃ cells, queue.entries.Chained cells

namespace Queue.Linked

open SlabList.Work (bind_ok map_ok node_ok outcome)

variable {queue moved : Queue α} {slot : Nat} {key : String} {value : α}

omit [ByteSized α] in
theorem onList {entries : SlabList α} {result : β} {work : SlabList.Work α β}
    (done : work queue.entries = .ok result entries) :
    Work.onList work queue = .ok result { queue with entries } := by
  simp only [Work.onList, done]

omit [ByteSized α] in
theorem onSlot {entries : SlabList α} {result : β} {call : SlabList.Work α β}
    (inPlace : queue.entries.InPlace slot call result entries) :
    Work.onSlot slot call queue = .ok result { queue with entries } := by
  obtain ⟨held, found⟩ := inPlace.live
  exact (bind_ok (onList (node_ok found)) _).trans (onList inPlace.works)

omit [ByteSized α] in
theorem giveBack {taken kept : Nat} (enough : release queue.usedBytes taken = .ok kept) :
    Work.giveBack taken queue = .ok () { queue with usedBytes := kept } := by
  unfold release at enough
  split at enough
  next within =>
    obtain rfl := Except.ok.inj enough
    exact (bind_ok rfl _).trans (by rw [if_pos within]; rfl)
  next => nomatch enough

theorem pushFront (linked : queue.Linked) (key : String) (value : α) :
    Work.pushFront key value queue = .ok () (queue.pushFront key value) ∧
      (queue.pushFront key value).Linked := by
  obtain ⟨cells, chained⟩ := linked
  let counted : Queue α := { queue with usedBytes := queue.usedBytes + entrySize key value }
  have pushed : Work.onList (SlabList.Work.pushFront key value) counted = .ok _ _ :=
    onList (chained.pushFront_works key value)
  exact ⟨(bind_ok rfl _).trans (bind_ok pushed _), _, chained.pushFront key value⟩

theorem pushBack (linked : queue.Linked) (key : String) (value : α) :
    Work.pushBack key value queue = .ok () (queue.pushBack key value) ∧
      (queue.pushBack key value).Linked := by
  obtain ⟨cells, chained⟩ := linked
  let counted : Queue α := { queue with usedBytes := queue.usedBytes + entrySize key value }
  have pushed : Work.onList (SlabList.Work.pushBack key value) counted = .ok _ _ :=
    onList (chained.pushBack_works key value)
  exact ⟨(bind_ok rfl _).trans (bind_ok pushed _), _, chained.pushBack key value⟩

omit [ByteSized α] in
theorem read (linked : queue.Linked) (done : queue.value slot = .ok value) :
    Work.value slot queue = .ok value queue := by
  have listed := eq_ok_of_mapError done
  unfold SlabList.value at listed
  cases found : queue.entries.node slot with
  | error error => rw [found] at listed; nomatch listed
  | ok held =>
    rw [found] at listed
    obtain rfl := Except.ok.inj listed
    exact onSlot ⟨⟨held, found⟩, map_ok (node_ok found) _, linked⟩

omit [ByteSized α] in
theorem moveToFront (linked : queue.Linked) (done : queue.moveToFront slot = .ok moved) :
    Work.moveToFront slot queue = .ok () moved ∧ moved.Linked := by
  obtain ⟨cells, chained⟩ := linked
  obtain ⟨entries, listed, same⟩ := exists_ok_of_bind done
  obtain rfl := Except.ok.inj same
  have inPlace := chained.moveToFront_inPlace (eq_ok_of_mapError listed)
  exact ⟨onSlot inPlace, inPlace.chained⟩

omit [ByteSized α] in
theorem moveToBack (linked : queue.Linked) (done : queue.moveToBack slot = .ok moved) :
    Work.moveToBack slot queue = .ok () moved ∧ moved.Linked := by
  obtain ⟨cells, chained⟩ := linked
  obtain ⟨entries, listed, same⟩ := exists_ok_of_bind done
  obtain rfl := Except.ok.inj same
  have inPlace := chained.moveToBack_inPlace (eq_ok_of_mapError listed)
  exact ⟨onSlot inPlace, inPlace.chained⟩

theorem replace (linked : queue.Linked) (done : queue.replace slot value = .ok moved) :
    Work.replace slot value queue = .ok () moved ∧ moved.Linked := by
  obtain ⟨cells, chained⟩ := linked
  obtain ⟨⟨old, entries⟩, listed, rest⟩ := exists_ok_of_bind done
  obtain ⟨kept, enough, same⟩ := exists_ok_of_bind rest
  obtain rfl := Except.ok.inj same
  have inPlace := chained.replace_inPlace (eq_ok_of_mapError listed)
  have returned : Work.giveBack (ByteSized.byteSize old) { queue with entries } = .ok () _ :=
    giveBack enough
  exact ⟨(bind_ok (onSlot inPlace) _).trans (bind_ok returned _), inPlace.chained⟩

theorem remove {entry : String × α} (linked : queue.Linked)
    (done : queue.remove slot = .ok (entry, moved)) :
    Work.remove slot queue = .ok entry moved ∧ moved.Linked := by
  obtain ⟨cells, chained⟩ := linked
  obtain ⟨⟨⟨key, value⟩, entries⟩, listed, rest⟩ := exists_ok_of_bind done
  obtain ⟨kept, enough, same⟩ := exists_ok_of_bind rest
  obtain ⟨rfl, rfl⟩ := Prod.mk.inj (Except.ok.inj same)
  have inPlace := chained.remove_inPlace (eq_ok_of_mapError listed)
  have returned : Work.giveBack (entrySize key value)
      { queue with entries, index := queue.index.erase key } = .ok () _ := giveBack enough
  exact ⟨(bind_ok (onSlot inPlace) _).trans ((bind_ok rfl _).trans (bind_ok returned _)),
    inPlace.chained⟩

end Queue.Linked

/-- Work on a cache that is changed in place. -/
abbrev Work (α β : Type) := EStateM Stop (Cache α) β

namespace Work

def onMain (work : Queue.Work α β) : Work α β := fun cache =>
  match work cache.main with
  | .ok value main => .ok value { cache with main }
  | .error stop main => .error stop { cache with main }

def onHistory (work : Queue.Work α β) : Work α β := fun cache =>
  match work cache.history with
  | .ok value history => .ok value { cache with history }
  | .error stop history => .error stop { cache with history }

def observe (key : String) : Work α Nat := do
  modify (·.observe key)
  return (← getThe (Cache α)).hits.getD key 0

def removeOldest : Work α (Evicted α) := do
  match (← getThe (Cache α)).main.entries.tail with
  | none => return []
  | some slot =>
    let entry ← onMain (Queue.Work.remove slot)
    return [entry]

def removeHistoryOldest : Work α (Evicted α) := do
  match (← getThe (Cache α)).history.entries.head with
  | none => return []
  | some slot =>
    let entry ← onHistory (Queue.Work.remove slot)
    modify fun cache => { cache with hits := cache.hits.erase entry.1 }
    return [entry]

/-- Calls `drop` while there is too much, at most `steps` times. -/
def trim (tooMuch : Cache α → Bool) (drop : Work α (Evicted α)) :
    (steps : Nat) → Work α (Evicted α)
  | 0 => return []
  | steps + 1 => do
    if tooMuch (← getThe (Cache α)) then
      let dropped ← drop
      let rest ← trim tooMuch drop steps
      return dropped ++ rest
    else return []

def evictMainOverflow : Work α (Evicted α) := do
  trim (·.main.overBudget) removeOldest (← getThe (Cache α)).size

def evictHistoryOverflow : Work α (Evicted α) := do
  trim (·.history.overBudget) removeHistoryOldest (← getThe (Cache α)).historySize

def promote (slot : Nat) : Work α (Evicted α) := do
  let (key, value) ← onHistory (Queue.Work.remove slot)
  modify fun cache => { cache with hits := cache.hits.erase key }
  onMain (Queue.Work.pushFront key value)
  evictMainOverflow

def lookUp (key : String) : Work α (Option α × Evicted α) := do
  match (← getThe (Cache α)).main.slot? key with
  | some slot =>
    onMain (Queue.Work.moveToFront slot)
    let value ← onMain (Queue.Work.value slot)
    return (some value, [])
  | none =>
    match (← getThe (Cache α)).history.slot? key with
    | none => return (none, [])
    | some slot =>
      let hits ← observe key
      let value ← onHistory (Queue.Work.value slot)
      if (← getThe (Cache α)).threshold ≤ hits then
        let dropped ← promote slot
        return (some value, dropped)
      else
        onHistory (Queue.Work.moveToBack slot)
        return (some value, [])

def enterHistory (key : String) (value : α) : Work α Unit := do
  match (← getThe (Cache α)).history.slot? key with
  | some slot =>
    onHistory (Queue.Work.replace slot value)
    onHistory (Queue.Work.moveToBack slot)
    let _ ← observe key
  | none =>
    onHistory (Queue.Work.pushBack key value)
    modify fun cache => { cache with hits := cache.hits.insert key 1 }

def promoteReady (key : String) : Work α (Evicted α) := do
  match (← getThe (Cache α)).history.slot? key with
  | some slot =>
    let hits := (← getThe (Cache α)).hits.getD key 0
    if (← getThe (Cache α)).threshold ≤ hits then promote slot else return []
  | none => return []

def add (key : String) (value : α) : Work α (Evicted α) := do
  match (← getThe (Cache α)).main.slot? key with
  | some slot =>
    onMain (Queue.Work.replace slot value)
    onMain (Queue.Work.moveToFront slot)
    evictMainOverflow
  | none =>
    enterHistory key value
    let dropped ← evictHistoryOverflow
    let overflow ← promoteReady key
    return dropped ++ overflow

def apply : Operation α → Work α (Option α × Evicted α)
  | .add key value => (none, ·) <$> add key value
  | .get key => lookUp key
  | .removeOldest => (none, ·) <$> removeOldest
  | .removeHistoryOldest => (none, ·) <$> removeHistoryOldest

def trace : List (Operation α) → Work α (List (Option α × Evicted α))
  | [] => return []
  | operation :: operations => do
    let outcome ← apply operation
    let outcomes ← trace operations
    return outcome :: outcomes

end Work

structure Linked (cache : Cache α) : Prop where
  main : cache.main.Linked
  history : cache.history.Linked

/-- Where the call succeeds on a linked cache, the work comes to the same and leaves a linked
cache. -/
def Carries (work : Work α β) (call : Cache α → Except Fault (β × Cache α)) : Prop :=
  ∀ ⦃cache value after⦄, cache.Linked → call cache = .ok (value, after) →
    work cache = .ok value after ∧ after.Linked

namespace Work

open SlabList.Work (bind_ok map_ok)

variable {cache : Cache α} {key : String} {value : α} {slot : Nat}

omit [ByteSized α] in
theorem onMain_ok {work : Queue.Work α β} {result : β} {main : Queue α}
    (done : work cache.main = .ok result main) :
    onMain work cache = .ok result { cache with main } := by
  simp only [onMain, done]

omit [ByteSized α] in
theorem onHistory_ok {work : Queue.Work α β} {result : β} {history : Queue α}
    (done : work cache.history = .ok result history) :
    onHistory work cache = .ok result { cache with history } := by
  simp only [onHistory, done]

theorem removeOldest_carries : Carries (removeOldest : Work α _) Cache.removeOldest := by
  intro cache dropped after linked done
  unfold Cache.removeOldest at done
  cases tail : cache.main.entries.tail with
  | none =>
    simp only [tail, Except.ok.injEq, Prod.mk.injEq] at done
    obtain ⟨rfl, rfl⟩ := done
    exact ⟨(bind_ok rfl _).trans (by rw [tail]; rfl), linked⟩
  | some slot =>
    rw [tail] at done
    obtain ⟨⟨entry, main⟩, removed, same⟩ := exists_ok_of_bind done
    obtain ⟨rfl, rfl⟩ := Prod.mk.inj (Except.ok.inj same)
    obtain ⟨worked, kept⟩ := linked.main.remove removed
    refine ⟨(bind_ok rfl _).trans ?_, kept, linked.history⟩
    rw [tail]
    exact bind_ok (onMain_ok worked) _

theorem removeHistoryOldest_carries :
    Carries (removeHistoryOldest : Work α _) Cache.removeHistoryOldest := by
  intro cache dropped after linked done
  unfold Cache.removeHistoryOldest at done
  cases head : cache.history.entries.head with
  | none =>
    simp only [head, Except.ok.injEq, Prod.mk.injEq] at done
    obtain ⟨rfl, rfl⟩ := done
    exact ⟨(bind_ok rfl _).trans (by rw [head]; rfl), linked⟩
  | some slot =>
    rw [head] at done
    obtain ⟨⟨entry, history⟩, removed, same⟩ := exists_ok_of_bind done
    obtain ⟨rfl, rfl⟩ := Prod.mk.inj (Except.ok.inj same)
    obtain ⟨worked, kept⟩ := linked.history.remove removed
    refine ⟨(bind_ok rfl _).trans ?_, linked.main, kept⟩
    rw [head]
    exact (bind_ok (onHistory_ok worked) _).trans (bind_ok rfl _)

omit [ByteSized α] in
theorem trim_carries {tooMuch : Cache α → Bool} {drop : Work α (Evicted α)}
    {dropped : Cache α → Except Fault (Evicted α × Cache α)} (drops : Carries drop dropped)
    {loop : Nat → Cache α → Except Fault (Evicted α × Cache α)}
    (zero : ∀ cache, loop 0 cache = .ok ([], cache))
    (succ : ∀ steps cache, loop (steps + 1) cache =
      if tooMuch cache then do
        let (dropped, cache) ← dropped cache
        let (rest, cache) ← loop steps cache
        return (dropped ++ rest, cache)
      else .ok ([], cache)) (steps : Nat) : Carries (trim tooMuch drop steps) (loop steps) := by
  induction steps with
  | zero =>
    intro cache items after linked done
    obtain ⟨rfl, rfl⟩ := Prod.mk.inj (Except.ok.inj ((zero cache).symm.trans done))
    exact ⟨rfl, linked⟩
  | succ steps ih =>
    intro cache items after linked done
    rw [succ] at done
    by_cases much : tooMuch cache = true
    · rw [if_pos much] at done
      obtain ⟨⟨first, next⟩, once, done⟩ := exists_ok_of_bind done
      obtain ⟨⟨rest, last⟩, again, same⟩ := exists_ok_of_bind done
      obtain ⟨rfl, rfl⟩ := Prod.mk.inj (Except.ok.inj same)
      obtain ⟨worked, kept⟩ := drops linked once
      obtain ⟨rested, settled⟩ := ih kept again
      refine ⟨(bind_ok rfl _).trans ?_, settled⟩
      rw [if_pos much]
      exact (bind_ok worked _).trans (bind_ok rested _)
    · rw [if_neg much] at done
      obtain ⟨rfl, rfl⟩ := Prod.mk.inj (Except.ok.inj done)
      exact ⟨(bind_ok rfl _).trans (by rw [if_neg much]; rfl), linked⟩

theorem evictMainOverflow_carries :
    Carries (evictMainOverflow : Work α _) Cache.evictMainOverflow := by
  intro cache dropped after linked done
  have trims : Carries (trim (fun cache : Cache α => cache.main.overBudget) removeOldest cache.size)
      (trimMain cache.size) :=
    trim_carries removeOldest_carries (fun _ => rfl) (fun _ _ => rfl) cache.size
  obtain ⟨worked, kept⟩ := trims linked done
  exact ⟨(bind_ok rfl _).trans worked, kept⟩

theorem evictHistoryOverflow_carries :
    Carries (evictHistoryOverflow : Work α _) Cache.evictHistoryOverflow := by
  intro cache dropped after linked done
  have trims : Carries (trim (fun cache : Cache α => cache.history.overBudget) removeHistoryOldest
      cache.historySize) (trimHistory cache.historySize) :=
    trim_carries removeHistoryOldest_carries (fun _ => rfl) (fun _ _ => rfl) cache.historySize
  obtain ⟨worked, kept⟩ := trims linked done
  exact ⟨(bind_ok rfl _).trans worked, kept⟩

theorem promote_carries (slot : Nat) :
    Carries (promote slot : Work α _) (Cache.promote · slot) := by
  intro cache dropped after linked done
  obtain ⟨⟨⟨key, value⟩, history⟩, removed, done⟩ := exists_ok_of_bind done
  obtain ⟨taken, left⟩ := linked.history.remove removed
  obtain ⟨pushed, entered⟩ := linked.main.pushFront key value
  obtain ⟨trimmed, kept⟩ := evictMainOverflow_carries ⟨entered, left⟩ done
  have moved : onMain (Queue.Work.pushFront key value)
      { cache with history, hits := cache.hits.erase key } = .ok () _ := onMain_ok pushed
  refine ⟨(bind_ok (onHistory_ok taken) _).trans ((bind_ok rfl _).trans ?_), kept⟩
  exact (bind_ok moved _).trans trimmed

/-- A waiting key is counted and read before it goes on. -/
theorem lookUp_of_waiting (inMain : cache.main.slot? key = none)
    (inHistory : cache.history.slot? key = some slot)
    (got : onHistory (Queue.Work.value slot) (cache.observe key) =
      .ok value (cache.observe key)) :
    lookUp key cache =
      (if cache.threshold ≤ (cache.observe key).hits.getD key 0 then do
        let dropped ← promote slot
        return (some value, dropped)
      else do
        onHistory (Queue.Work.moveToBack slot)
        return (some value, [])) (cache.observe key) := by
  refine (bind_ok rfl _).trans ?_
  rw [inMain]
  refine (bind_ok rfl _).trans ?_
  rw [inHistory]
  exact (bind_ok rfl _).trans ((bind_ok got _).trans (bind_ok rfl _))

theorem lookUp_ok {result : Option α} {dropped : Evicted α} {after : Cache α}
    (linked : cache.Linked) (done : cache.get key = .ok (result, dropped, after)) :
    lookUp key cache = .ok (result, dropped) after ∧ after.Linked := by
  unfold Cache.get at done
  cases inMain : cache.main.slot? key with
  | some slot =>
    rw [inMain] at done
    obtain ⟨main, moved, done⟩ := exists_ok_of_bind done
    obtain ⟨value, read, same⟩ := exists_ok_of_bind done
    obtain ⟨rfl, rfl, rfl⟩ := Prod.mk.inj (Except.ok.inj same) |>.imp_right Prod.mk.inj
    obtain ⟨worked, kept⟩ := linked.main.moveToFront moved
    have got : onMain (Queue.Work.value slot) { cache with main } = .ok value { cache with main } :=
      onMain_ok (kept.read read)
    refine ⟨(bind_ok rfl _).trans ?_, kept, linked.history⟩
    rw [inMain]
    exact (bind_ok (onMain_ok worked) _).trans (bind_ok got _)
  | none =>
    cases inHistory : cache.history.slot? key with
    | none =>
      simp only [inMain, inHistory, Except.ok.injEq, Prod.mk.injEq] at done
      obtain ⟨rfl, rfl, rfl⟩ := done
      refine ⟨(bind_ok rfl _).trans ?_, linked⟩
      rw [inMain]
      exact (bind_ok rfl _).trans (by rw [inHistory]; rfl)
    | some slot =>
      simp only [inMain, inHistory] at done
      obtain ⟨value, read, done⟩ := exists_ok_of_bind done
      have got : onHistory (Queue.Work.value slot) (cache.observe key) =
          .ok value (cache.observe key) := onHistory_ok (linked.history.read read)
      rw [lookUp_of_waiting inMain inHistory got]
      by_cases ready : cache.threshold ≤ (cache.observe key).hits.getD key 0
      · rw [if_pos (by exact ready)] at done
        obtain ⟨⟨out, promoted⟩, moved, same⟩ := exists_ok_of_bind done
        obtain ⟨rfl, rfl, rfl⟩ := Prod.mk.inj (Except.ok.inj same) |>.imp_right Prod.mk.inj
        have observed : (cache.observe key).Linked := ⟨linked.main, linked.history⟩
        obtain ⟨worked, kept⟩ := promote_carries slot observed moved
        refine ⟨?_, kept⟩
        rw [if_pos ready]
        exact bind_ok worked _
      · rw [if_neg (by exact ready)] at done
        obtain ⟨history, moved, same⟩ := exists_ok_of_bind done
        obtain ⟨rfl, rfl, rfl⟩ := Prod.mk.inj (Except.ok.inj same) |>.imp_right Prod.mk.inj
        obtain ⟨worked, kept⟩ := linked.history.moveToBack moved
        have passed : onHistory (Queue.Work.moveToBack slot) (cache.observe key) = .ok () _ :=
          onHistory_ok worked
        refine ⟨?_, linked.main, kept⟩
        rw [if_neg ready]
        exact bind_ok passed _

theorem enterHistory_ok {after : Cache α} (linked : cache.Linked)
    (done : cache.enterHistory key value = .ok after) :
    enterHistory key value cache = .ok () after ∧ after.Linked := by
  unfold Cache.enterHistory at done
  cases found : cache.history.slot? key with
  | none =>
    rw [found] at done
    obtain rfl := Except.ok.inj done
    obtain ⟨pushed, kept⟩ := linked.history.pushBack key value
    refine ⟨(bind_ok rfl _).trans ?_, linked.main, kept⟩
    rw [found]
    exact bind_ok (onHistory_ok pushed) _
  | some slot =>
    rw [found] at done
    obtain ⟨replaced, written, done⟩ := exists_ok_of_bind done
    obtain ⟨history, moved, same⟩ := exists_ok_of_bind done
    obtain rfl := Except.ok.inj same
    obtain ⟨rewritten, stored⟩ := linked.history.replace written
    obtain ⟨worked, kept⟩ := stored.moveToBack moved
    have passed : onHistory (Queue.Work.moveToBack slot) { cache with history := replaced } =
        .ok () _ := onHistory_ok worked
    refine ⟨(bind_ok rfl _).trans ?_, linked.main, kept⟩
    rw [found]
    exact (bind_ok (onHistory_ok rewritten) _).trans (bind_ok passed _)

theorem promoteReady_carries (key : String) :
    Carries (promoteReady key : Work α _) (Cache.promoteReady · key) := by
  intro cache dropped after linked done
  unfold Cache.promoteReady at done
  cases found : cache.history.slot? key with
  | none =>
    simp only [found, Except.ok.injEq, Prod.mk.injEq] at done
    obtain ⟨rfl, rfl⟩ := done
    exact ⟨(bind_ok rfl _).trans (by rw [found]; rfl), linked⟩
  | some slot =>
    simp only [found] at done
    have reached : promoteReady key cache =
        (if cache.threshold ≤ cache.hits.getD key 0 then promote slot else pure []) cache := by
      refine (bind_ok rfl _).trans ?_
      rw [found]
      rfl
    rw [reached]
    split at done
    next ready =>
      rw [if_pos ready]
      exact promote_carries slot linked done
    next early =>
      rw [if_neg early]
      obtain ⟨rfl, rfl⟩ := Prod.mk.inj (Except.ok.inj done)
      exact ⟨rfl, linked⟩

theorem add_carries (key : String) (value : α) :
    Carries (add key value : Work α _) (Cache.add · key value) := by
  intro cache dropped after linked done
  change cache.add key value = .ok (dropped, after) at done
  unfold Cache.add at done
  cases found : cache.main.slot? key with
  | some slot =>
    rw [found] at done
    obtain ⟨replaced, written, done⟩ := exists_ok_of_bind done
    obtain ⟨main, moved, done⟩ := exists_ok_of_bind done
    obtain ⟨rewritten, stored⟩ := linked.main.replace written
    obtain ⟨worked, kept⟩ := stored.moveToFront moved
    have passed : onMain (Queue.Work.moveToFront slot) { cache with main := replaced } =
        .ok () _ := onMain_ok worked
    have entered : Linked { cache with main } := ⟨kept, linked.history⟩
    obtain ⟨trimmed, settled⟩ := evictMainOverflow_carries entered done
    refine ⟨(bind_ok rfl _).trans ?_, settled⟩
    rw [found]
    exact (bind_ok (onMain_ok rewritten) _).trans ((bind_ok passed _).trans trimmed)
  | none =>
    rw [found] at done
    obtain ⟨entered, waits, done⟩ := exists_ok_of_bind done
    obtain ⟨⟨first, trimmed⟩, trims, done⟩ := exists_ok_of_bind done
    obtain ⟨⟨rest, promoted⟩, promotes, same⟩ := exists_ok_of_bind done
    obtain ⟨rfl, rfl⟩ := Prod.mk.inj (Except.ok.inj same)
    obtain ⟨entering, waiting⟩ := enterHistory_ok linked waits
    obtain ⟨trimming, within⟩ := evictHistoryOverflow_carries waiting trims
    obtain ⟨promoting, settled⟩ := promoteReady_carries key within promotes
    refine ⟨(bind_ok rfl _).trans ?_, settled⟩
    rw [found]
    exact (bind_ok entering _).trans ((bind_ok trimming _).trans (bind_ok promoting _))

omit [ByteSized α] in
/-- Work that hands no value back. -/
theorem silent {work : Work α (Evicted α)} {call : Cache α → Except Fault (Evicted α × Cache α)}
    {result : Option α} {dropped : Evicted α} {after : Cache α} (carries : Carries work call)
    (linked : cache.Linked)
    (done : (call cache).map (fun (dropped, cache) => (none, dropped, cache)) =
      .ok (result, dropped, after)) :
    ((none, ·) <$> work : Work α (Option α × Evicted α)) cache = .ok (result, dropped) after ∧
      after.Linked := by
  cases called : call cache with
  | error fault => rw [called] at done; nomatch done
  | ok outcome =>
    rw [called] at done
    obtain ⟨rfl, rfl, rfl⟩ := Prod.mk.inj (Except.ok.inj done) |>.imp_right Prod.mk.inj
    obtain ⟨worked, kept⟩ := carries linked called
    exact ⟨map_ok worked _, kept⟩

theorem apply_ok {result : Option α} {dropped : Evicted α} {after : Cache α}
    {operation : Operation α} (linked : cache.Linked)
    (done : cache.apply operation = .ok (result, dropped, after)) :
    apply operation cache = .ok (result, dropped) after ∧ after.Linked := by
  cases operation with
  | add key value => exact silent (add_carries key value) linked done
  | get key => exact lookUp_ok linked done
  | removeOldest => exact silent removeOldest_carries linked done
  | removeHistoryOldest => exact silent removeHistoryOldest_carries linked done

theorem trace_ok {operations : List (Operation α)} {outcomes : List (Option α × Evicted α)}
    {after : Cache α} (linked : cache.Linked)
    (done : cache.trace operations = .ok (outcomes, after)) :
    trace operations cache = .ok outcomes after := by
  induction operations generalizing cache outcomes with
  | nil =>
    obtain ⟨rfl, rfl⟩ := Prod.mk.inj (Except.ok.inj done)
    rfl
  | cons operation operations ih =>
    obtain ⟨⟨result, dropped, next⟩, applied, done⟩ := exists_ok_of_bind done
    obtain ⟨⟨others, last⟩, rest, same⟩ := exists_ok_of_bind done
    obtain ⟨rfl, rfl⟩ := Prod.mk.inj (Except.ok.inj same)
    obtain ⟨worked, kept⟩ := apply_ok linked applied
    exact (bind_ok worked _).trans (bind_ok (ih kept rest) _)

end Work

omit [ByteSized α] in
theorem new_linked (maxBytes historyMaxBytes threshold : Nat) :
    (new maxBytes historyMaxBytes threshold : Cache α).Linked :=
  ⟨⟨[], SlabList.empty_chained⟩, ⟨[], SlabList.empty_chained⟩⟩

/-- After any calls on a new cache the index and the list of each queue are inverse to each other,
and the same calls in place come through: each slot that they hand to a list holds a node there,
no node is missing, and they answer, drop and leave the same. -/
theorem index_inverse (maxBytes historyMaxBytes threshold : Nat)
    (operations : List (Operation α)) :
    ∃ outcomes cache, (new maxBytes historyMaxBytes threshold).trace operations =
        .ok (outcomes, cache) ∧
      cache.main.Indexed ∧ cache.history.Indexed ∧
      Work.trace operations (new maxBytes historyMaxBytes threshold) = .ok outcomes cache := by
  obtain ⟨cache, done, represents⟩ := trace_new maxBytes historyMaxBytes threshold operations
  exact ⟨_, cache, done, represents.main.indexed, represents.history.indexed,
    Work.trace_ok (new_linked maxBytes historyMaxBytes threshold) done⟩

end Cache

end ReadThrough
