import ReadThrough.Proofs.EntryLists
import ReadThrough.Proofs.SlabChain

/-! A queue is a list of entries. Its index finds the slot of every key it holds and of no
other, its byte count is the weight of what it holds, and every operation on an indexed slot
succeeds, so the count is never asked for more than it has. -/

namespace ReadThrough

section

variable {ε δ α β : Type}

theorem exists_ok_of_bind {first : Except ε α} {rest : α → Except ε β} {result : β}
    (done : first >>= rest = .ok result) :
    ∃ value, first = .ok value ∧ rest value = .ok result := by
  cases first with
  | error error => nomatch done
  | ok value => exact ⟨value, rfl, done⟩

theorem eq_ok_of_mapError {result : Except ε α} {change : ε → δ} {value : α}
    (done : result.mapError change = .ok value) : result = .ok value := by
  cases result with
  | error error => nomatch done
  | ok value => exact congrArg Except.ok (Except.ok.inj done)

end

namespace Cache.Queue
open SlabList (Cell)

variable {α : Type} [ByteSized α]

def place (cell : Cell α) : String × Nat := (cell.key, cell.slot)

/-- The slab list of the queue runs through these cells, and the index and the byte count
agree with them. -/
structure Holds (queue : Queue α) (cells : List (Cell α)) : Prop where
  chained : queue.entries.Chained cells
  distinct : (cells.map (·.key)).Nodup
  indexed : ∀ key slot, queue.slot? key = some slot ↔ (key, slot) ∈ cells.map place
  counted : queue.usedBytes = weight (cells.map Cell.entry)

/-- The queue as its callers know it, by the entries from front to back. -/
def Stores (queue : Queue α) (maxBytes : Nat) (entries : List (String × α)) : Prop :=
  ∃ cells, queue.Holds cells ∧ cells.map Cell.entry = entries ∧ queue.maxBytes = maxBytes

variable {queue changed : Queue α} {cells moved before after : List (Cell α)} {cell : Cell α}
  {maxBytes slot : Nat} {entries : List (String × α)} {key : String} {held : α}

theorem empty_stores (maxBytes : Nat) : ({ maxBytes } : Queue α).Stores maxBytes [] :=
  ⟨[], ⟨SlabList.empty_chained, List.nodup_nil, by simp [slot?], rfl⟩, rfl, rfl⟩

theorem release_eq_ok {held taken : Nat} (enough : taken ≤ held) :
    release held taken = .ok (held - taken) := if_pos enough

namespace Holds

omit [ByteSized α] in
theorem keys_places (cells : List (Cell α)) : cells.map (·.key) = (cells.map place).map (·.1) := by
  simp [place]

/-- Cells that keep their keys and slots need no change of the index. -/
theorem rearrange (holds : queue.Holds cells) (chained : changed.entries.Chained moved)
    (places : (moved.map place).Perm (cells.map place)) (index : changed.index = queue.index)
    (counted : changed.usedBytes = weight (moved.map Cell.entry)) : changed.Holds moved where
  chained := chained
  distinct := by
    have distinct := holds.distinct
    rw [keys_places] at distinct ⊢
    exact ((places.map _).nodup_iff).mpr distinct
  indexed key slot := by
    rw [slot?, index, ← slot?, holds.indexed, places.mem_iff]
  counted := counted

/-- A new key is indexed together with its slot. -/
theorem insert (holds : queue.Holds cells) (chained : changed.entries.Chained moved)
    (absent : cell.key ∉ cells.map (·.key)) (reordered : moved.Perm (cell :: cells))
    (index : changed.index = queue.index.insert cell.key cell.slot)
    (counted : changed.usedBytes = queue.usedBytes + charge cell.entry) : changed.Holds moved where
  chained := chained
  distinct := by
    rw [(reordered.map _).nodup_iff]
    exact List.nodup_cons.mpr ⟨absent, holds.distinct⟩
  indexed key slot := by
    have old := holds.indexed key slot
    rw [slot?] at old
    rw [slot?, index, (reordered.map place).mem_iff, Std.HashMap.getElem?_insert]
    have unplaced : ∀ other, (cell.key, other) ∉ cells.map place := fun other member =>
      absent (by rw [keys_places]; exact List.mem_map_of_mem member)
    simp only [List.map_cons, List.mem_cons, place, Prod.mk.injEq, beq_iff_eq]
    grind
  counted := by
    rw [counted, holds.counted, weight_perm (reordered.map _), List.map_cons, weight_cons, Nat.add_comm]

/-- A dropped key is taken out of the index. -/
theorem erase (holds : queue.Holds (before ++ cell :: after))
    (chained : changed.entries.Chained (before ++ after))
    (index : changed.index = queue.index.erase cell.key)
    (counted : changed.usedBytes = queue.usedBytes - charge cell.entry) :
    changed.Holds (before ++ after) where
  chained := chained
  distinct := by
    have distinct := holds.distinct
    simp only [List.map_append, List.map_cons, List.nodup_middle, List.nodup_cons] at distinct
    simpa using distinct.2
  indexed key slot := by
    have old := holds.indexed key slot
    have distinct := holds.distinct
    simp only [keys_places, List.map_append, List.map_cons, List.nodup_middle,
      List.nodup_cons] at distinct
    rw [slot?] at old
    rw [slot?, index, Std.HashMap.getElem?_erase]
    have unplaced : ∀ other, (cell.key, other) ∉ (before ++ after).map place := fun other member =>
      distinct.1 (by rw [← List.map_append, ← List.map_append]; exact List.mem_map_of_mem member)
    simp only [List.map_append, List.map_cons, List.mem_append, List.mem_cons, place, Prod.mk.injEq,
      beq_iff_eq] at old unplaced ⊢
    grind
  counted := by
    rw [counted, holds.counted]
    simp only [List.map_append, List.map_cons, weight_append, weight_cons]
    omega

end Holds

namespace Stores

theorem contents (stores : queue.Stores maxBytes entries) : queue.entries.contents = entries := by
  obtain ⟨cells, holds, rfl, _⟩ := stores
  exact holds.chained.contents

theorem size (stores : queue.Stores maxBytes entries) : queue.entries.size = entries.length := by
  obtain ⟨cells, holds, rfl, _⟩ := stores
  simpa using holds.chained.room.size

theorem usedBytes (stores : queue.Stores maxBytes entries) : queue.usedBytes = weight entries := by
  obtain ⟨cells, holds, rfl, _⟩ := stores
  exact holds.counted

theorem overBudget (stores : queue.Stores maxBytes entries) :
    queue.overBudget = exceeds maxBytes (weight entries) := by
  rw [← stores.usedBytes]
  obtain ⟨_, _, _, rfl⟩ := stores
  rfl

theorem distinct (stores : queue.Stores maxBytes entries) : (entries.map (·.1)).Nodup := by
  obtain ⟨cells, holds, rfl, _⟩ := stores
  simpa [Cell.entry, Function.comp_def] using holds.distinct

/-- An indexed slot belongs to one cell of the chain, and the other cells are the entries of
the other keys. -/
theorem split (stores : queue.Stores maxBytes entries) (found : queue.slot? key = some slot) :
    ∃ before held after, queue.Holds (before ++ ⟨slot, key, held⟩ :: after) ∧
      entries.lookup key = some held ∧
      without key entries = (before ++ after).map Cell.entry ∧ queue.maxBytes = maxBytes := by
  have distinct := stores.distinct
  obtain ⟨cells, holds, rfl, budget⟩ := stores
  obtain ⟨cell, member, placed⟩ := List.mem_map.mp ((holds.indexed key slot).mp found)
  obtain ⟨before, after, rfl⟩ := List.append_of_mem member
  obtain ⟨rfl, rfl⟩ := Prod.mk.inj placed
  rw [List.map_append, List.map_cons, Cell.entry] at distinct ⊢
  exact ⟨before, cell.value, after, holds, lookup_middle distinct,
    by rw [without_middle distinct, List.map_append], budget⟩

theorem lookup (stores : queue.Stores maxBytes entries) (found : queue.slot? key = some slot) :
    ∃ held, entries.lookup key = some held := by
  obtain ⟨_, held, _, _, same, _⟩ := stores.split found
  exact ⟨held, same⟩

theorem locate (stores : queue.Stores maxBytes entries) (found : queue.slot? key = some slot)
    (same : entries.lookup key = some held) :
    ∃ before after, queue.Holds (before ++ ⟨slot, key, held⟩ :: after) ∧
      without key entries = (before ++ after).map Cell.entry ∧ queue.maxBytes = maxBytes := by
  obtain ⟨before, other, after, holds, valued, others, budget⟩ := stores.split found
  obtain rfl := Option.some.inj (same.symm.trans valued)
  exact ⟨before, after, holds, others, budget⟩

theorem slot?_eq_none (stores : queue.Stores maxBytes entries) :
    queue.slot? key = none ↔ entries.lookup key = none := by
  constructor
  · intro missing
    obtain ⟨cells, holds, rfl, _⟩ := stores
    rw [lookup_eq_none, List.map_map]
    intro member
    obtain ⟨cell, inside, rfl⟩ := List.mem_map.mp member
    have found := (holds.indexed cell.key cell.slot).mpr (List.mem_map_of_mem inside)
    simp [Cell.entry, found] at missing
  · intro missing
    cases found : queue.slot? key with
    | none => rfl
    | some slot =>
      obtain ⟨held, same⟩ := stores.lookup found
      simp [same] at missing

theorem keys (stores : queue.Stores maxBytes entries) :
    queue.entries.keys = entries.map (·.1) := by
  rw [← stores.contents, SlabList.contents, List.map_map]
  rfl

theorem contains (stores : queue.Stores maxBytes entries) :
    queue.contains key = true ↔ key ∈ entries.map (·.1) := by
  have missing : queue.slot? key = none ↔ _ := stores.slot?_eq_none
  rw [lookup_eq_none, slot?] at missing
  rw [Queue.contains, Std.HashMap.contains_eq_isSome_getElem?, Option.isSome_iff_ne_none, ne_eq,
    missing, not_not]

theorem value (stores : queue.Stores maxBytes entries) (found : queue.slot? key = some slot)
    (same : entries.lookup key = some held) : queue.value slot = .ok held := by
  obtain ⟨before, after, holds, _⟩ := stores.locate found same
  rw [Queue.value, holds.chained.value]
  rfl

theorem moveToFront (stores : queue.Stores maxBytes entries) (found : queue.slot? key = some slot)
    (same : entries.lookup key = some held) :
    ∃ moved, queue.moveToFront slot = .ok moved ∧
      moved.Stores maxBytes ((key, held) :: without key entries) ∧ moved.slot? key = some slot := by
  obtain ⟨before, after, holds, others, budget⟩ := stores.locate found same
  obtain ⟨moved, done, chained⟩ := holds.chained.moveToFront
  have reordered : ((⟨slot, key, held⟩ : Cell α) :: (before ++ after)).Perm
      (before ++ ⟨slot, key, held⟩ :: after) := List.perm_middle.symm
  refine ⟨{ queue with entries := moved }, by rw [Queue.moveToFront, done]; rfl,
    ⟨_, holds.rearrange chained (reordered.map place) rfl ?_, by rw [others]; rfl, budget⟩, found⟩
  rw [holds.counted]
  exact weight_perm (reordered.symm.map Cell.entry)

theorem moveToBack (stores : queue.Stores maxBytes entries) (found : queue.slot? key = some slot)
    (same : entries.lookup key = some held) :
    ∃ moved, queue.moveToBack slot = .ok moved ∧
      moved.Stores maxBytes (without key entries ++ [(key, held)]) := by
  obtain ⟨before, after, holds, others, budget⟩ := stores.locate found same
  obtain ⟨moved, done, chained⟩ := holds.chained.moveToBack
  have reordered :=
    (List.perm_append_singleton (⟨slot, key, held⟩ : Cell α) (before ++ after)).trans List.perm_middle.symm
  refine ⟨{ queue with entries := moved }, by rw [Queue.moveToBack, done]; rfl,
    _, holds.rearrange chained (reordered.map place) rfl ?_, by rw [others, List.map_append]; rfl, budget⟩
  rw [holds.counted]
  exact weight_perm (reordered.symm.map Cell.entry)

/-- A new value for a key that is held; only the entry of that key changes. -/
theorem replace (stores : queue.Stores maxBytes entries) (found : queue.slot? key = some slot)
    (value : α) :
    ∃ replaced revalued, queue.replace slot value = .ok replaced ∧
      replaced.Stores maxBytes revalued ∧ replaced.slot? key = some slot ∧
      revalued.lookup key = some value ∧ without key revalued = without key entries := by
  obtain ⟨before, old, after, holds, _, others, budget⟩ := stores.split found
  obtain ⟨replaced, done, chained⟩ := holds.chained.replace value
  have counted := holds.counted
  simp only [List.map_append, List.map_cons, weight_append, weight_cons, charge, entrySize,
    Cell.entry] at counted
  have enough : ByteSized.byteSize old ≤ queue.usedBytes := by omega
  let changed : Queue α := { queue with
    entries := replaced
    usedBytes := queue.usedBytes - ByteSized.byteSize old + ByteSized.byteSize value }
  have kept : changed.Holds (before ++ ⟨slot, key, value⟩ :: after) := by
    refine holds.rearrange chained ?_ rfl ?_
    · simp [place]
    · simp only [changed, List.map_append, List.map_cons, weight_append, weight_cons, charge,
        entrySize, Cell.entry]
      omega
  have distinct :
      ((before.map Cell.entry ++ (key, value) :: after.map Cell.entry).map (·.1)).Nodup := by
    simpa [Cell.entry, Function.comp_def] using kept.distinct
  refine ⟨changed, before.map Cell.entry ++ (key, value) :: after.map Cell.entry, ?_,
    ⟨_, kept, by simp [Cell.entry], budget⟩, found, lookup_middle distinct, ?_⟩
  · simp only [Queue.replace, done, Except.mapError, bind, Except.bind, release_eq_ok enough]
    rfl
  · rw [without_middle distinct, others, List.map_append]

theorem remove (stores : queue.Stores maxBytes entries) (found : queue.slot? key = some slot)
    (same : entries.lookup key = some held) :
    ∃ removed, queue.remove slot = .ok ((key, held), removed) ∧
      removed.Stores maxBytes (without key entries) := by
  obtain ⟨before, after, holds, others, budget⟩ := stores.locate found same
  obtain ⟨removed, done, chained⟩ := holds.chained.remove
  have enough : entrySize key held ≤ queue.usedBytes := by
    rw [holds.counted]
    simp only [List.map_append, List.map_cons, weight_append, weight_cons, charge, Cell.entry]
    omega
  refine ⟨{ queue with
      entries := removed
      index := queue.index.erase key
      usedBytes := queue.usedBytes - entrySize key held }, ?_,
    _, holds.erase chained rfl rfl, others.symm, budget⟩
  simp only [Queue.remove, done, Except.mapError, bind, Except.bind, Cell.entry, release_eq_ok enough]
  rfl

theorem pushFront (stores : queue.Stores maxBytes entries) (absent : entries.lookup key = none)
    (value : α) : (queue.pushFront key value).Stores maxBytes ((key, value) :: entries) := by
  obtain ⟨cells, holds, rfl, budget⟩ := stores
  have chained := holds.chained.pushFront key value
  rw [lookup_eq_none, List.map_map] at absent
  exact ⟨_, holds.insert chained absent (List.Perm.refl _) rfl rfl, rfl, budget⟩

theorem pushBack (stores : queue.Stores maxBytes entries) (absent : entries.lookup key = none)
    (value : α) : (queue.pushBack key value).Stores maxBytes (entries ++ [(key, value)]) := by
  obtain ⟨cells, holds, rfl, budget⟩ := stores
  have chained := holds.chained.pushBack key value
  rw [lookup_eq_none, List.map_map] at absent
  exact ⟨_, holds.insert chained absent (List.perm_append_singleton _ _) rfl rfl,
    by rw [List.map_append]; rfl, budget⟩

theorem tail_eq_none (stores : queue.Stores maxBytes entries) :
    queue.entries.tail = none ↔ entries = [] := by
  obtain ⟨cells, holds, rfl, _⟩ := stores
  rw [holds.chained.spine.tail, SlabList.lastSlot]
  simp [SlabList.slotsOf]

theorem head_eq_none (stores : queue.Stores maxBytes entries) :
    queue.entries.head = none ↔ entries = [] := by
  obtain ⟨cells, holds, rfl, _⟩ := stores
  rw [holds.chained.spine.head, SlabList.firstSlot]
  simp [SlabList.slotsOf]

/-- The slot at the end of the chain is the one of the last entry. -/
theorem slot?_last (stores : queue.Stores maxBytes (entries ++ [(key, held)])) :
    queue.slot? key = queue.entries.tail := by
  obtain ⟨cells, holds, same, _⟩ := stores
  obtain ⟨before, last, rfl, _, lastSame⟩ := List.map_eq_append_iff.mp same
  obtain ⟨cell, rfl, carried⟩ := List.map_eq_singleton_iff.mp lastSame
  obtain ⟨rfl, rfl⟩ := Prod.mk.inj carried
  rw [holds.chained.spine.tail, SlabList.lastSlot_append, SlabList.lastSlot_singleton, Option.some_or,
    holds.indexed]
  exact List.mem_map_of_mem (by simp)

/-- The slot at the start of the chain is the one of the first entry. -/
theorem slot?_first (stores : queue.Stores maxBytes ((key, held) :: entries)) :
    queue.slot? key = queue.entries.head := by
  obtain ⟨cells, holds, same, _⟩ := stores
  obtain ⟨cell, rest, rfl, carried, _⟩ := List.map_eq_cons_iff.mp same
  obtain ⟨rfl, rfl⟩ := Prod.mk.inj carried
  rw [holds.chained.spine.head, SlabList.firstSlot_cons, holds.indexed]
  exact List.mem_map_of_mem (by simp)

theorem removeLast (stores : queue.Stores maxBytes (entries ++ [(key, held)])) :
    ∃ slot removed, queue.entries.tail = some slot ∧
      queue.remove slot = .ok ((key, held), removed) ∧ removed.Stores maxBytes entries := by
  have distinct := stores.distinct
  cases last : queue.entries.tail with
  | none => exact absurd (stores.tail_eq_none.mp last) (by simp)
  | some slot =>
    obtain ⟨removed, done, kept⟩ :=
      stores.remove (stores.slot?_last.trans last) (lookup_middle distinct)
    rw [without_middle distinct, List.append_nil] at kept
    exact ⟨slot, removed, rfl, done, kept⟩

theorem removeFirst (stores : queue.Stores maxBytes ((key, held) :: entries)) :
    ∃ slot removed, queue.entries.head = some slot ∧
      queue.remove slot = .ok ((key, held), removed) ∧ removed.Stores maxBytes entries := by
  have distinct := stores.distinct
  cases first : queue.entries.head with
  | none => exact absurd (stores.head_eq_none.mp first) (by simp)
  | some slot =>
    obtain ⟨removed, done, kept⟩ :=
      stores.remove (stores.slot?_first.trans first) List.lookup_cons_self
    rw [← List.nil_append ((key, held) :: entries), without_middle distinct, List.nil_append] at kept
    exact ⟨slot, removed, rfl, done, kept⟩

end Stores

end Cache.Queue

end ReadThrough
