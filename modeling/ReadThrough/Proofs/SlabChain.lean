import ReadThrough.Proofs.SlabSegment
import Mathlib.Data.List.Induction

/-! A slab list is a plain sequence of cells. `Spine` says that the links run through the cells
in order, `Room` that the slots outside the sequence are exactly those on the free stack. Every
operation on a live slot succeeds and does to the sequence what its name says. -/

namespace ReadThrough.SlabList

variable {α : Type}

/-- Whether a slot holds a node; nothing when it was never allocated. -/
def occupied? (list : SlabList α) (slot : Nat) : Option Bool :=
  list.slots[slot]?.map Option.isSome

theorem occupied?_eq_none {list : SlabList α} {slot : Nat} :
    list.occupied? slot = none ↔ list.slots.size ≤ slot := by
  simp [occupied?]

/-- The links from the head on and back from the tail meet the cells in order. -/
structure Spine (list : SlabList α) (cells : List (Cell α)) : Prop where
  distinct : (slotsOf cells).Nodup
  linked : Segment list.slots cells none none
  head : list.head = firstSlot cells
  tail : list.tail = lastSlot cells

/-- Every slot is held by a cell or waits on the free stack. -/
structure Room (list : SlabList α) (cells : List (Cell α)) : Prop where
  size : list.size = cells.length
  live : ∀ slot, list.occupied? slot = some true ↔ slot ∈ slotsOf cells
  vacant : ∀ slot, list.occupied? slot = some false ↔ slot ∈ list.free
  recycled : list.free.Nodup

structure Chained (list : SlabList α) (cells : List (Cell α)) : Prop where
  spine : list.Spine cells
  room : list.Room cells

theorem empty_chained : (empty : SlabList α).Chained [] where
  spine := ⟨List.nodup_nil, trivial, rfl, rfl⟩
  room := ⟨rfl, by simp [occupied?, empty], by simp [occupied?, empty], List.nodup_nil⟩

/-- A change of links alone: the same slots are in use. -/
structure Relinked (list changed : SlabList α) : Prop where
  size : changed.size = list.size
  free : changed.free = list.free
  occupied : ∀ slot, changed.occupied? slot = list.occupied? slot

namespace Relinked

variable {list changed final : SlabList α}

theorem refl (list : SlabList α) : Relinked list list := ⟨rfl, rfl, fun _ => rfl⟩

theorem trans (first : Relinked list changed) (second : Relinked changed final) :
    Relinked list final :=
  ⟨second.size.trans first.size, second.free.trans first.free,
    fun slot => (second.occupied slot).trans (first.occupied slot)⟩

theorem update (list : SlabList α) (slot : Nat) (change : Node α → Node α) :
    Relinked list (list.update slot change) := by
  refine ⟨rfl, rfl, fun other => ?_⟩
  by_cases same : slot = other
  · cases found : list.slots[other]? <;>
      simp [occupied?, SlabList.update, Array.getElem?_modify, same, found]
  · simp [occupied?, SlabList.update, Array.getElem?_modify, same]

theorem ends (list : SlabList α) (head tail : Option Nat) :
    Relinked list { list with head, tail } := ⟨rfl, rfl, fun _ => rfl⟩

theorem attachFront (list : SlabList α) (slot : Nat) : Relinked list (list.attachFront slot) := by
  unfold SlabList.attachFront
  split
  next head _ => exact (update list slot _).trans ((update _ head _).trans (ends _ _ _))
  next => exact (update list slot _).trans (ends _ _ _)

theorem attachBack (list : SlabList α) (slot : Nat) : Relinked list (list.attachBack slot) := by
  unfold SlabList.attachBack
  split
  next tail _ => exact (update list slot _).trans ((update _ tail _).trans (ends _ _ _))
  next => exact (update list slot _).trans (ends _ _ _)

theorem bridgeNext (list : SlabList α) (node : Node α) : Relinked list (list.bridgeNext node) := by
  unfold SlabList.bridgeNext
  split
  next slot _ => exact update list slot _
  next => exact ends list _ _

theorem bridgePrevious (list : SlabList α) (node : Node α) :
    Relinked list (list.bridgePrevious node) := by
  unfold SlabList.bridgePrevious
  split
  next slot _ => exact update list slot _
  next => exact ends list _ _

theorem detach (list : SlabList α) (slot : Nat) (node : Node α) :
    Relinked list (list.detach slot node) :=
  ((bridgeNext list node).trans (bridgePrevious _ node)).trans (update _ slot _)

theorem slots (relinked : Relinked list changed) : changed.slots.size = list.slots.size := by
  have same : ∀ slot, changed.slots.size ≤ slot ↔ list.slots.size ≤ slot := fun slot => by
    rw [← occupied?_eq_none, relinked.occupied, occupied?_eq_none]
  exact Nat.le_antisymm ((same _).mpr (Nat.le_refl _)) ((same _).mp (Nat.le_refl _))

theorem moveToFront {slot : Nat} {held : Node α} (found : list.node slot = .ok held) :
    ∃ moved, list.moveToFront slot = .ok moved ∧ Relinked list moved := by
  by_cases first : list.head = some slot
  · exact ⟨list, if_pos first, refl list⟩
  · refine ⟨_, ?_, (detach list slot held).trans (attachFront _ slot)⟩
    rw [SlabList.moveToFront, if_neg first, found]
    rfl

theorem moveToBack {slot : Nat} {held : Node α} (found : list.node slot = .ok held) :
    ∃ moved, list.moveToBack slot = .ok moved ∧ Relinked list moved := by
  by_cases last : list.tail = some slot
  · exact ⟨list, if_pos last, refl list⟩
  · refine ⟨_, ?_, (detach list slot held).trans (attachBack _ slot)⟩
    rw [SlabList.moveToBack, if_neg last, found]
    rfl

/-- The same slots stay in use when cells only change places. -/
theorem room {cells moved : List (Cell α)} (relinked : Relinked list changed)
    (room : list.Room cells) (length : moved.length = cells.length)
    (slots : ∀ slot, slot ∈ slotsOf moved ↔ slot ∈ slotsOf cells) : changed.Room moved where
  size := by rw [relinked.size, room.size, length]
  live slot := by rw [relinked.occupied, room.live, slots]
  vacant slot := by rw [relinked.occupied, room.vacant, relinked.free]
  recycled := by rw [relinked.free]; exact room.recycled

end Relinked

namespace Spine

variable {list : SlabList α} {cells before after : List (Cell α)} {cell : Cell α}
  {previous next : Option Nat}

theorem attachFront (spine : list.Spine cells) (outside : cell.slot ∉ slotsOf cells)
    (held : list.slots[cell.slot]? = some (some (cell.node previous next))) :
    (list.attachFront cell.slot).Spine (cell :: cells) := by
  have distinct : (slotsOf (cell :: cells)).Nodup := List.nodup_cons.mpr ⟨outside, spine.distinct⟩
  cases cells with
  | nil =>
    have head : list.head = none := spine.head
    refine ⟨distinct, ?_, ?_, ?_⟩
    · simp [SlabList.attachFront, head, update, Segment, Array.getElem?_modify, held, Cell.node]
    · simp [SlabList.attachFront, head]
    · simp [SlabList.attachFront, head]
  | cons first rest =>
    have head : list.head = some first.slot := spine.head
    have apart : cell.slot ≠ first.slot := by simp at outside; exact outside.1
    refine ⟨distinct, ⟨?_, ?_⟩, ?_, ?_⟩
    · simp [SlabList.attachFront, head, update, Array.getElem?_modify, held, Cell.node, apart.symm]
    · simp only [SlabList.attachFront, head, update]
      exact (spine.linked.modify cell.slot _ outside).relink_first
        (List.nodup_cons.mp spine.distinct).1 (some cell.slot)
    · simp [SlabList.attachFront, head]
    · simp [SlabList.attachFront, head, update, spine.tail, lastSlot_cons]

theorem attachBack (spine : list.Spine cells) (outside : cell.slot ∉ slotsOf cells)
    (held : list.slots[cell.slot]? = some (some (cell.node previous next))) :
    (list.attachBack cell.slot).Spine (cells ++ [cell]) := by
  have distinct := nodup_slotsOf_concat.mpr ⟨outside, spine.distinct⟩
  rcases List.eq_nil_or_concat cells with rfl | ⟨first, last, rfl⟩
  · have tail : list.tail = none := spine.tail
    refine ⟨distinct, ?_, ?_, ?_⟩
    · simp [SlabList.attachBack, tail, update, Segment, Array.getElem?_modify, held, Cell.node]
    · simp [SlabList.attachBack, tail]
    · simp [SlabList.attachBack, tail]
  · rw [List.concat_eq_append] at *
    have tail : list.tail = some last.slot := by simp [spine.tail]
    have apart : cell.slot ≠ last.slot := by simp at outside; exact outside.2
    refine ⟨distinct, Segment.append.mpr ⟨?_, ?_, trivial⟩, ?_, ?_⟩
    · simp only [SlabList.attachBack, tail, update]
      exact (spine.linked.modify cell.slot _ outside).relink_last
        (nodup_slotsOf_concat.mp spine.distinct).1 (some cell.slot)
    · simp [SlabList.attachBack, tail, update, Array.getElem?_modify, held, Cell.node, apart.symm]
    · simp [SlabList.attachBack, tail, update, spine.head]
    · simp [SlabList.attachBack, tail, lastSlot_cons]

/-- The first half of a detachment joins the cell's predecessor to what follows the cell. -/
private theorem bridgeNext (spine : list.Spine (before ++ cell :: after)) :
    let bridged := list.bridgeNext (cell.node (lastSlot before) (firstSlot after))
    Segment bridged.slots before none (firstSlot after) ∧
      Segment bridged.slots after (some cell.slot) none ∧
      bridged.slots[cell.slot]? = some (some (cell.node (lastSlot before) (firstSlot after))) ∧
      bridged.head = firstSlot (before ++ after) ∧ bridged.tail = list.tail := by
  obtain ⟨linked, held, following⟩ := Segment.append.mp spine.linked
  simp only [Option.or_none] at held
  rcases List.eq_nil_or_concat before with rfl | ⟨first, last, rfl⟩
  · exact ⟨trivial, following, held, rfl, rfl⟩
  · rw [List.concat_eq_append] at *
    have outside : last.slot ∉ slotsOf (first ++ cell :: after) := by
      have distinct := spine.distinct
      rw [List.append_assoc, List.singleton_append] at distinct
      exact (nodup_slotsOf_middle.mp distinct).1
    simp only [slotsOf_append, slotsOf_cons, List.mem_append, List.mem_cons, not_or] at outside
    obtain ⟨outsideFirst, apart, outsideAfter⟩ := outside
    simp only [SlabList.bridgeNext, Cell.node_previous, lastSlot_append, lastSlot_singleton,
      Option.some_or, update]
    refine ⟨linked.relink_last outsideFirst _, following.modify _ _ outsideAfter, ?_, ?_, trivial⟩
    · simpa [Array.getElem?_modify, apart] using held
    · simp [spine.head]

/-- The second half joins the cell's successor to what precedes the cell. -/
private theorem bridges (spine : list.Spine (before ++ cell :: after)) :
    let node := cell.node (lastSlot before) (firstSlot after)
    let bridged := (list.bridgeNext node).bridgePrevious node
    bridged.Spine (before ++ after) ∧ bridged.slots[cell.slot]? = some (some node) := by
  obtain ⟨preceding, following, held, head, tail⟩ := spine.bridgeNext
  have distinct := (nodup_slotsOf_middle.mp spine.distinct).2
  cases after with
  | nil =>
    rw [List.append_nil] at *
    exact ⟨⟨distinct, preceding, head, rfl⟩, held⟩
  | cons next rest =>
    have outside := (nodup_slotsOf_middle.mp distinct).1
    have apart : next.slot ≠ cell.slot := by
      have other := (nodup_slotsOf_middle.mp spine.distinct).1
      grind [slotsOf_append, slotsOf_cons]
    simp only [slotsOf_append, List.mem_append, not_or] at outside
    simp only [SlabList.bridgePrevious, Cell.node_next, Cell.node_previous, firstSlot_cons, update]
    refine ⟨⟨distinct, Segment.append.mpr ⟨?_, ?_⟩, head, ?_⟩, ?_⟩
    · simpa using preceding.modify next.slot _ outside.1
    · simpa using following.relink_first outside.2 (lastSlot before)
    · refine tail.trans ?_
      rw [spine.tail]
      simp [lastSlot_cons]
    · simpa [Array.getElem?_modify, apart] using held

/-- A detached cell keeps its slot, without links, and the other cells close the gap. -/
theorem detach (spine : list.Spine (before ++ cell :: after)) :
    let detached := list.detach cell.slot (cell.node (lastSlot before) (firstSlot after))
    detached.Spine (before ++ after) ∧
      detached.slots[cell.slot]? = some (some (cell.node none none)) := by
  obtain ⟨joined, held⟩ := spine.bridges
  have outside := (nodup_slotsOf_middle.mp spine.distinct).1
  refine ⟨⟨joined.distinct, joined.linked.modify cell.slot _ outside, joined.head, joined.tail⟩, ?_⟩
  simp only [SlabList.detach, update, Array.getElem?_modify, held]
  simp [Cell.node]

/-- The node in the slot of a cell carries the cell and links to its neighbours. -/
theorem node (spine : list.Spine (before ++ cell :: after)) :
    list.node cell.slot = .ok (cell.node (lastSlot before) (firstSlot after)) := by
  obtain ⟨_, held, _⟩ := Segment.append.mp spine.linked
  simp only [Option.or_none] at held
  simp [SlabList.node, held]

end Spine

/-- One more slot is in use than before. -/
theorem Room.fill {list filled : SlabList α} {cells : List (Cell α)} (room : list.Room cells)
    (cell : Cell α) (size : filled.size = list.size + 1)
    (occupied : ∀ slot, filled.occupied? slot =
      if slot = cell.slot then some true else list.occupied? slot)
    (free : ∀ slot, slot ∈ filled.free ↔ slot ∈ list.free ∧ slot ≠ cell.slot)
    (recycled : filled.free.Nodup) : filled.Room (cell :: cells) where
  size := by rw [size, room.size, List.length_cons]
  live slot := by
    rw [occupied, slotsOf_cons, List.mem_cons, ← room.live]
    split <;> simp [*]
  vacant slot := by
    rw [occupied, free, ← room.vacant]
    split <;> simp [*]
  recycled := recycled

/-- One slot less is in use than before. -/
theorem Room.release {list freed : SlabList α} {before after : List (Cell α)} {cell : Cell α}
    (room : list.Room (before ++ cell :: after)) (outside : cell.slot ∉ slotsOf (before ++ after))
    (size : freed.size = list.size - 1)
    (occupied : ∀ slot, freed.occupied? slot =
      if slot = cell.slot then some false else list.occupied? slot)
    (free : freed.free = cell.slot :: list.free) : freed.Room (before ++ after) where
  size := by rw [size, room.size]; simp
  live slot := by
    have live := room.live slot
    simp only [slotsOf_append, slotsOf_cons, List.mem_append, List.mem_cons] at outside live ⊢
    rw [occupied]
    split <;> grind
  vacant slot := by
    rw [occupied, free, List.mem_cons, ← room.vacant]
    split <;> simp [*]
  recycled := by
    have live := (room.live cell.slot).mpr (by simp)
    rw [free, List.nodup_cons, ← room.vacant, live]
    exact ⟨by simp, room.recycled⟩

namespace Chained

variable {list : SlabList α} {cells before after : List (Cell α)} {cell : Cell α}

/-- A push takes a slot that no cell holds and fills it before it links it in. -/
theorem allocate (chained : list.Chained cells) (key : String) (value : α) :
    let slot := (list.allocate key value).1
    let filled := (list.allocate key value).2
    slot ∉ slotsOf cells ∧
      filled.slots[slot]? = some (some (({ slot, key, value } : Cell α).node none none)) ∧
      filled.Spine cells ∧ filled.Room ({ slot, key, value } :: cells) := by
  obtain ⟨spine, room⟩ := chained
  cases stack : list.free with
  | nil =>
    have outside : list.slots.size ∉ slotsOf cells := by
      rw [← room.live]
      simp [occupied?]
    have apart : ∀ slot ∈ slotsOf cells, slot ≠ list.slots.size :=
      fun slot member same => outside (same ▸ member)
    simp only [SlabList.allocate, stack]
    refine ⟨outside, by simp [Cell.node],
      ⟨spine.distinct, spine.linked.congr ?_, spine.head, spine.tail⟩, ?_⟩
    · intro slot member
      simp [Array.getElem?_push, apart slot member]
    · apply room.fill { slot := list.slots.size, key, value } rfl
      · intro slot
        simp only [occupied?, Array.getElem?_push]
        split <;> rfl
      · simp [stack]
      · exact List.nodup_nil
  | cons slot free =>
    have vacant : list.occupied? slot = some false := (room.vacant slot).mpr (by simp [stack])
    have held : list.slots[slot]? = some none := by
      simpa [occupied?] using vacant
    have outside : slot ∉ slotsOf cells := by
      rw [← room.live, vacant]
      simp
    have recycled := room.recycled
    rw [stack, List.nodup_cons] at recycled
    simp only [SlabList.allocate, stack]
    refine ⟨outside, ?_,
      ⟨spine.distinct, spine.linked.setIfInBounds _ _ outside, spine.head, spine.tail⟩, ?_⟩
    · grind [Cell.node]
    · apply room.fill { slot, key, value } rfl
      · intro other
        simp only [occupied?, Array.getElem?_setIfInBounds]
        grind
      · grind
      · exact recycled.2

theorem pushFront (chained : list.Chained cells) (key : String) (value : α) :
    (list.pushFront key value).2.Chained
      ({ slot := (list.pushFront key value).1, key, value } :: cells) := by
  have allotted := chained.allocate key value
  unfold SlabList.pushFront
  generalize list.allocate key value = allotment at allotted ⊢
  obtain ⟨slot, filled⟩ := allotment
  obtain ⟨outside, held, spine, room⟩ := allotted
  let cell : Cell α := { slot, key, value }
  have linked : (filled.attachFront cell.slot).Spine (cell :: cells) := spine.attachFront outside held
  exact ⟨linked, (Relinked.attachFront _ _).room room rfl fun _ => Iff.rfl⟩

theorem pushBack (chained : list.Chained cells) (key : String) (value : α) :
    (list.pushBack key value).2.Chained
      (cells ++ [{ slot := (list.pushBack key value).1, key, value }]) := by
  have allotted := chained.allocate key value
  unfold SlabList.pushBack
  generalize list.allocate key value = allotment at allotted ⊢
  obtain ⟨slot, filled⟩ := allotment
  obtain ⟨outside, held, spine, room⟩ := allotted
  let cell : Cell α := { slot, key, value }
  have linked : (filled.attachBack cell.slot).Spine (cells ++ [cell]) := spine.attachBack outside held
  exact ⟨linked, (Relinked.attachBack _ _).room room (by simp) (by simp [or_comm])⟩

theorem moveToFront (chained : list.Chained (before ++ cell :: after)) :
    ∃ moved, list.moveToFront cell.slot = .ok moved ∧ moved.Chained (cell :: (before ++ after)) := by
  obtain ⟨spine, room⟩ := chained
  have outside := (nodup_slotsOf_middle.mp spine.distinct).1
  by_cases first : list.head = some cell.slot
  · cases before with
    | nil => exact ⟨list, by simp [SlabList.moveToFront, first], spine, room⟩
    | cons other before =>
      rw [spine.head] at first
      have same : other.slot = cell.slot := Option.some.inj first
      have repeated : cell.slot ∈ slotsOf (other :: before ++ after) := by simp [same]
      exact absurd repeated outside
  · obtain ⟨detached, held⟩ := spine.detach
    refine ⟨_, by simp only [SlabList.moveToFront, first, spine.node]; rfl,
      detached.attachFront outside held, ?_⟩
    exact ((Relinked.detach _ _ _).trans (Relinked.attachFront _ _)).room room
      (by simp +arith) (by simp; grind)

theorem moveToBack (chained : list.Chained (before ++ cell :: after)) :
    ∃ moved, list.moveToBack cell.slot = .ok moved ∧ moved.Chained (before ++ after ++ [cell]) := by
  obtain ⟨spine, room⟩ := chained
  have outside := (nodup_slotsOf_middle.mp spine.distinct).1
  by_cases last : list.tail = some cell.slot
  · rcases List.eq_nil_or_concat after with rfl | ⟨after, other, rfl⟩
    · exact ⟨list, by simp [SlabList.moveToBack, last], by simpa using spine, by simpa using room⟩
    · rw [spine.tail] at last
      have same : other.slot = cell.slot := by simpa [lastSlot_cons] using last
      have repeated : cell.slot ∈ slotsOf (before ++ after.concat other) := by simp [same]
      exact absurd repeated outside
  · obtain ⟨detached, held⟩ := spine.detach
    refine ⟨_, by simp only [SlabList.moveToBack, last, spine.node]; rfl,
      detached.attachBack outside held, ?_⟩
    exact ((Relinked.detach _ _ _).trans (Relinked.attachBack _ _)).room room
      (by simp +arith) (by simp; grind)

theorem value (chained : list.Chained (before ++ cell :: after)) :
    list.value cell.slot = .ok cell.value := by
  rw [SlabList.value, chained.spine.node]
  rfl

theorem replace (chained : list.Chained (before ++ cell :: after)) (value : α) :
    ∃ replaced, list.replace cell.slot value = .ok (cell.value, replaced) ∧
      replaced.Chained (before ++ { cell with value } :: after) := by
  obtain ⟨spine, room⟩ := chained
  have outside := (nodup_slotsOf_middle.mp spine.distinct).1
  simp only [slotsOf_append, List.mem_append, not_or] at outside
  have slots : slotsOf (before ++ { cell with value } :: after) = slotsOf (before ++ cell :: after) := by
    simp
  refine ⟨list.update cell.slot fun node => { node with value },
    by simp only [SlabList.replace, spine.node]; rfl, ⟨?_, ?_, ?_, ?_⟩, ?_⟩
  · rw [slots]
    exact spine.distinct
  · obtain ⟨preceding, held, following⟩ := Segment.append.mp spine.linked
    refine Segment.append.mpr ⟨preceding.modify _ _ outside.1, ?_, following.modify _ _ outside.2⟩
    simp [update, Array.getElem?_modify, held, Cell.node]
  · refine spine.head.trans ?_
    simp
  · refine spine.tail.trans ?_
    simp [lastSlot_cons]
  · exact (Relinked.update list _ _).room room (by simp) (by simp)

theorem remove (chained : list.Chained (before ++ cell :: after)) :
    ∃ removed, list.remove cell.slot = .ok (cell.entry, removed) ∧
      removed.Chained (before ++ after) := by
  obtain ⟨spine, room⟩ := chained
  have outside := (nodup_slotsOf_middle.mp spine.distinct).1
  obtain ⟨linked, held⟩ := spine.detach
  have relinked := Relinked.detach list cell.slot (cell.node (lastSlot before) (firstSlot after))
  let detached := list.detach cell.slot (cell.node (lastSlot before) (firstSlot after))
  refine ⟨{ detached with
      slots := detached.slots.setIfInBounds cell.slot none
      free := cell.slot :: detached.free
      size := detached.size - 1 },
    by simp only [SlabList.remove, spine.node]; rfl,
    ⟨linked.distinct, linked.linked.setIfInBounds _ _ outside, linked.head, linked.tail⟩, ?_⟩
  apply room.release outside
  · exact congrArg (· - 1) relinked.size
  · intro slot
    rw [← relinked.occupied]
    simp only [occupied?, detached, Array.getElem?_setIfInBounds]
    grind
  · exact congrArg (cell.slot :: ·) relinked.free

/-- The cells and the free stack share out the slots. -/
theorem slots_perm (chained : list.Chained cells) :
    (slotsOf cells ++ list.free).Perm (List.range list.slots.size) := by
  obtain ⟨spine, room⟩ := chained
  have apart : ∀ slot ∈ slotsOf cells, ∀ other ∈ list.free, slot ≠ other := by
    rintro slot held other freed rfl
    have live := (room.live slot).mpr held
    rw [(room.vacant slot).mpr freed] at live
    nomatch live
  have distinct := List.nodup_append.mpr ⟨spine.distinct, room.recycled, apart⟩
  refine (List.perm_ext_iff_of_nodup distinct List.nodup_range).mpr fun slot => ?_
  rw [List.mem_append, ← room.live, ← room.vacant, List.mem_range, ← Nat.not_le,
    ← occupied?_eq_none]
  cases list.occupied? slot with
  | none => simp
  | some full => cases full <;> simp

theorem free_lt (chained : list.Chained cells) {slot : Nat} (freed : slot ∈ list.free) :
    slot < list.slots.size :=
  List.mem_range.mp (chained.slots_perm.subset (List.mem_append_right _ freed))

theorem slots_size (chained : list.Chained cells) :
    list.slots.size = list.size + list.free.length := by
  simpa [slotsOf, chained.room.size] using chained.slots_perm.length_eq.symm

/-- No slot is met twice, so the number of slots bounds the walk along the links. -/
theorem length_le (chained : list.Chained cells) : cells.length ≤ list.slots.size := by
  rw [chained.slots_size, chained.room.size]
  exact Nat.le_add_right _ _

end Chained

/-- Following a link from slot to slot meets these cells and then ends. Every slot on the way
holds a node. -/
inductive Meets (list : SlabList α) (link : Node α → Option Nat) :
    Option Nat → List (Cell α) → Prop where
  | done : Meets list link none []
  | next {slot : Nat} {node : Node α} {rest : List (Cell α)} (held : list.node slot = .ok node)
      (following : Meets list link (link node) rest) :
      Meets list link (some slot) (Cell.read (slot, node) :: rest)

theorem getElem?_of_node {list : SlabList α} {slot : Nat} {node : Node α}
    (held : list.node slot = .ok node) : list.slots[slot]? = some (some node) := by
  unfold SlabList.node at held
  split at held
  next => nomatch held
  next => nomatch held
  next found => rw [found, Except.ok.inj held]

theorem node_of_getElem? {list : SlabList α} {slot : Nat} {node : Node α}
    (held : list.slots[slot]? = some (some node)) : list.node slot = .ok node := by
  rw [SlabList.node, held]

/-- A walk for long enough is over when the links end. -/
theorem Meets.walk {list : SlabList α} {link : Node α → Option Nat} {start : Option Nat}
    {cells : List (Cell α)} (meets : list.Meets link start cells) {steps : Nat}
    (enough : cells.length ≤ steps) : (list.walk link steps start).map Cell.read = cells := by
  induction meets generalizing steps with
  | done => cases steps <;> rfl
  | next held _ ih =>
    cases steps with
    | zero => simp at enough
    | succ steps =>
      simp only [SlabList.walk, getElem?_of_node held, List.map_cons,
        ih (Nat.le_of_succ_le_succ enough)]

namespace Segment

variable {list : SlabList α} {cells : List (Cell α)} {previous next : Option Nat}

theorem forward (segment : Segment list.slots cells previous none) :
    list.Meets (·.next) (firstSlot cells) cells := by
  induction cells generalizing previous with
  | nil => exact .done
  | cons cell rest ih =>
    obtain ⟨held, linked⟩ := segment
    rw [Option.or_none] at held
    exact .next (node_of_getElem? held) (ih linked)

theorem backward (segment : Segment list.slots cells none next) :
    list.Meets (·.previous) (lastSlot cells) cells.reverse := by
  induction cells using List.reverseRecOn generalizing next with
  | nil => exact .done
  | append_singleton first cell ih =>
    obtain ⟨linked, held, _⟩ := append.mp segment
    rw [Option.or_none] at held
    rw [lastSlot_append, lastSlot_singleton, List.reverse_append]
    exact .next (node_of_getElem? held) (ih linked)

end Segment

namespace Chained

variable {list : SlabList α} {cells : List (Cell α)}

theorem forward (chained : list.Chained cells) : list.Meets (·.next) list.head cells :=
  chained.spine.head ▸ chained.spine.linked.forward

theorem backward (chained : list.Chained cells) :
    list.Meets (·.previous) list.tail cells.reverse :=
  chained.spine.tail ▸ chained.spine.linked.backward

theorem entries (chained : list.Chained cells) : list.entries.map Cell.read = cells :=
  chained.forward.walk chained.length_le

theorem entriesReversed (chained : list.Chained cells) :
    list.entriesReversed.map Cell.read = cells.reverse :=
  chained.backward.walk (by rw [List.length_reverse]; exact chained.length_le)

theorem keys (chained : list.Chained cells) : list.keys = cells.map (·.key) := by
  rw [← chained.entries, List.map_map]
  rfl

theorem contents (chained : list.Chained cells) : list.contents = cells.map Cell.entry := by
  rw [← chained.entries, List.map_map]
  rfl

end Chained

end ReadThrough.SlabList
