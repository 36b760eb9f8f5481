import ReadThrough.SlabList

/-! Runs of cells in the slots of a slab list. A segment says what every slot of a run holds,
given the slots before and after the run. Segments split and join at any cell, and a write to a
slot outside a segment leaves it as it was. -/

namespace ReadThrough.SlabList

/-- An entry together with the slot by which the callers of a list know it. -/
structure Cell (α : Type) where
  slot : Nat
  key : String
  value : α
deriving Repr, DecidableEq

variable {α : Type}

namespace Cell

def entry (cell : Cell α) : String × α := (cell.key, cell.value)

def node (cell : Cell α) (previous next : Option Nat) : Node α :=
  { key := cell.key, value := cell.value, previous, next }

/-- The cell that a walk along the links meets in a slot. -/
def read (met : Nat × Node α) : Cell α :=
  { slot := met.1, key := met.2.key, value := met.2.value }

@[simp] theorem read_node (cell : Cell α) (previous next : Option Nat) :
    read (cell.slot, cell.node previous next) = cell := rfl

@[simp] theorem node_previous (cell : Cell α) (previous next : Option Nat) :
    (cell.node previous next).previous = previous := rfl

@[simp] theorem node_next (cell : Cell α) (previous next : Option Nat) :
    (cell.node previous next).next = next := rfl

end Cell

def slotsOf (cells : List (Cell α)) : List Nat := cells.map (·.slot)

@[simp] theorem slotsOf_nil : slotsOf ([] : List (Cell α)) = [] := rfl

@[simp] theorem slotsOf_cons (cell : Cell α) (rest : List (Cell α)) :
    slotsOf (cell :: rest) = cell.slot :: slotsOf rest := rfl

@[simp] theorem slotsOf_append (first rest : List (Cell α)) :
    slotsOf (first ++ rest) = slotsOf first ++ slotsOf rest := List.map_append

def firstSlot (cells : List (Cell α)) : Option Nat := (slotsOf cells).head?

def lastSlot (cells : List (Cell α)) : Option Nat := (slotsOf cells).getLast?

@[simp] theorem firstSlot_nil : firstSlot ([] : List (Cell α)) = none := rfl

@[simp] theorem firstSlot_cons (cell : Cell α) (rest : List (Cell α)) :
    firstSlot (cell :: rest) = some cell.slot := rfl

@[simp] theorem lastSlot_nil : lastSlot ([] : List (Cell α)) = none := rfl

@[simp] theorem lastSlot_singleton (cell : Cell α) : lastSlot [cell] = some cell.slot := rfl

@[simp] theorem firstSlot_append (first rest : List (Cell α)) :
    firstSlot (first ++ rest) = (firstSlot first).or (firstSlot rest) := by
  simp [firstSlot, List.head?_append]

@[simp] theorem lastSlot_append (first rest : List (Cell α)) :
    lastSlot (first ++ rest) = (lastSlot rest).or (lastSlot first) := by
  simp [lastSlot, List.getLast?_append]

theorem lastSlot_cons (cell : Cell α) (rest : List (Cell α)) :
    lastSlot (cell :: rest) = (lastSlot rest).or (some cell.slot) :=
  lastSlot_append [cell] rest

theorem nodup_slotsOf_concat {cells : List (Cell α)} {cell : Cell α} :
    (slotsOf (cells ++ [cell])).Nodup ↔ cell.slot ∉ slotsOf cells ∧ (slotsOf cells).Nodup := by
  rw [slotsOf_append, List.perm_append_comm.nodup_iff]
  exact List.nodup_cons

theorem nodup_slotsOf_middle {before after : List (Cell α)} {cell : Cell α} :
    (slotsOf (before ++ cell :: after)).Nodup ↔
      cell.slot ∉ slotsOf (before ++ after) ∧ (slotsOf (before ++ after)).Nodup := by
  rw [slotsOf_append, slotsOf_cons, List.perm_middle.nodup_iff, slotsOf_append]
  exact List.nodup_cons

/-- The slots of a run hold its cells, linked in order: the first cell back to `before`, the
last one on to `after`. -/
def Segment (slots : Array (Option (Node α))) : List (Cell α) → (before after : Option Nat) → Prop
  | [], _, _ => True
  | cell :: rest, before, after =>
    slots[cell.slot]? = some (some (cell.node before ((firstSlot rest).or after))) ∧
      Segment slots rest (some cell.slot) after

namespace Segment

variable {slots changed : Array (Option (Node α))} {cells first rest : List (Cell α)} {cell : Cell α}
  {before after : Option Nat}

theorem append : Segment slots (first ++ rest) before after ↔
    Segment slots first before ((firstSlot rest).or after) ∧
      Segment slots rest ((lastSlot first).or before) after := by
  induction first generalizing before with
  | nil => simp [Segment]
  | cons cell first ih =>
    simp only [List.cons_append, Segment, ih, firstSlot_append, lastSlot_cons, Option.or_assoc,
      Option.some_or, and_assoc]

/-- Reading a segment needs no slot outside it. -/
theorem congr (segment : Segment slots cells before after)
    (same : ∀ slot ∈ slotsOf cells, changed[slot]? = slots[slot]?) :
    Segment changed cells before after := by
  induction cells generalizing before with
  | nil => trivial
  | cons cell rest ih =>
    obtain ⟨held, linked⟩ := segment
    refine ⟨?_, ih linked fun slot member => same slot (by simp [member])⟩
    rw [same cell.slot (by simp), held]

theorem modify (segment : Segment slots cells before after) (slot : Nat)
    (change : Option (Node α) → Option (Node α)) (outside : slot ∉ slotsOf cells) :
    Segment (slots.modify slot change) cells before after := by
  apply segment.congr
  intro other member
  have different : slot ≠ other := fun same => outside (same ▸ member)
  simp [Array.getElem?_modify, different]

theorem setIfInBounds (segment : Segment slots cells before after) (slot : Nat)
    (content : Option (Node α)) (outside : slot ∉ slotsOf cells) :
    Segment (slots.setIfInBounds slot content) cells before after := by
  apply segment.congr
  intro other member
  have different : slot ≠ other := fun same => outside (same ▸ member)
  simp [different]

/-- The first cell of a segment may be linked back to another slot. -/
theorem relink_first (segment : Segment slots (cell :: rest) before after)
    (outside : cell.slot ∉ slotsOf rest) (previous : Option Nat) :
    Segment (slots.modify cell.slot (Option.map fun node => { node with previous }))
      (cell :: rest) previous after := by
  obtain ⟨held, linked⟩ := segment
  refine ⟨?_, linked.modify _ _ outside⟩
  simp [Array.getElem?_modify, held, Cell.node]

/-- The last cell of a segment may be linked on to another slot. -/
theorem relink_last (segment : Segment slots (first ++ [cell]) before after)
    (outside : cell.slot ∉ slotsOf first) (next : Option Nat) :
    Segment (slots.modify cell.slot (Option.map fun node => { node with next }))
      (first ++ [cell]) before next := by
  obtain ⟨linked, held, _⟩ := append.mp segment
  refine append.mpr ⟨linked.modify _ _ outside, ?_, trivial⟩
  simp [Array.getElem?_modify, held, Cell.node]

end Segment

end ReadThrough.SlabList
