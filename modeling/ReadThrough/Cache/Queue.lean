import ReadThrough.SlabList
import Std.Data.HashMap

/-! A queue of entries under a byte budget: a slab list for the order, an index from keys
to slots for the lookup, and a running count of the bytes held. -/

namespace ReadThrough

/-- Values that can be charged against a byte budget. A size is a natural number of any
magnitude, as are the sums that a `Queue` keeps. -/
class ByteSized (α : Type) where
  byteSize : α → Nat

instance : ByteSized String := ⟨String.utf8ByteSize⟩

instance : ByteSized ByteArray := ⟨ByteArray.size⟩

namespace Cache

/-- What would stop an operation half way: a slot that holds no entry, or a byte count
smaller than what is taken from it. -/
inductive Fault where
  | slot (error : SlotError)
  | underflow (held taken : Nat)
deriving Repr, DecidableEq

variable {α : Type} [ByteSized α]

/-- An entry is charged for the bytes of its key and of its value. -/
def entrySize (key : String) (value : α) : Nat :=
  key.utf8ByteSize + ByteSized.byteSize value

/-- The bytes left after some are given back. -/
def release (held taken : Nat) : Except Fault Nat :=
  if taken ≤ held then .ok (held - taken) else .error (.underflow held taken)

/-- The bytes in use are the exact sum of what the entries are charged. A count in words of 64
bits agrees with it as long as no sum reaches `2 ^ 64`, which is assumed throughout. -/
structure Queue (α : Type) where
  entries : SlabList α := {}
  index : Std.HashMap String Nat := {}
  usedBytes : Nat := 0
  maxBytes : Nat

namespace Queue

def empty (maxBytes : Nat) : Queue α := { maxBytes }

/-- A budget of zero is never exceeded. -/
def overBudget (queue : Queue α) : Bool :=
  queue.maxBytes != 0 && queue.maxBytes < queue.usedBytes

def slot? (queue : Queue α) (key : String) : Option Nat :=
  queue.index[key]?

def contains (queue : Queue α) (key : String) : Bool :=
  queue.index.contains key

def pushFront (queue : Queue α) (key : String) (value : α) : Queue α :=
  let (slot, entries) := queue.entries.pushFront key value
  { queue with
    entries, index := queue.index.insert key slot
    usedBytes := queue.usedBytes + entrySize key value }

def pushBack (queue : Queue α) (key : String) (value : α) : Queue α :=
  let (slot, entries) := queue.entries.pushBack key value
  { queue with
    entries, index := queue.index.insert key slot
    usedBytes := queue.usedBytes + entrySize key value }

def value (queue : Queue α) (slot : Nat) : Except Fault α :=
  (queue.entries.value slot).mapError .slot

def moveToFront (queue : Queue α) (slot : Nat) : Except Fault (Queue α) := do
  let entries ← (queue.entries.moveToFront slot).mapError .slot
  return { queue with entries }

def moveToBack (queue : Queue α) (slot : Nat) : Except Fault (Queue α) := do
  let entries ← (queue.entries.moveToBack slot).mapError .slot
  return { queue with entries }

def replace (queue : Queue α) (slot : Nat) (value : α) : Except Fault (Queue α) := do
  let (old, entries) ← (queue.entries.replace slot value).mapError .slot
  let kept ← release queue.usedBytes (ByteSized.byteSize old)
  return { queue with entries, usedBytes := kept + ByteSized.byteSize value }

def remove (queue : Queue α) (slot : Nat) : Except Fault ((String × α) × Queue α) := do
  let ((key, value), entries) ← (queue.entries.remove slot).mapError .slot
  let usedBytes ← release queue.usedBytes (entrySize key value)
  return ((key, value), { queue with entries, index := queue.index.erase key, usedBytes })

end Queue

end Cache

end ReadThrough
