/-! A doubly linked list of keyed values whose nodes live in numbered slots. Nodes link
to each other by slot, so every move takes constant time, and the slot of a removed node
is given out again by the next push. -/

namespace ReadThrough

/-- Why an operation refused a slot. -/
inductive SlotError where
  | unallocated (slots slot : Nat)
  | vacant (slot : Nat)
deriving Repr, DecidableEq

def SlotError.message : SlotError → String
  | unallocated slots slot => s!"index out of bounds: the len is {slots} but the index is {slot}"
  | vacant slot => s!"list slot {slot} is vacant"

structure SlabList.Node (α : Type) where
  key : String
  value : α
  previous : Option Nat := none
  next : Option Nat := none
deriving Repr, DecidableEq

/-- `free` holds the vacant slots, the one freed last first. -/
structure SlabList (α : Type) where
  slots : Array (Option (SlabList.Node α)) := #[]
  free : List Nat := []
  head : Option Nat := none
  tail : Option Nat := none
  size : Nat := 0
deriving Repr, DecidableEq

namespace SlabList

variable {α : Type}

def empty : SlabList α := {}

/-- The node in a slot; every operation on a slot looks here before it changes anything. -/
def node (list : SlabList α) (slot : Nat) : Except SlotError (Node α) :=
  match list.slots[slot]? with
  | none => .error (.unallocated list.slots.size slot)
  | some none => .error (.vacant slot)
  | some (some node) => .ok node

/-- Changes the node in a live slot. -/
def update (list : SlabList α) (slot : Nat) (change : Node α → Node α) : SlabList α :=
  { list with slots := list.slots.modify slot (Option.map change) }

def value (list : SlabList α) (slot : Nat) : Except SlotError α :=
  (list.node slot).map (·.value)

/-- Stores a new value in a slot and hands back the old one. -/
def replace (list : SlabList α) (slot : Nat) (value : α) : Except SlotError (α × SlabList α) := do
  let node ← list.node slot
  return (node.value, list.update slot fun node => { node with value })

/-- A slot for a new unlinked node: the one freed last, else a fresh one at the end. -/
def allocate (list : SlabList α) (key : String) (value : α) : Nat × SlabList α :=
  match list.free with
  | slot :: free =>
    (slot, { list with
      slots := list.slots.setIfInBounds slot (some { key, value }), free, size := list.size + 1 })
  | [] =>
    (list.slots.size, { list with
      slots := list.slots.push (some { key, value }), size := list.size + 1 })

/-- Links an unlinked node in before the head. -/
def attachFront (list : SlabList α) (slot : Nat) : SlabList α :=
  let linked := list.update slot fun node => { node with previous := none, next := list.head }
  match list.head with
  | some head =>
    { linked.update head fun node => { node with previous := some slot } with head := some slot }
  | none => { linked with head := some slot, tail := some slot }

/-- Links an unlinked node in after the tail. -/
def attachBack (list : SlabList α) (slot : Nat) : SlabList α :=
  let linked := list.update slot fun node => { node with previous := list.tail, next := none }
  match list.tail with
  | some tail =>
    { linked.update tail fun node => { node with next := some slot } with tail := some slot }
  | none => { linked with head := some slot, tail := some slot }

/-- Joins the predecessor in the list to what follows the node. -/
def bridgeNext (list : SlabList α) (node : Node α) : SlabList α :=
  match node.previous with
  | some before => list.update before fun neighbour => { neighbour with next := node.next }
  | none => { list with head := node.next }

/-- Joins the successor in the list to what precedes the node. -/
def bridgePrevious (list : SlabList α) (node : Node α) : SlabList α :=
  match node.next with
  | some after => list.update after fun neighbour => { neighbour with previous := node.previous }
  | none => { list with tail := node.previous }

/-- Takes a node out of the chain; the node keeps its slot. -/
def detach (list : SlabList α) (slot : Nat) (node : Node α) : SlabList α :=
  ((list.bridgeNext node).bridgePrevious node).update slot fun node =>
    { node with previous := none, next := none }

def pushFront (list : SlabList α) (key : String) (value : α) : Nat × SlabList α :=
  let (slot, list) := list.allocate key value
  (slot, list.attachFront slot)

def pushBack (list : SlabList α) (key : String) (value : α) : Nat × SlabList α :=
  let (slot, list) := list.allocate key value
  (slot, list.attachBack slot)

def moveToFront (list : SlabList α) (slot : Nat) : Except SlotError (SlabList α) :=
  if list.head = some slot then .ok list
  else do
    let node ← list.node slot
    return (list.detach slot node).attachFront slot

def moveToBack (list : SlabList α) (slot : Nat) : Except SlotError (SlabList α) :=
  if list.tail = some slot then .ok list
  else do
    let node ← list.node slot
    return (list.detach slot node).attachBack slot

/-- Frees a slot and hands back its key and value. -/
def remove (list : SlabList α) (slot : Nat) : Except SlotError ((String × α) × SlabList α) := do
  let node ← list.node slot
  let detached := list.detach slot node
  return ((node.key, node.value), { detached with
    slots := detached.slots.setIfInBounds slot none
    free := slot :: detached.free
    size := detached.size - 1 })

/-- The slots and nodes met by following links from a slot, for at most `steps` nodes. -/
def walk (list : SlabList α) (link : Node α → Option Nat) :
    (steps : Nat) → Option Nat → List (Nat × Node α)
  | 0, _ => []
  | _ + 1, none => []
  | steps + 1, some slot =>
    match list.slots[slot]? with
    | some (some node) => (slot, node) :: list.walk link steps (link node)
    | _ => []

/-- The live slots and their nodes from front to back. No slot occurs twice in the chain,
so the number of slots bounds the walk. -/
def entries (list : SlabList α) : List (Nat × Node α) :=
  list.walk (·.next) list.slots.size list.head

/-- The live slots and their nodes from back to front. -/
def entriesReversed (list : SlabList α) : List (Nat × Node α) :=
  list.walk (·.previous) list.slots.size list.tail

/-- Keys from front to back. -/
def keys (list : SlabList α) : List String :=
  list.entries.map (·.2.key)

/-- Keys with their values from front to back. -/
def contents (list : SlabList α) : List (String × α) :=
  list.entries.map fun (_, node) => (node.key, node.value)

end SlabList

end ReadThrough
