import ReadThrough.Proofs.SlabChain

/-! A slab list that is changed in place, node by node. Work on it stops where a node is not there,
where a slot is out of range or where the length would fall below zero, and leaves the list as it
stands then. On a list that chains its cells, work stops only before its first change: the links
that an operation follows lead to nodes. -/

namespace ReadThrough.SlabList

variable {α : Type}

/-- One call that changes a list. -/
inductive Operation (α : Type) where
  | pushFront (key : String) (value : α)
  | pushBack (key : String) (value : α)
  | moveToFront (slot : Nat)
  | moveToBack (slot : Nat)
  | replace (slot : Nat) (value : α)
  | remove (slot : Nat)
deriving Repr

inductive Reply (α : Type) where
  | pushed (slot : Nat)
  | moved
  | replaced (old : α)
  | removed (key : String) (value : α)
deriving Repr, DecidableEq

def apply (list : SlabList α) : Operation α → Except SlotError (Reply α × SlabList α)
  | .pushFront key value =>
    let (slot, list) := list.pushFront key value
    .ok (.pushed slot, list)
  | .pushBack key value =>
    let (slot, list) := list.pushBack key value
    .ok (.pushed slot, list)
  | .moveToFront slot => (list.moveToFront slot).map (.moved, ·)
  | .moveToBack slot => (list.moveToBack slot).map (.moved, ·)
  | .replace slot value => (list.replace slot value).map fun (old, list) => (.replaced old, list)
  | .remove slot => (list.remove slot).map fun ((key, value), list) => (.removed key value, list)

/-- Why work on a list stops. -/
inductive Stop where
  | slot (error : SlotError)
  | underflow
deriving Repr, DecidableEq

/-- Work on a list. Where it stops, the changes made so far stay. -/
abbrev Work (α β : Type) := EStateM Stop (SlabList α) β

theorem node_of_occupied {list : SlabList α} {slot : Nat} (live : list.occupied? slot = some true) :
    ∃ held, list.node slot = .ok held := by
  rw [occupied?, Option.map_eq_some_iff] at live
  obtain ⟨content, stored, full⟩ := live
  obtain ⟨held, rfl⟩ := Option.isSome_iff_exists.mp full
  exact ⟨held, node_of_getElem? stored⟩

theorem occupied_of_node {list : SlabList α} {slot : Nat} {held : Node α}
    (found : list.node slot = .ok held) : list.occupied? slot = some true := by
  rw [occupied?, getElem?_of_node found]
  rfl

namespace Work

def node (slot : Nat) : Work α (Node α) := do
  match (← get).node slot with
  | .ok node => return node
  | .error error => throw (.slot error)

def change (slot : Nat) (renew : Node α → Node α) : Work α Unit := do
  let _ ← node slot
  modify (·.update slot renew)

/-- Puts a node into a slot that the list has, vacant or not. -/
def fill (slot : Nat) (node : Node α) : Work α Unit := do
  let list ← get
  if slot < list.slots.size then
    set { list with slots := list.slots.setIfInBounds slot (some node) }
  else throw (.slot (.unallocated list.slots.size slot))

def allocate (key : String) (value : α) : Work α Nat := do
  modify fun list => { list with size := list.size + 1 }
  match (← get).free with
  | slot :: free =>
    modify fun list => { list with free }
    fill slot { key, value }
    return slot
  | [] =>
    modify fun list => { list with slots := list.slots.push (some { key, value }) }
    return (← get).slots.size - 1

/-- Makes a slot the one after another, or the first one if there is none before it. -/
def followedBy (before next : Option Nat) : Work α Unit :=
  match before with
  | some slot => change slot fun node => { node with next }
  | none => modify fun list => { list with head := next }

/-- Makes a slot the one before another, or the last one if there is none after it. -/
def precededBy (after previous : Option Nat) : Work α Unit :=
  match after with
  | some slot => change slot fun node => { node with previous }
  | none => modify fun list => { list with tail := previous }

def attachFront (slot : Nat) : Work α Unit := do
  let head := (← get).head
  change slot fun node => { node with previous := none, next := head }
  precededBy head (some slot)
  modify fun list => { list with head := some slot }

def attachBack (slot : Nat) : Work α Unit := do
  let tail := (← get).tail
  change slot fun node => { node with previous := tail, next := none }
  followedBy tail (some slot)
  modify fun list => { list with tail := some slot }

def detach (slot : Nat) : Work α Unit := do
  let found ← node slot
  followedBy found.previous found.next
  precededBy found.next found.previous
  change slot fun node => { node with previous := none, next := none }

def pushFront (key : String) (value : α) : Work α Nat := do
  let slot ← allocate key value
  attachFront slot
  return slot

def pushBack (key : String) (value : α) : Work α Nat := do
  let slot ← allocate key value
  attachBack slot
  return slot

def moveToFront (slot : Nat) : Work α Unit := do
  if (← get).head = some slot then return
  detach slot
  attachFront slot

def moveToBack (slot : Nat) : Work α Unit := do
  if (← get).tail = some slot then return
  detach slot
  attachBack slot

def replace (slot : Nat) (value : α) : Work α α := do
  let old ← node slot
  change slot fun node => { node with value }
  return old.value

def shrink : Work α Unit := do
  if (← get).size = 0 then throw .underflow
  modify fun list => { list with size := list.size - 1 }

def remove (slot : Nat) : Work α (String × α) := do
  detach slot
  let removed ← node slot
  modify fun list => { list with
    slots := list.slots.setIfInBounds slot none, free := slot :: list.free }
  shrink
  return (removed.key, removed.value)

def apply : Operation α → Work α (Reply α)
  | .pushFront key value => .pushed <$> pushFront key value
  | .pushBack key value => .pushed <$> pushBack key value
  | .moveToFront slot => (fun _ => .moved) <$> moveToFront slot
  | .moveToBack slot => (fun _ => .moved) <$> moveToBack slot
  | .replace slot value => .replaced <$> replace slot value
  | .remove slot => (fun (key, value) => .removed key value) <$> remove slot

section

variable {σ β γ : Type} {state after : σ} {value : β}

theorem bind_ok {first : EStateM Stop σ β} (done : first state = .ok value after)
    (rest : β → EStateM Stop σ γ) : (first >>= rest) state = rest value after := by
  simp only [bind, EStateM.bind, done]

theorem map_ok {work : EStateM Stop σ β} (done : work state = .ok value after)
    (change : β → γ) : (change <$> work) state = .ok (change value) after := by
  simp only [Functor.map, EStateM.map, done]

end

variable {β γ : Type} {list after : SlabList α} {slot : Nat}

theorem bind_error {first : Work α β} {stop : Stop} (stopped : first list = .error stop after)
    (rest : β → Work α γ) : (first >>= rest) list = .error stop after := by
  simp only [bind, EStateM.bind, stopped]

theorem map_error {work : Work α β} {stop : Stop} (stopped : work list = .error stop after)
    (change : β → γ) : (change <$> work) list = .error stop after := by
  simp only [Functor.map, EStateM.map, stopped]

theorem node_ok {held : Node α} (found : list.node slot = .ok held) :
    node slot list = .ok held list := by
  refine (bind_ok rfl _).trans ?_
  rw [found]
  rfl

theorem node_error {error : SlotError} (missing : list.node slot = .error error) :
    node slot list = .error (.slot error) list := by
  refine (bind_ok rfl _).trans ?_
  rw [missing]
  rfl

theorem change_ok (live : list.occupied? slot = some true) (renew : Node α → Node α) :
    change slot renew list = .ok () (list.update slot renew) := by
  obtain ⟨held, found⟩ := node_of_occupied live
  exact bind_ok (node_ok found) _

theorem followedBy_eq {held : Node α}
    (live : ∀ slot ∈ held.previous, list.occupied? slot = some true) :
    followedBy held.previous held.next list = .ok () (list.bridgeNext held) := by
  unfold followedBy bridgeNext
  cases before : held.previous with
  | none => rfl
  | some slot => exact change_ok (live slot before) _

theorem precededBy_eq {held : Node α}
    (live : ∀ slot ∈ held.next, list.occupied? slot = some true) :
    precededBy held.next held.previous list = .ok () (list.bridgePrevious held) := by
  unfold precededBy bridgePrevious
  cases after : held.next with
  | none => rfl
  | some slot => exact change_ok (live slot after) _

theorem fill_ok (inside : slot < list.slots.size) (node : Node α) :
    fill slot node list =
      .ok () { list with slots := list.slots.setIfInBounds slot (some node) } := by
  refine (bind_ok rfl _).trans ?_
  rw [if_pos inside]
  rfl

theorem shrink_ok (filled : list.size ≠ 0) :
    shrink list = .ok () { list with size := list.size - 1 } := by
  refine (bind_ok rfl _).trans ?_
  rw [if_neg filled]
  rfl

/-- A node can be linked in at either end: the slot holds one, and so do the ends. -/
structure Ready (list : SlabList α) (slot : Nat) : Prop where
  slot : list.occupied? slot = some true
  head : ∀ head ∈ list.head, list.occupied? head = some true
  tail : ∀ tail ∈ list.tail, list.occupied? tail = some true

theorem attachFront_eq (ready : Ready list slot) :
    attachFront slot list = .ok () (list.attachFront slot) := by
  unfold attachFront SlabList.attachFront
  refine (bind_ok rfl _).trans ((bind_ok (change_ok ready.slot _) _).trans ?_)
  cases first : list.head with
  | none => rfl
  | some head =>
    refine (bind_ok (change_ok ?_ _) _).trans rfl
    rw [(Relinked.update list slot _).occupied]
    exact ready.head head first

theorem attachBack_eq (ready : Ready list slot) :
    attachBack slot list = .ok () (list.attachBack slot) := by
  unfold attachBack SlabList.attachBack
  refine (bind_ok rfl _).trans ((bind_ok (change_ok ready.slot _) _).trans ?_)
  cases last : list.tail with
  | none => rfl
  | some tail =>
    refine (bind_ok (change_ok ?_ _) _).trans rfl
    rw [(Relinked.update list slot _).occupied]
    exact ready.tail tail last

theorem detach_error {error : SlotError} (missing : list.node slot = .error error) :
    detach slot list = .error (.slot error) list :=
  bind_error (node_error missing) _

theorem detach_eq {held : Node α} (found : list.node slot = .ok held)
    (before : ∀ slot ∈ held.previous, list.occupied? slot = some true)
    (after : ∀ slot ∈ held.next, list.occupied? slot = some true) :
    detach slot list = .ok () (list.detach slot held) := by
  have joined := Relinked.bridgeNext list held
  have bridged := joined.trans (Relinked.bridgePrevious _ held)
  refine (bind_ok (node_ok found) _).trans ((bind_ok (followedBy_eq before) _).trans ?_)
  refine (bind_ok (precededBy_eq ?_) _).trans (change_ok ?_ _)
  · intro slot next
    rw [joined.occupied]
    exact after slot next
  · rw [bridged.occupied]
    exact occupied_of_node found

theorem allocate_eq (ranged : ∀ slot ∈ list.free, slot < list.slots.size) (key : String)
    (value : α) :
    allocate key value list = .ok (list.allocate key value).1 (list.allocate key value).2 := by
  unfold allocate SlabList.allocate
  refine (bind_ok rfl _).trans ((bind_ok rfl _).trans ?_)
  cases stack : list.free with
  | nil =>
    refine (bind_ok rfl _).trans ((bind_ok rfl _).trans ?_)
    simp [pure, EStateM.pure, stack]
  | cons slot free =>
    have inside := ranged slot (stack ▸ List.mem_cons_self)
    exact (bind_ok rfl _).trans ((bind_ok (fill_ok (by exact inside) _) _).trans rfl)

/-- What work on a list comes to where an operation on it has this outcome: work that stops has
changed nothing. -/
def outcome (list : SlabList α) : Except SlotError (β × SlabList α) →
    EStateM.Result Stop (SlabList α) β
  | .ok (value, after) => .ok value after
  | .error error => .error (.slot error) list

theorem map_outcome {work : Work α β} {result : Except SlotError (β × SlabList α)}
    (done : work list = outcome list result) (change : β → γ) :
    (change <$> work) list = outcome list (result.map (Prod.map change id)) := by
  cases result with
  | error error => exact map_error done change
  | ok finished => exact map_ok done change

end Work

theorem exists_cell {cells : List (Cell α)} {slot : Nat} (member : slot ∈ slotsOf cells) :
    ∃ cell before after, cells = before ++ cell :: after ∧ cell.slot = slot := by
  obtain ⟨cell, inside, same⟩ := List.mem_map.mp member
  obtain ⟨before, after, rfl⟩ := List.append_of_mem inside
  exact ⟨cell, before, after, rfl, same⟩

section

variable {list : SlabList α} {slot : Nat} {error : SlotError}

theorem replace_error (missing : list.node slot = .error error) (value : α) :
    list.replace slot value = .error error := by
  rw [replace, missing]
  rfl

theorem remove_error (missing : list.node slot = .error error) :
    list.remove slot = .error error := by
  rw [remove, missing]
  rfl

end

theorem Spine.ready {list : SlabList α} {cells : List (Cell α)} {slot : Nat}
    (spine : list.Spine cells) (live : ∀ slot ∈ slotsOf cells, list.occupied? slot = some true)
    (taken : list.occupied? slot = some true) : Work.Ready list slot where
  slot := taken
  head := fun head first => live head (List.mem_of_mem_head? (spine.head.symm.trans first))
  tail := fun tail last => live tail (List.mem_of_mem_getLast? (spine.tail.symm.trans last))

namespace Chained

variable {list : SlabList α} {cells before after : List (Cell α)} {cell : Cell α} {held : Node α}
  {slot : Nat}

theorem cell_of_node (chained : list.Chained cells) (found : list.node slot = .ok held) :
    ∃ cell before after, cells = before ++ cell :: after ∧ cell.slot = slot :=
  exists_cell ((chained.room.live slot).mp (occupied_of_node found))

theorem missing_or_cell (chained : list.Chained cells) (slot : Nat) :
    (∃ error, list.node slot = .error error) ∨
      ∃ cell before after, cells = before ++ cell :: after ∧ cell.slot = slot := by
  cases found : list.node slot with
  | error error => exact .inl ⟨error, rfl⟩
  | ok held => exact .inr (chained.cell_of_node found)

theorem live (chained : list.Chained cells) :
    ∀ slot ∈ slotsOf cells, list.occupied? slot = some true :=
  fun slot => (chained.room.live slot).mpr

/-- The slot of an end is one that the chain leads to. -/
theorem node_of_end (chained : list.Chained cells)
    (reached : list.head = some slot ∨ list.tail = some slot) :
    ∃ held, list.node slot = .ok held := by
  apply node_of_occupied (chained.live slot _)
  rcases reached with first | last
  · exact List.mem_of_mem_head? (chained.spine.head.symm.trans first)
  · exact List.mem_of_mem_getLast? (chained.spine.tail.symm.trans last)

/-- A slot without a node is no end of the list, so the moves look at it. -/
theorem not_end (chained : list.Chained cells) {error : SlotError}
    (missing : list.node slot = .error error) : list.head ≠ some slot ∧ list.tail ≠ some slot := by
  refine not_or.mp fun reached => ?_
  obtain ⟨held, found⟩ := chained.node_of_end reached
  nomatch missing.symm.trans found

theorem moveToFront_error (chained : list.Chained cells) {error : SlotError}
    (missing : list.node slot = .error error) : list.moveToFront slot = .error error := by
  rw [SlabList.moveToFront, if_neg (chained.not_end missing).1, missing]
  rfl

theorem moveToBack_error (chained : list.Chained cells) {error : SlotError}
    (missing : list.node slot = .error error) : list.moveToBack slot = .error error := by
  rw [SlabList.moveToBack, if_neg (chained.not_end missing).2, missing]
  rfl

theorem allocate_works (chained : list.Chained cells) (key : String) (value : α) :
    Work.allocate key value list =
      .ok (list.allocate key value).1 (list.allocate key value).2 :=
  Work.allocate_eq (fun _ => chained.free_lt) key value

theorem allocated_ready (chained : list.Chained cells) (key : String) (value : α) :
    Work.Ready (list.allocate key value).2 (list.allocate key value).1 := by
  obtain ⟨_, _, spine, room⟩ := chained.allocate key value
  apply spine.ready
  · intro slot held
    exact (room.live slot).mpr (List.mem_cons_of_mem _ held)
  · exact (room.live _).mpr List.mem_cons_self

theorem pushFront_works (chained : list.Chained cells) (key : String) (value : α) :
    Work.pushFront key value list =
      .ok (list.pushFront key value).1 (list.pushFront key value).2 := by
  refine (Work.bind_ok (chained.allocate_works key value) _).trans ?_
  exact (Work.bind_ok (Work.attachFront_eq (chained.allocated_ready key value)) _).trans rfl

theorem pushBack_works (chained : list.Chained cells) (key : String) (value : α) :
    Work.pushBack key value list =
      .ok (list.pushBack key value).1 (list.pushBack key value).2 := by
  refine (Work.bind_ok (chained.allocate_works key value) _).trans ?_
  exact (Work.bind_ok (Work.attachBack_eq (chained.allocated_ready key value)) _).trans rfl

theorem detach_works (chained : list.Chained (before ++ cell :: after)) :
    Work.detach cell.slot list =
      .ok () (list.detach cell.slot (cell.node (lastSlot before) (firstSlot after))) := by
  apply Work.detach_eq chained.spine.node
  · intro slot previous
    apply chained.live
    have inside : slot ∈ slotsOf before := List.mem_of_mem_getLast? previous
    simp [inside]
  · intro slot next
    apply chained.live
    have inside : slot ∈ slotsOf after := List.mem_of_mem_head? next
    simp [inside]

theorem detached_ready (chained : list.Chained (before ++ cell :: after)) :
    Work.Ready (list.detach cell.slot (cell.node (lastSlot before) (firstSlot after)))
      cell.slot := by
  have live : ∀ slot ∈ slotsOf (before ++ cell :: after),
      (list.detach cell.slot (cell.node (lastSlot before) (firstSlot after))).occupied? slot =
        some true := by
    intro slot held
    rw [(Relinked.detach list cell.slot _).occupied]
    exact chained.live slot held
  apply chained.spine.detach.1.ready
  · intro slot held
    apply live
    simp only [slotsOf_append, slotsOf_cons, List.mem_append, List.mem_cons] at held ⊢
    exact held.imp_right .inr
  · exact live cell.slot (by simp)

/-- A cell is taken out and put back at an end. A slot without a node stops the work before
anything is changed. -/
theorem moved_works (chained : list.Chained cells) (slot : Nat) {attach : Work α Unit}
    {attached : SlabList α → SlabList α}
    (attaches : ∀ list, Work.Ready list slot → attach list = .ok () (attached list)) :
    (Work.detach slot >>= fun _ => attach) list = Work.outcome list
      ((list.node slot).map fun node => ((), attached (list.detach slot node))) := by
  rcases chained.missing_or_cell slot with ⟨error, missing⟩ | ⟨cell, before, after, rfl, rfl⟩
  · rw [missing]
    exact Work.bind_error (Work.detach_error missing) _
  · rw [chained.spine.node]
    exact (Work.bind_ok chained.detach_works _).trans (attaches _ chained.detached_ready)

theorem moveToFront_works (chained : list.Chained cells) (slot : Nat) :
    Work.moveToFront slot list = Work.outcome list ((list.moveToFront slot).map (Prod.mk ())) := by
  refine (Work.bind_ok rfl _).trans ?_
  unfold SlabList.moveToFront
  by_cases first : list.head = some slot
  · rw [if_pos first, if_pos first]
    rfl
  · rw [if_neg first, if_neg first]
    refine (chained.moved_works slot fun _ => Work.attachFront_eq).trans ?_
    cases list.node slot <;> rfl

theorem moveToBack_works (chained : list.Chained cells) (slot : Nat) :
    Work.moveToBack slot list = Work.outcome list ((list.moveToBack slot).map (Prod.mk ())) := by
  refine (Work.bind_ok rfl _).trans ?_
  unfold SlabList.moveToBack
  by_cases last : list.tail = some slot
  · rw [if_pos last, if_pos last]
    rfl
  · rw [if_neg last, if_neg last]
    refine (chained.moved_works slot fun _ => Work.attachBack_eq).trans ?_
    cases list.node slot <;> rfl

theorem replace_works (list : SlabList α) (slot : Nat) (value : α) :
    Work.replace slot value list = Work.outcome list (list.replace slot value) := by
  unfold SlabList.replace
  cases found : list.node slot with
  | error error => exact Work.bind_error (Work.node_error found) _
  | ok held =>
    refine (Work.bind_ok (Work.node_ok found) _).trans ?_
    exact (Work.bind_ok (Work.change_ok (occupied_of_node found) _) _).trans rfl

theorem remove_works (chained : list.Chained cells) (slot : Nat) :
    Work.remove slot list = Work.outcome list (list.remove slot) := by
  unfold SlabList.remove
  rcases chained.missing_or_cell slot with ⟨error, missing⟩ | ⟨cell, before, after, rfl, rfl⟩
  · rw [missing]
    exact Work.bind_error (Work.detach_error missing) _
  · rw [chained.spine.node]
    refine (Work.bind_ok chained.detach_works _).trans ?_
    refine (Work.bind_ok (Work.node_ok (node_of_getElem? chained.spine.detach.2)) _).trans ?_
    refine (Work.bind_ok rfl _).trans ((Work.bind_ok (Work.shrink_ok ?_) _).trans rfl)
    have size := (Relinked.detach list cell.slot
      (cell.node (lastSlot before) (firstSlot after))).size
    have length := chained.room.size
    rw [List.length_append, List.length_cons] at length
    exact fun empty => absurd (size.symm.trans empty) (by omega)

/-- Work on a list comes to what the operation says: it stops with the same error, before its
first change, or leaves the same list. -/
theorem works (chained : list.Chained cells) (operation : Operation α) :
    Work.apply operation list = Work.outcome list (list.apply operation) := by
  cases operation with
  | pushFront key value => exact Work.map_ok (chained.pushFront_works key value) _
  | pushBack key value => exact Work.map_ok (chained.pushBack_works key value) _
  | moveToFront slot =>
    refine (Work.map_outcome (chained.moveToFront_works slot) _).trans ?_
    rw [apply]
    cases list.moveToFront slot <;> rfl
  | moveToBack slot =>
    refine (Work.map_outcome (chained.moveToBack_works slot) _).trans ?_
    rw [apply]
    cases list.moveToBack slot <;> rfl
  | replace slot value => exact Work.map_outcome (replace_works list slot value) _
  | remove slot => exact Work.map_outcome (chained.remove_works slot) _

end Chained

end ReadThrough.SlabList
