import ReadThrough.Proofs.SlabWork

/-! A slab list and a plain sequence of cells that go through the same calls. As long as every
call is about a slot that was handed out and not taken back since, no call fails, each one
changes the sequence as its name says, and the links, the ends, the length, the keys and the
values of the list are those of the sequence after every call. -/

namespace ReadThrough.SlabList

variable {α : Type}

/-- The slot that a call is about. A push looks for one itself. -/
def Operation.slot? : Operation α → Option Nat
  | .pushFront .. => none
  | .pushBack .. => none
  | .moveToFront slot => some slot
  | .moveToBack slot => some slot
  | .replace slot _ => some slot
  | .remove slot => some slot

structure Call (α : Type) where
  operation : Operation α
  reply : Reply α

namespace Call

def handsOut? (call : Call α) : Option Nat :=
  match call.reply with
  | .pushed slot => some slot
  | _ => none

def takesBack? (call : Call α) : Option Nat :=
  match call.operation with
  | .remove slot => some slot
  | _ => none

def stores? (call : Call α) (slot : Nat) : Option α :=
  match call.operation, call.reply with
  | .pushFront _ value, .pushed taken => if taken = slot then some value else none
  | .pushBack _ value, .pushed taken => if taken = slot then some value else none
  | .replace replaced value, _ => if replaced = slot then some value else none
  | _, _ => none

end Call

/-- Whether a slot was handed out and not taken back since. The latest call comes first. -/
def live : List (Call α) → Nat → Bool
  | [], _ => false
  | call :: past, slot =>
    call.handsOut? == some slot || live past slot && call.takesBack? != some slot

def latest? (calls : List (Call α)) (slot : Nat) : Option α :=
  calls.findSome? (·.stores? slot)

def extend (past : List (Call α) × SlabList α) (operation : Operation α) :
    Except SlotError (List (Call α) × SlabList α) := do
  let (reply, after) ← past.2.apply operation
  return (⟨operation, reply⟩ :: past.1, after)

/-- The calls of a run, the latest first, and the list after them. -/
def record (list : SlabList α) (operations : List (Operation α)) :
    Except SlotError (List (Call α) × SlabList α) :=
  operations.foldlM extend ([], list)

/-- Every call comes at a time when the slot that it is about is live. -/
def Proper : (past : List (Call α) × SlabList α) → List (Operation α) → Prop
  | _, [] => True
  | past, operation :: operations =>
    (∀ slot ∈ operation.slot?, live past.1 slot = true) ∧
      ∀ next, extend past operation = .ok next → Proper next operations

instance Proper.decidable : (past : List (Call α) × SlabList α) →
    (operations : List (Operation α)) → Decidable (Proper past operations)
  | _, [] => .isTrue trivial
  | past, operation :: operations =>
    match done : extend past operation with
    | .error _ => decidable_of_iff (∀ slot ∈ operation.slot?, live past.1 slot = true)
        ⟨fun own => ⟨own, fun _ other => nomatch done.symm.trans other⟩, And.left⟩
    | .ok next =>
      have := Proper.decidable next operations
      decidable_of_iff
        ((∀ slot ∈ operation.slot?, live past.1 slot = true) ∧ Proper next operations)
        (and_congr_right fun _ => ⟨fun rest _ other =>
          Except.ok.inj (done.symm.trans other) ▸ rest, fun rest => rest next done⟩)

/-- What a call does to a sequence of cells. -/
inductive Effect : Call α → List (Cell α) → List (Cell α) → Prop where
  | pushFront {cell : Cell α} {cells : List (Cell α)} (fresh : cell.slot ∉ slotsOf cells) :
      Effect ⟨.pushFront cell.key cell.value, .pushed cell.slot⟩ cells (cell :: cells)
  | pushBack {cell : Cell α} {cells : List (Cell α)} (fresh : cell.slot ∉ slotsOf cells) :
      Effect ⟨.pushBack cell.key cell.value, .pushed cell.slot⟩ cells (cells ++ [cell])
  | moveToFront {cell : Cell α} {before after : List (Cell α)} :
      Effect ⟨.moveToFront cell.slot, .moved⟩ (before ++ cell :: after)
        (cell :: (before ++ after))
  | moveToBack {cell : Cell α} {before after : List (Cell α)} :
      Effect ⟨.moveToBack cell.slot, .moved⟩ (before ++ cell :: after)
        (before ++ after ++ [cell])
  | replace {cell : Cell α} {before after : List (Cell α)} (value : α) :
      Effect ⟨.replace cell.slot value, .replaced cell.value⟩ (before ++ cell :: after)
        (before ++ { cell with value } :: after)
  | remove {cell : Cell α} {before after : List (Cell α)} :
      Effect ⟨.remove cell.slot, .removed cell.key cell.value⟩ (before ++ cell :: after)
        (before ++ after)

/-- Everything that can be asked of the list agrees with the sequence. -/
structure Shows (list : SlabList α) (cells : List (Cell α)) : Prop where
  forward : list.Meets (·.next) list.head cells
  backward : list.Meets (·.previous) list.tail cells.reverse
  entries : list.entries.map Cell.read = cells
  entriesReversed : list.entriesReversed.map Cell.read = cells.reverse
  keys : list.keys = cells.map (·.key)
  head : list.head = (slotsOf cells).head?
  tail : list.tail = (slotsOf cells).getLast?
  size : list.size = cells.length
  values : ∀ cell ∈ cells, list.value cell.slot = .ok cell.value
  distinct : (slotsOf cells).Nodup

/-- A list and a sequence that went through the same calls, and agreed after each of them. Every
call succeeds in place as well: all nodes that it touches on the way are there. -/
inductive InStep : List (Call α) → SlabList α → List (Cell α) → Prop where
  | start : InStep [] empty []
  | call {past : List (Call α)} {list after : SlabList α} {cells moved : List (Cell α)}
      {operation : Operation α} {reply : Reply α} (before : InStep past list cells)
      (applied : list.apply operation = .ok (reply, after))
      (worked : Work.apply operation list = .ok reply after)
      (effect : Effect ⟨operation, reply⟩ cells moved) (shows : after.Shows moved) :
      InStep (⟨operation, reply⟩ :: past) after moved

theorem Chained.shows {list : SlabList α} {cells : List (Cell α)} (chained : list.Chained cells) :
    list.Shows cells where
  forward := chained.forward
  backward := chained.backward
  entries := chained.entries
  entriesReversed := chained.entriesReversed
  keys := chained.keys
  head := chained.spine.head
  tail := chained.spine.tail
  size := chained.room.size
  values cell member := by
    obtain ⟨before, after, rfl⟩ := List.append_of_mem member
    exact chained.value
  distinct := chained.spine.distinct

/-- A call about a slot of the chain succeeds and does to the cells what its name says. -/
theorem Chained.apply {list : SlabList α} {cells : List (Cell α)} (chained : list.Chained cells)
    (operation : Operation α) (held : ∀ slot ∈ operation.slot?, slot ∈ slotsOf cells) :
    ∃ reply after moved, list.apply operation = .ok (reply, after) ∧
      Effect ⟨operation, reply⟩ cells moved ∧ after.Chained moved := by
  cases operation with
  | pushFront key value =>
    have pushed := chained.pushFront key value
    exact ⟨_, _, _, rfl, .pushFront (List.nodup_cons.mp pushed.spine.distinct).1, pushed⟩
  | pushBack key value =>
    have pushed := chained.pushBack key value
    exact ⟨_, _, _, rfl, .pushBack (nodup_slotsOf_concat.mp pushed.spine.distinct).1, pushed⟩
  | moveToFront slot =>
    obtain ⟨cell, before, after, rfl, rfl⟩ := exists_cell (held slot rfl)
    obtain ⟨moved, done, kept⟩ := chained.moveToFront
    exact ⟨_, moved, _, by rw [SlabList.apply, done]; rfl, .moveToFront, kept⟩
  | moveToBack slot =>
    obtain ⟨cell, before, after, rfl, rfl⟩ := exists_cell (held slot rfl)
    obtain ⟨moved, done, kept⟩ := chained.moveToBack
    exact ⟨_, moved, _, by rw [SlabList.apply, done]; rfl, .moveToBack, kept⟩
  | replace slot value =>
    obtain ⟨cell, before, after, rfl, rfl⟩ := exists_cell (held slot rfl)
    obtain ⟨replaced, done, kept⟩ := chained.replace value
    exact ⟨_, replaced, _, by rw [SlabList.apply, done]; rfl, .replace value, kept⟩
  | remove slot =>
    obtain ⟨cell, before, after, rfl, rfl⟩ := exists_cell (held slot rfl)
    obtain ⟨removed, done, kept⟩ := chained.remove
    exact ⟨_, removed, _, by rw [SlabList.apply, done]; rfl, .remove, kept⟩

theorem slot_ne_of_mem {cells : List (Cell α)} {cell : Cell α} {slot : Nat}
    (outside : slot ∉ slotsOf cells) (member : cell ∈ cells) : slot ≠ cell.slot :=
  fun same => outside (same ▸ List.mem_map_of_mem member)

namespace Effect

variable {call : Call α} {cells moved : List (Cell α)}

theorem mem_slotsOf (effect : Effect call cells moved) (distinct : (slotsOf cells).Nodup)
    (slot : Nat) : slot ∈ slotsOf moved ↔
      call.handsOut? = some slot ∨ slot ∈ slotsOf cells ∧ call.takesBack? ≠ some slot := by
  cases effect with
  | pushFront | pushBack => simp [Call.handsOut?, Call.takesBack?, eq_comm, or_comm]
  | moveToFront | moveToBack =>
    simp [Call.handsOut?, Call.takesBack?]
    grind
  | replace => simp [Call.handsOut?, Call.takesBack?]
  | remove =>
    -- The slot that is taken back stands nowhere else in the sequence.
    have apart := (nodup_slotsOf_middle.mp distinct).1
    simp only [slotsOf_append, slotsOf_cons, List.mem_append, List.mem_cons, not_or] at apart ⊢
    simp [Call.handsOut?, Call.takesBack?]
    grind

/-- A cell holds what the call stored in its slot, or is an old one that the call left alone. -/
theorem stores? (effect : Effect call cells moved) (distinct : (slotsOf cells).Nodup) :
    ∀ cell ∈ moved, call.stores? cell.slot = some cell.value ∨
      call.stores? cell.slot = none ∧ cell ∈ cells := by
  intro cell member
  cases effect with
  | pushFront fresh =>
    rcases List.mem_cons.mp member with rfl | old
    · simp [Call.stores?]
    · simp [Call.stores?, slot_ne_of_mem fresh old, old]
  | pushBack fresh =>
    rcases List.mem_append.mp member with old | new
    · simp [Call.stores?, slot_ne_of_mem fresh old, old]
    · obtain rfl := List.mem_singleton.mp new
      simp [Call.stores?]
  | moveToFront | moveToBack | remove =>
    refine .inr ⟨rfl, ?_⟩
    grind
  | @replace replaced before after value =>
    by_cases own : cell = { replaced with value }
    · subst own
      simp [Call.stores?]
    · have old : cell ∈ before ++ after := by grind
      have alone := (nodup_slotsOf_middle.mp distinct).1
      refine .inr ⟨by simp [Call.stores?, slot_ne_of_mem alone old], ?_⟩
      grind

end Effect

namespace InStep

variable {calls : List (Call α)} {list : SlabList α} {cells : List (Cell α)}

theorem distinct (inStep : InStep calls list cells) : (slotsOf cells).Nodup := by
  cases inStep with
  | start => exact List.nodup_nil
  | call _ _ _ _ shows => exact shows.distinct

theorem live_iff (inStep : InStep calls list cells) (slot : Nat) :
    live calls slot = true ↔ slot ∈ slotsOf cells := by
  induction inStep with
  | start => simp [live]
  | call before _ _ effect _ ih =>
    rw [effect.mem_slotsOf before.distinct, live]
    simp [ih]

theorem latest? (inStep : InStep calls list cells) :
    ∀ cell ∈ cells, latest? calls cell.slot = some cell.value := by
  induction inStep with
  | start => exact fun _ none => absurd none List.not_mem_nil
  | call before _ _ effect _ ih =>
    intro cell member
    rw [SlabList.latest?, List.findSome?_cons]
    rcases effect.stores? before.distinct cell member with stored | ⟨silent, old⟩
    · rw [stored]
    · rw [silent]
      exact ih cell old

theorem extended (inStep : InStep calls list cells) (chained : list.Chained cells)
    (operations : List (Operation α)) (proper : Proper (calls, list) operations) :
    ∃ later after moved, operations.foldlM extend (calls, list) = .ok (later, after) ∧
      later.map (·.operation) = operations.reverse ++ calls.map (·.operation) ∧
      InStep later after moved ∧ after.Chained moved := by
  induction operations generalizing calls list cells with
  | nil => exact ⟨calls, list, cells, rfl, rfl, inStep, chained⟩
  | cons operation operations ih =>
    obtain ⟨own, others⟩ := proper
    have held : ∀ slot ∈ operation.slot?, slot ∈ slotsOf cells :=
      fun slot named => (inStep.live_iff slot).mp (own slot named)
    obtain ⟨reply, next, moved, done, effect, kept⟩ := chained.apply operation held
    have entered : extend (calls, list) operation = .ok (⟨operation, reply⟩ :: calls, next) := by
      simp only [extend, done, bind, Except.bind]
      rfl
    have worked : Work.apply operation list = .ok reply next := by
      rw [chained.works, done]
      rfl
    obtain ⟨later, after, final, rest, made, steps, settled⟩ :=
      ih (.call inStep done worked effect kept.shows) kept (others _ entered)
    refine ⟨later, after, final, ?_, ?_, steps, settled⟩
    · simp only [List.foldlM_cons, entered, bind, Except.bind]
      exact rest
    · rw [made]
      simp

end InStep

/-- Any calls on an empty list, each about a slot that is live when it is made, succeed, and no
node that one of them touches on the way is missing. The list stays in step with a plain
sequence: a push puts a cell with a slot that was not live at its end, a move takes one cell to an
end, a replacement changes one value and hands back the old one, a removal takes one cell out and
hands back its key and value. The slots of the sequence are the live ones, and each slot holds
what was stored in it last. -/
theorem acts_as_sequence (operations : List (Operation α))
    (proper : Proper ([], empty) operations) :
    ∃ calls list cells, (empty : SlabList α).record operations = .ok (calls, list) ∧
      calls.map (·.operation) = operations.reverse ∧ InStep calls list cells ∧
      list.Shows cells ∧ (∀ slot, live calls slot = true ↔ slot ∈ slotsOf cells) ∧
      ∀ slot, live calls slot = true →
        ∃ value, latest? calls slot = some value ∧ list.value slot = .ok value := by
  obtain ⟨calls, list, cells, done, made, inStep, chained⟩ :=
    InStep.start.extended empty_chained operations proper
  rw [List.map_nil, List.append_nil] at made
  refine ⟨calls, list, cells, done, made, inStep, chained.shows, inStep.live_iff, ?_⟩
  intro slot lives
  obtain ⟨cell, inside, rfl⟩ := List.mem_map.mp ((inStep.live_iff slot).mp lives)
  exact ⟨cell.value, inStep.latest? cell inside, chained.shows.values cell inside⟩

/-- The only cell is taken out, its slot is handed out again, and the new cell is moved behind the
one that came after it. -/
theorem acts_as_sequence_reused :
    let operations : List (Operation Nat) :=
      [.pushBack "a" 1, .remove 0, .pushFront "b" 2, .pushBack "c" 3, .moveToBack 0, .replace 0 4]
    Proper ([], empty) operations ∧ ∃ calls list cells,
      (empty : SlabList Nat).record operations = .ok (calls, list) ∧ InStep calls list cells ∧
      list.Shows cells ∧ list.keys = ["c", "b"] ∧ latest? calls 0 = some 4 := by
  intro operations
  have proper : Proper ([], empty) operations := by decide
  obtain ⟨calls, list, cells, done, _, inStep, shows, _⟩ := acts_as_sequence operations proper
  refine ⟨proper, calls, list, cells, done, inStep, shows, ?_⟩
  cases done
  exact ⟨by decide, by decide⟩

end ReadThrough.SlabList
