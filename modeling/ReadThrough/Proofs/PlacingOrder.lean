import ReadThrough.Proofs.ClockwiseOwner

/-! Who owns a key after any calls of `add`, read off the calls. Every point has its turn: the call
that placed it, the place of its peer in the list of that call, and its number among the replicas.
The owner's point is the next one going clockwise, and of those at one position it is the one that
had the first turn, however often the ring was sorted since. -/

namespace ReadThrough.Ring

variable {hash : HashFunction} {replicas : Nat} {calls : List (List String)} {position : UInt32}
  {point : Point}

/-- When a point was placed: in which call, at which place of its list and as which replica. -/
structure Turn where
  call : Nat
  place : Nat
  replica : Nat

def Turn.precedes (first second : Turn) : Prop :=
  first.call < second.call ∨ first.call = second.call ∧
    (first.place < second.place ∨ first.place = second.place ∧ first.replica < second.replica)

theorem Turn.precedes_asymm {first second : Turn} (before : first.precedes second) :
    first ≠ second ∧ ¬second.precedes first := by
  unfold precedes at before ⊢
  refine ⟨?_, by omega⟩
  rintro rfl
  omega

/-- The calls place a point in a turn. -/
structure Placed (hash : HashFunction) (replicas : Nat) (calls : List (List String)) (turn : Turn)
    (point : Point) : Prop where
  listed : ∃ peers, calls[turn.call]? = some peers ∧ peers[turn.place]? = some point.peer
  replica : turn.replica < replicas
  position : hash (toString turn.replica ++ point.peer).toUTF8.toList = point.position

/-- The ring after calls of `add` on the one where nobody stands. -/
def ofCalls (hash : HashFunction) (replicas : Nat) (calls : List (List String)) : Ring :=
  calls.foldl add (empty hash replicas)

/-- All points with their turns, one after the other. -/
def schedule (hash : HashFunction) (replicas : Nat) (calls : List (List String)) :
    List (Turn × Point) :=
  calls.zipIdx.flatMap fun (peers, call) =>
    peers.zipIdx.flatMap fun (peer, place) =>
      (List.range replicas).map fun replica =>
        (⟨call, place, replica⟩, ⟨hash (toString replica ++ peer).toUTF8.toList, peer⟩)

theorem mem_schedule {turn : Turn} :
    (turn, point) ∈ schedule hash replicas calls ↔ Placed hash replicas calls turn point := by
  simp only [schedule, List.mem_flatMap, List.mem_map, List.mem_range, Prod.exists,
    List.mem_zipIdx_iff_getElem?]
  constructor
  · rintro ⟨peers, call, called, peer, place, listed, replica, few, same⟩
    obtain ⟨rfl, rfl⟩ := Prod.mk.inj same
    exact ⟨⟨peers, called, listed⟩, few, rfl⟩
  · rintro ⟨⟨peers, called, listed⟩, few, here⟩
    exact ⟨peers, turn.call, called, point.peer, turn.place, listed, turn.replica, few, by rw [here]⟩

theorem zipIdx_ordered {α : Type} (items : List α) :
    items.zipIdx.Pairwise fun first second => first.2 < second.2 := by
  rw [← List.pairwise_map, List.zipIdx_map_snd]
  exact List.pairwise_lt_range'

theorem schedule_ordered (hash : HashFunction) (replicas : Nat) (calls : List (List String)) :
    (schedule hash replicas calls).Pairwise fun first second => first.1.precedes second.1 := by
  refine List.pairwise_flatMap.mpr ⟨fun (peers, call) _ => ?_, ?_⟩
  · refine List.pairwise_flatMap.mpr ⟨fun (peer, place) _ => ?_, ?_⟩
    · refine List.pairwise_map.mpr (List.pairwise_lt_range.imp fun fewer => ?_)
      exact .inr ⟨rfl, .inr ⟨rfl, fewer⟩⟩
    · refine (zipIdx_ordered peers).imp fun earlier first own second other => ?_
      obtain ⟨_, _, rfl⟩ := List.mem_map.mp own
      obtain ⟨_, _, rfl⟩ := List.mem_map.mp other
      exact .inr ⟨rfl, .inl earlier⟩
  · refine (zipIdx_ordered calls).imp fun earlier first own second other => ?_
    obtain ⟨_, _, own⟩ := List.mem_flatMap.mp own
    obtain ⟨_, _, other⟩ := List.mem_flatMap.mp other
    obtain ⟨_, _, rfl⟩ := List.mem_map.mp own
    obtain ⟨_, _, rfl⟩ := List.mem_map.mp other
    exact .inl earlier

theorem flatMap_zipIdx {α β : Type} (items : List α) (f : α → List β) :
    (items.zipIdx.flatMap fun item => f item.1) = items.flatMap f := by
  rw [← List.flatMap_map Prod.fst f, List.zipIdx_map_fst]

theorem schedule_points (hash : HashFunction) (replicas : Nat) (calls : List (List String)) :
    (schedule hash replicas calls).map (·.2) = calls.flatMap (placing hash replicas) :=
  calc (schedule hash replicas calls).map (·.2)
    _ = calls.zipIdx.flatMap fun called =>
        called.1.zipIdx.flatMap fun listed => (empty hash replicas).pointsOf listed.1 := by
      simp [schedule, List.map_flatMap, Function.comp_def, pointsOf, empty]
    _ = calls.zipIdx.flatMap fun called => placing hash replicas called.1 := by
      simp only [flatMap_zipIdx, placing]
    _ = calls.flatMap (placing hash replicas) := flatMap_zipIdx calls _

theorem foldl_add_holds {ring : Ring} {placed : List Point} (holds : ring.Holds placed)
    (calls : List (List String)) : (calls.foldl add ring).Holds
      (placed ++ calls.flatMap fun peers => peers.flatMap ring.pointsOf) := by
  induction calls generalizing ring placed with
  | nil => simpa using holds
  | cons peers calls ih =>
    have later := ih (holds.add peers)
    rw [List.append_assoc] at later
    exact later

theorem ofCalls_hash (hash : HashFunction) (replicas : Nat) (calls : List (List String)) :
    (ofCalls hash replicas calls).hash = hash := by
  have kept (ring : Ring) : (calls.foldl add ring).hash = ring.hash := by
    induction calls generalizing ring with
    | nil => rfl
    | cons peers calls ih => exact ih (ring.add peers)
  exact kept (empty hash replicas)

theorem ofCalls_holds (hash : HashFunction) (replicas : Nat) (calls : List (List String)) :
    (ofCalls hash replicas calls).Holds ((schedule hash replicas calls).map (·.2)) := by
  rw [schedule_points]
  exact foldl_add_holds (holds_empty hash replicas) calls

/-- Where the turns are in order, the first of the points next to a position is the one among
them that had the first turn. -/
theorem nearest_map_iff {schedule : List (Turn × Point)}
    (ordered : schedule.Pairwise fun first second => first.1.precedes second.1) :
    Nearest position (schedule.map (·.2)) point ↔ ∃ turn, (turn, point) ∈ schedule ∧
      ∀ other ∈ schedule, point.position - position < other.2.position - position ∨
        point.position = other.2.position ∧ (turn = other.1 ∨ turn.precedes other.1) := by
  constructor
  · intro ⟨least, first⟩
    rw [List.find?_map, Option.map_eq_some_iff] at first
    obtain ⟨⟨turn, _⟩, found, rfl⟩ := first
    obtain ⟨_, before, behind, rfl, elsewhere⟩ := List.find?_eq_some_iff_append.mp found
    refine ⟨turn, by simp, fun other member => ?_⟩
    rcases UInt32.lt_or_eq_of_le (least other.2 (List.mem_map_of_mem member)) with closer | level
    · exact .inl closer
    · have same := eq_of_distance_eq level
      refine .inr ⟨same, ?_⟩
      rcases List.mem_append.mp member with early | member
      · have apart := elsewhere other early
        exact absurd same.symm (by simpa using apart)
      · rcases List.mem_cons.mp member with rfl | late
        · exact .inl rfl
        · exact .inr ((List.pairwise_cons.mp (List.pairwise_append.mp ordered).2.1).1 other late)
  · rintro ⟨turn, member, best⟩
    constructor
    · intro _ listed
      obtain ⟨other, member, rfl⟩ := List.mem_map.mp listed
      rcases best other member with closer | ⟨same, _⟩
      · exact UInt32.le_of_lt closer
      · rw [same]
        exact UInt32.le_refl _
    · obtain ⟨before, behind, rfl⟩ := List.append_of_mem member
      rw [List.find?_eq_some_iff_append]
      refine ⟨by simp, before.map (·.2), behind.map (·.2), by simp, fun _ passed => ?_⟩
      obtain ⟨other, early, rfl⟩ := List.mem_map.mp passed
      -- What stands before the chosen point had its turn earlier, so it cannot be level with it.
      have earlier : other.1.precedes turn :=
        (List.pairwise_append.mp ordered).2.2 other early _ List.mem_cons_self
      have apart : other.2.position ≠ point.position := by
        intro same
        rcases best other (List.mem_append_left _ early) with closer | ⟨_, rfl | later⟩
        · rw [same] at closer
          exact UInt32.lt_irrefl _ closer
        · exact (Turn.precedes_asymm earlier).1 rfl
        · exact (Turn.precedes_asymm earlier).2 later
      simpa using apart

/-- A call that names a peer places a point, unless there are no replicas. -/
theorem exists_placed {peers : List String} (member : peers ∈ calls) (named : peers ≠ [])
    (positive : replicas ≠ 0) : ∃ turn point, Placed hash replicas calls turn point := by
  obtain ⟨call, called⟩ := List.mem_iff_getElem?.mp member
  obtain ⟨peer, rest, rfl⟩ := List.exists_cons_of_ne_nil named
  let point : Point := ⟨hash (toString 0 ++ peer).toUTF8.toList, peer⟩
  exact ⟨⟨call, 0, 0⟩, point, ⟨_, called, rfl⟩, Nat.pos_of_ne_zero positive, rfl⟩

theorem not_placed_iff : (∀ turn point, ¬Placed hash replicas calls turn point) ↔
    (∀ peers ∈ calls, peers = []) ∨ replicas = 0 := by
  constructor
  · intro vacant
    by_contra occupied
    simp only [not_or, not_forall] at occupied
    obtain ⟨⟨peers, member, named⟩, positive⟩ := occupied
    obtain ⟨turn, point, placed⟩ := exists_placed member named positive
    exact vacant turn point placed
  · rintro (silent | single) turn point ⟨⟨peers, called, listed⟩, few, _⟩
    · rw [silent peers (List.mem_of_getElem? called)] at listed
      cases listed
    · omega

/-- A key has no owner exactly if the calls placed no point, be it that they named no peers or
that there are no replicas. Otherwise its owner's point has the least distance from the key, going
clockwise and over zero if need be; of all points at that distance it was placed first. -/
theorem owner_is_successor (hash : HashFunction) (replicas : Nat) (calls : List (List String))
    (key : String) :
    let position := hash key.toUTF8.toList
    let owner? := (ofCalls hash replicas calls).owner? key
    (owner? = none ↔ ∀ turn point, ¬Placed hash replicas calls turn point) ∧
      (owner? = none ↔ (∀ peers ∈ calls, peers = []) ∨ replicas = 0) ∧
      ∀ peer, owner? = some peer ↔ ∃ turn point, Placed hash replicas calls turn point ∧
        point.peer = peer ∧ ∀ other rival, Placed hash replicas calls other rival →
          point.position - position < rival.position - position ∨
            point.position = rival.position ∧ (turn = other ∨ turn.precedes other) := by
  intro position owner?
  have holds := ofCalls_holds hash replicas calls
  have unowned : owner? = none ↔ ∀ turn point, ¬Placed hash replicas calls turn point := by
    rw [holds.owner?_eq_none, List.map_eq_nil_iff, List.eq_nil_iff_forall_not_mem, Prod.forall]
    simp only [mem_schedule]
  refine ⟨unowned, unowned.trans not_placed_iff, fun peer => ?_⟩
  rw [holds.owner?_eq_some, ofCalls_hash]
  simp only [nearest_map_iff (schedule_ordered hash replicas calls), Prod.forall, mem_schedule]
  constructor
  · rintro ⟨point, ⟨turn, placed, best⟩, same⟩
    exact ⟨turn, point, placed, same, best⟩
  · rintro ⟨turn, point, placed, same, best⟩
    exact ⟨point, ⟨turn, placed, best⟩, same⟩

end ReadThrough.Ring
