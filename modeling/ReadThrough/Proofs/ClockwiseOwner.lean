import ReadThrough.Ring
import Mathlib.Data.List.Basic

/-! Who owns a key, read off the points as they were placed. Among all points the owner's comes
next to the key's position going clockwise, and among points at one position it is the one that
was placed first. Sorting and searching do not appear: what a sorted ring keeps of the placing
is the order of the points at each single position. -/

namespace ReadThrough.Ring

variable {position : UInt32} {points placed more : List Point} {point : Point} {ring : Ring}

/-- The clockwise distances from a position to two points compare like the points themselves,
unless the search has to pass zero on the way to one of them. -/
theorem distance_le {near far : UInt32}
    (before : (position ≤ near ∧ (near ≤ far ∨ far < position)) ∨ (near ≤ far ∧ far < position)) :
    near - position ≤ far - position := by
  have bound := position.toNat_lt
  have nearBound := near.toNat_lt
  have farBound := far.toNat_lt
  simp only [UInt32.le_iff_toNat_le, UInt32.lt_iff_toNat_lt, UInt32.toNat_sub] at before ⊢
  omega

theorem eq_of_distance_eq {one other : UInt32} (same : one - position = other - position) :
    one = other := by
  simpa using congrArg (· + position) same

/-- Of the points next to a position, going clockwise, the first one in the list. -/
structure Nearest (position : UInt32) (points : List Point) (point : Point) : Prop where
  least : ∀ other ∈ points, point.position - position ≤ other.position - position
  first : points.find? (·.position = point.position) = some point

namespace Nearest

theorem mem (nearest : Nearest position points point) : point ∈ points :=
  List.mem_of_find?_eq_some nearest.first

theorem same_position {other : Point} (same : ∀ point, point ∈ points ↔ point ∈ more)
    (one : Nearest position points point) (two : Nearest position more other) :
    point.position = other.position := by
  apply eq_of_distance_eq
  apply UInt32.le_antisymm
  · exact one.least other ((same other).mpr two.mem)
  · exact two.least point ((same point).mp one.mem)

theorem unique {other : Point} (one : Nearest position points point)
    (two : Nearest position points other) : point = other := by
  have position := one.same_position (fun _ => Iff.rfl) two
  have found := one.first
  rw [position] at found
  exact Option.some.inj (found.symm.trans two.first)

theorem filter (nearest : Nearest position points point) {keep : Point → Bool}
    (kept : keep point = true) : Nearest position (points.filter keep) point := by
  constructor
  · intro other member
    exact nearest.least other (List.mem_filter.mp member).1
  · obtain ⟨_, before, behind, split, apart⟩ := List.find?_eq_some_iff_append.mp nearest.first
    rw [List.find?_filter, List.find?_eq_some_iff_append]
    refine ⟨by simp [kept], before, behind, split, ?_⟩
    intro other member
    have elsewhere := apart other member
    simp only [Bool.not_eq_true', decide_eq_false_iff_not] at elsewhere ⊢
    exact fun both => elsewhere (by simpa using both.2)

theorem of_append (nearest : Nearest position (points ++ more) point) (absent : point ∉ more) :
    Nearest position points point := by
  constructor
  · intro other member
    exact nearest.least other (List.mem_append_left _ member)
  · have first := nearest.first
    rw [List.find?_append] at first
    cases found : points.find? (·.position = point.position) with
    | some other => simpa [found] using first
    | none =>
      rw [found, Option.none_or] at first
      exact absurd (List.mem_of_find?_eq_some first) absent

end Nearest

theorem mem_iff_of_filter_position {one two : List Point} (same : ∀ position,
    one.filter (·.position = position) = two.filter (·.position = position)) (point : Point) :
    point ∈ one ↔ point ∈ two := by
  simpa using congrArg (point ∈ ·) (same point.position)

/-- Which points a ring has, and in which order those at one position were placed. -/
def Holds (ring : Ring) (placed : List Point) : Prop :=
  ∀ position, ring.points.toList.filter (·.position = position) =
    placed.filter (·.position = position)

theorem holds_points (ring : Ring) : ring.Holds ring.points.toList := fun _ => rfl

theorem holds_empty (hash : HashFunction) (replicas : Nat) : (empty hash replicas).Holds [] :=
  fun _ => rfl

/-- The sort is stable: it keeps the order of the points at one position. -/
theorem filter_mergeSort (points : List Point) (position : UInt32) :
    (points.mergeSort Point.precedes).filter (·.position = position) =
      points.filter (·.position = position) := by
  have level : (points.filter (·.position = position)).Pairwise (Point.precedes · ·) := by
    rw [List.pairwise_iff_forall_sublist]
    intro one other pair
    have first : one.position = position := by
      simpa using (List.mem_filter.mp (pair.subset List.mem_cons_self)).2
    have second : other.position = position := by
      simpa using (List.mem_filter.mp (pair.subset (List.mem_cons_of_mem _ List.mem_cons_self))).2
    simp [Point.precedes, first, second]
  have kept := (List.sublist_mergeSort Point.precedes_trans Point.precedes_total level
    List.filter_sublist).filter (·.position = position)
  simp only [List.filter_filter, Bool.and_self] at kept
  refine (kept.eq_of_length ?_).symm
  exact ((List.mergeSort_perm points Point.precedes).filter _).length_eq.symm

theorem Holds.add (holds : ring.Holds placed) (peers : List String) :
    (ring.add peers).Holds (placed ++ peers.flatMap ring.pointsOf) := by
  intro position
  rw [Ring.add, filter_mergeSort, List.filter_append, List.filter_append, holds position]

namespace Holds

theorem mem_iff (holds : ring.Holds placed) (point : Point) :
    point ∈ ring.points.toList ↔ point ∈ placed :=
  mem_iff_of_filter_position holds point

theorem nearest_iff (holds : ring.Holds placed) :
    Nearest position ring.points.toList point ↔ Nearest position placed point := by
  have first := congrArg List.head? (holds point.position)
  rw [List.head?_filter, List.head?_filter] at first
  constructor
  · intro nearest
    refine ⟨fun other member => ?_, first ▸ nearest.first⟩
    exact nearest.least other ((holds.mem_iff other).mpr member)
  · intro nearest
    refine ⟨fun other member => ?_, first ▸ nearest.first⟩
    exact nearest.least other ((holds.mem_iff other).mp member)

end Holds

/-- Where sorted points reach a position, the next point is there: those behind it are further
away, and those before it are passed only after zero. -/
theorem nearest_of_reached {before behind : List Point}
    (sorted : (before ++ point :: behind).Pairwise (Point.precedes · ·))
    (passed : ∀ other ∈ before, other.position < position) (reached : position ≤ point.position) :
    Nearest position (before ++ point :: behind) point := by
  obtain ⟨_, later, _⟩ := List.pairwise_append.mp sorted
  constructor
  · intro other member
    apply distance_le
    left
    rcases List.mem_append.mp member with early | member
    · exact ⟨reached, .inr (passed other early)⟩
    · rcases List.mem_cons.mp member with rfl | late
      · exact ⟨reached, .inl (UInt32.le_refl _)⟩
      · have ahead := (List.pairwise_cons.mp later).1 other late
        exact ⟨reached, .inl (by simpa [Point.precedes] using ahead)⟩
  · rw [List.find?_append, List.find?_eq_none.mpr, Option.none_or]
    · simp
    · intro other early same
      have here : other.position = point.position := by simpa using same
      exact absurd (here ▸ passed other early) (UInt32.not_lt.mpr reached)

theorem le_of_sorted {lowest : Point} {rest : List Point}
    (sorted : (lowest :: rest).Pairwise (Point.precedes · ·)) :
    ∀ point ∈ lowest :: rest, lowest.position ≤ point.position := by
  intro point member
  rcases List.mem_cons.mp member with rfl | late
  · exact UInt32.le_refl _
  · simpa [Point.precedes] using (List.pairwise_cons.mp sorted).1 point late

theorem nearest_of_passed {lowest : Point} {rest : List Point}
    (sorted : (lowest :: rest).Pairwise (Point.precedes · ·))
    (passed : ∀ other ∈ lowest :: rest, other.position < position) :
    Nearest position (lowest :: rest) lowest := by
  constructor
  · intro other member
    apply distance_le
    exact .inr ⟨le_of_sorted sorted other member, passed other member⟩
  · simp

theorem nearest_of_successor? (found : ring.successor? position = some point) :
    Nearest position ring.points.toList point := by
  have sorted := ring.ordered
  rw [successor?_eq_find?] at found
  rw [← Array.find?_toList, ← Array.getElem?_toList] at found
  generalize ring.points.toList = points at sorted found
  cases reached : points.find? (fun point => position ≤ point.position) with
  | some other =>
    obtain rfl : other = point := by simpa [reached] using found
    obtain ⟨here, before, behind, rfl, passed⟩ := List.find?_eq_some_iff_append.mp reached
    apply nearest_of_reached sorted
    · intro early member
      simpa using passed early member
    · simpa using here
  | none =>
    cases points with
    | nil => simp [reached] at found
    | cons lowest rest =>
      obtain rfl : lowest = point := by simpa [reached] using found
      apply nearest_of_passed sorted
      intro other member
      simpa using List.find?_eq_none.mp reached other member

theorem successor?_eq_none : ring.successor? position = none ↔ ring.points.toList = [] := by
  rw [successor?_eq_find?, ← Array.find?_toList, ← Array.getElem?_toList]
  cases points : ring.points.toList with
  | nil => simp
  | cons lowest rest => simp

namespace Holds

/-- The successor of a position is the nearest of the points that were placed. -/
theorem successor?_eq_some (holds : ring.Holds placed) :
    ring.successor? position = some point ↔ Nearest position placed point := by
  rw [← holds.nearest_iff]
  constructor
  · exact nearest_of_successor?
  · intro nearest
    cases found : ring.successor? position with
    | none =>
      have member := nearest.mem
      rw [successor?_eq_none.mp found] at member
      exact absurd member List.not_mem_nil
    | some other => rw [(nearest_of_successor? found).unique nearest]

theorem owner?_eq_some (holds : ring.Holds placed) {key peer : String} :
    ring.owner? key = some peer ↔
      ∃ point, Nearest (ring.hash key.toUTF8.toList) placed point ∧ point.peer = peer := by
  simp only [owner?, Option.map_eq_some_iff, holds.successor?_eq_some]

theorem owner?_eq_none (holds : ring.Holds placed) {key : String} :
    ring.owner? key = none ↔ placed = [] := by
  rw [owner?, Option.map_eq_none_iff, successor?_eq_none, List.eq_nil_iff_forall_not_mem,
    List.eq_nil_iff_forall_not_mem]
  simp only [holds.mem_iff]

end Holds

def ofPeers (hash : HashFunction) (replicas : Nat) (peers : List String) : Ring :=
  (empty hash replicas).add peers

/-- What stands on the ring of these peers, in the order in which it is placed. -/
def placing (hash : HashFunction) (replicas : Nat) (peers : List String) : List Point :=
  peers.flatMap (empty hash replicas).pointsOf

variable {hash : HashFunction} {replicas : Nat} {peers : List String}

theorem placing_cons (hash : HashFunction) (replicas : Nat) (peer : String) (peers : List String) :
    placing hash replicas (peer :: peers) =
      (empty hash replicas).pointsOf peer ++ placing hash replicas peers :=
  List.flatMap_cons

theorem ofPeers_holds (hash : HashFunction) (replicas : Nat) (peers : List String) :
    (ofPeers hash replicas peers).Holds (placing hash replicas peers) :=
  (holds_empty hash replicas).add peers

theorem mem_pointsOf (ring : Ring) (peer : String) : point ∈ ring.pointsOf peer ↔
    point.peer = peer ∧ ∃ replica < ring.replicas,
      ring.hash (toString replica ++ peer).toUTF8.toList = point.position := by
  constructor
  · intro member
    obtain ⟨replica, few, rfl⟩ := List.mem_map.mp member
    exact ⟨rfl, replica, List.mem_range.mp few, rfl⟩
  · rintro ⟨rfl, replica, few, here⟩
    exact List.mem_map.mpr ⟨replica, List.mem_range.mpr few, by rw [here]⟩

theorem mem_placing : point ∈ placing hash replicas peers ↔
    point.peer ∈ peers ∧ ∃ replica < replicas,
      hash (toString replica ++ point.peer).toUTF8.toList = point.position := by
  simp only [placing, List.mem_flatMap, mem_pointsOf]
  constructor
  · rintro ⟨peer, listed, rfl, placed⟩
    exact ⟨listed, placed⟩
  · rintro ⟨listed, placed⟩
    exact ⟨point.peer, listed, rfl, placed⟩

end ReadThrough.Ring
