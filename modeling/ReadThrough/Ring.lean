import ReadThrough.Bisection
import ReadThrough.Checksum

/-! A consistent hash ring. Every peer stands on the ring at several points; a key belongs
to the first point clockwise from its own position. Owners are found by bisection, and
`successor?_eq_find?` says that this is the search from the lowest point on. -/

namespace ReadThrough

/-- Maps bytes to a position on the ring. -/
abbrev HashFunction := List UInt8 → UInt32

structure Ring.Point where
  position : UInt32
  peer : String
deriving Repr, DecidableEq

/-- Whether a point comes no later than another, counted from position zero. -/
def Ring.Point.precedes (first second : Point) : Bool := first.position ≤ second.position

/-- `points` stand in the order of their positions. -/
structure Ring where
  hash : HashFunction := Checksum.crc32
  replicas : Nat := 50
  points : Array Ring.Point := #[]
  ordered : points.toList.Pairwise (fun first second => first.precedes second) := by simp

namespace Ring

theorem Point.precedes_trans (first second third : Point) :
    first.precedes second → second.precedes third → first.precedes third := by
  simpa [precedes] using UInt32.le_trans

theorem Point.precedes_total (first second : Point) :
    first.precedes second || second.precedes first := by
  simpa [precedes] using UInt32.le_total first.position second.position

/-- The ring on which nobody stands. -/
def empty (hash : HashFunction) (replicas : Nat) : Ring := { hash, replicas }

/-- The points of one peer, at the positions of its name behind the replica numbers. -/
def pointsOf (ring : Ring) (peer : String) : List Point :=
  (List.range ring.replicas).map fun replica =>
    { position := ring.hash (toString replica ++ peer).toUTF8.toList, peer }

/-- Places peers on the ring. The sort is stable, so of equal positions the point that was
placed first stays first. -/
def add (ring : Ring) (peers : List String) : Ring :=
  let points := ring.points.toList ++ peers.flatMap ring.pointsOf
  { ring with
    points := (points.mergeSort Point.precedes).toArray
    ordered := by
      simpa using List.pairwise_mergeSort Point.precedes_trans Point.precedes_total points }

/-- Whether the point with a number, or the end, is not before a position. -/
def reaches (ring : Ring) (position : UInt32) (place : Nat) : Bool :=
  ring.points[place]?.all fun point => position ≤ point.position

/-- The first point that is not before a position, wrapping to the lowest point. -/
def successor? (ring : Ring) (position : UInt32) : Option Point :=
  let place := Bisection.first (ring.reaches position) 0 ring.points.size
  ring.points[place]? <|> ring.points[0]?

/-- The peer that owns a key; an empty ring has no owners. -/
def owner? (ring : Ring) (key : String) : Option String :=
  (ring.successor? (ring.hash key.toUTF8.toList)).map (·.peer)

def size (ring : Ring) : Nat := ring.points.size

def isEmpty (ring : Ring) : Bool := ring.points.isEmpty

theorem reaches_upward (ring : Ring) (position : UInt32) (place next : Nat)
    (behind : place ≤ next) (reached : ring.reaches position place) :
    ring.reaches position next := by
  by_cases inside : next < ring.points.size
  · by_cases same : place = next
    · exact same ▸ reached
    · have ordered := List.pairwise_iff_getElem.mp ring.ordered place next
        (by simpa using by omega) (by simpa using inside) (by omega)
      have earlier : place < ring.points.size := by omega
      simp only [reaches, Array.getElem?_eq_getElem, earlier, inside, Option.all_some,
        decide_eq_true_eq, Array.getElem_toList, Point.precedes] at reached ordered ⊢
      exact UInt32.le_trans reached ordered
  · simp [reaches, Array.getElem?_eq_none (by omega : ring.points.size ≤ next)]

/-- Bisection finds what a search from the lowest point finds. -/
theorem getElem?_first (ring : Ring) (position : UInt32) :
    ring.points[Bisection.first (ring.reaches position) 0 ring.points.size]? =
      ring.points.find? (fun point => position ≤ point.position) := by
  have early (place : Nat)
      (before : place < Bisection.first (ring.reaches position) 0 ring.points.size) :=
    Bisection.not_holds_of_lt_first (ring.reaches_upward position) (Nat.zero_le place) before
  symm
  by_cases inside : Bisection.first (ring.reaches position) 0 ring.points.size < ring.points.size
  · have held := Bisection.holds_first inside
    rw [Array.getElem?_eq_getElem inside, Array.find?_eq_some_iff_getElem]
    refine ⟨by simpa [reaches, inside] using held, _, inside, rfl, fun place before => ?_⟩
    have failed := early place before
    have earlier : place < ring.points.size := by omega
    simpa [reaches, earlier] using failed
  · rw [Array.getElem?_eq_none (Nat.not_lt.mp inside), Array.find?_eq_none]
    intro point member
    obtain ⟨place, earlier, rfl⟩ := Array.mem_iff_getElem.mp member
    have failed := early place (by omega)
    simpa [reaches, earlier] using failed

theorem successor?_eq_find? (ring : Ring) (position : UInt32) :
    ring.successor? position =
      (ring.points.find? (fun point => position ≤ point.position) <|> ring.points[0]?) := by
  rw [← getElem?_first]
  rfl

end Ring

end ReadThrough
