import Mathlib
import ReadThrough.Proofs.PlacingOrder

/-! A ring that grows call by call is the ring of one call that names the same peers in the same
order: sorting what is sorted already, with more points behind it, keeps the order of placing at
every position. A peer that is named again only places points behind its own, so leaving out
repeated mentions takes no key from its owner. -/

namespace ReadThrough.Ring

variable {position : UInt32} {points placed more : List Point} {point : Point} {ring other : Ring}

/-- Sorted points are determined by those at each single position. -/
theorem eq_of_filter_position {one two : List Point} (sorted : one.Pairwise (Point.precedes · ·))
    (ordered : two.Pairwise (Point.precedes · ·)) (same : ∀ position,
      one.filter (·.position = position) = two.filter (·.position = position)) : one = two := by
  have members := mem_iff_of_filter_position same
  induction one generalizing two with
  | nil =>
    symm
    rw [List.eq_nil_iff_forall_not_mem]
    exact fun point member => List.not_mem_nil ((members point).mpr member)
  | cons first one ih =>
    cases two with
    | nil => exact absurd ((members first).mp List.mem_cons_self) List.not_mem_nil
    | cons lead two =>
      -- Both lists start at their lowest position, and with the first point placed there.
      have level : first.position = lead.position := UInt32.le_antisymm
        (le_of_sorted sorted lead ((members lead).mpr List.mem_cons_self))
        (le_of_sorted ordered first ((members first).mp List.mem_cons_self))
      have heads := same lead.position
      rw [List.filter_cons_of_pos (by simpa using level), List.filter_cons_of_pos (by simp)] at heads
      obtain rfl := (List.cons.inj heads).1
      have rests (position : UInt32) :
          one.filter (·.position = position) = two.filter (·.position = position) := by
        have whole := same position
        by_cases here : first.position = position
        · rw [List.filter_cons_of_pos (by simpa using here),
            List.filter_cons_of_pos (by simpa using here)] at whole
          exact (List.cons.inj whole).2
        · rwa [List.filter_cons_of_neg (by simpa using here),
            List.filter_cons_of_neg (by simpa using here)] at whole
      rw [ih sorted.of_cons ordered.of_cons rests (mem_iff_of_filter_position rests)]

theorem Holds.points_eq (holds : ring.Holds placed) (held : other.Holds placed) :
    ring.points = other.points := by
  apply Array.toList_inj.mp
  apply eq_of_filter_position ring.ordered other.ordered
  intro position
  rw [holds position, held position]

theorem add_nil (ring : Ring) : ring.add [] = ring := by
  have points : (ring.add []).points = ring.points := by
    have added := ring.holds_points.add []
    rw [List.flatMap_nil, List.append_nil] at added
    exact added.points_eq ring.holds_points
  cases ring
  simpa [add] using points

/-- Naming peers in two calls is naming them in one. -/
theorem add_append (ring : Ring) (first second : List String) :
    ring.add (first ++ second) = (ring.add first).add second := by
  have points : (ring.add (first ++ second)).points = ((ring.add first).add second).points := by
    have once := ring.holds_points.add (first ++ second)
    have twice := (ring.holds_points.add first).add second
    rw [List.flatMap_append, ← List.append_assoc] at once
    exact once.points_eq twice
  simpa [add] using points

theorem foldl_add (ring : Ring) (calls : List (List String)) :
    calls.foldl add ring = ring.add calls.flatten := by
  induction calls generalizing ring with
  | nil => exact ring.add_nil.symm
  | cons peers calls ih => rw [List.foldl_cons, ih, List.flatten_cons, add_append]

theorem eraseDups_concat {α : Type} [DecidableEq α] (items : List α) (item : α) :
    (items ++ [item]).eraseDups =
      if item ∈ items then items.eraseDups else items.eraseDups ++ [item] := by
  rw [List.eraseDups_append]
  have single : [item].eraseDups = [item] := rfl
  by_cases repeated : item ∈ items <;> simp [List.removeAll, repeated, single]

/-- A search passes over repeated items. -/
theorem findSome?_eraseDups {α β : Type} [DecidableEq α] (found? : α → Option β)
    (items : List α) : items.eraseDups.findSome? found? = items.findSome? found? := by
  induction items using List.reverseRecOn with
  | nil => rfl
  | append_singleton items item ih =>
    rw [eraseDups_concat, List.findSome?_append, ← ih]
    split
    next repeated =>
      cases result : items.eraseDups.findSome? found? with
      | some value => rfl
      | none =>
        have missed := List.findSome?_eq_none_iff.mp result item (List.mem_eraseDups.mpr repeated)
        rw [List.findSome?_singleton, missed]
        rfl
    next => exact List.findSome?_append

theorem find?_placing_eraseDups (hash : HashFunction) (replicas : Nat) (peers : List String)
    (test : Point → Bool) : (placing hash replicas peers.eraseDups).find? test =
      (placing hash replicas peers).find? test := by
  rw [placing, placing, List.find?_flatMap, List.find?_flatMap, findSome?_eraseDups]

/-- The next point is the same in lists in which every search finds the same. -/
theorem Nearest.of_find? (nearest : Nearest position points point)
    (same : ∀ test, points.find? test = more.find? test) : Nearest position more point := by
  refine ⟨fun other member => nearest.least other ?_, (same _).symm.trans nearest.first⟩
  have found : (more.find? (· = other)).isSome :=
    List.find?_isSome.mpr ⟨other, member, decide_eq_true rfl⟩
  rw [← same] at found
  obtain ⟨listed, present, here⟩ := List.find?_isSome.mp found
  exact of_decide_eq_true here ▸ present

theorem owner?_eraseDups (hash : HashFunction) (replicas : Nat) (peers : List String)
    (key : String) : (ofPeers hash replicas peers.eraseDups).owner? key =
      (ofPeers hash replicas peers).owner? key := by
  have once := ofPeers_holds hash replicas peers.eraseDups
  have again := ofPeers_holds hash replicas peers
  have found := find?_placing_eraseDups hash replicas peers
  apply Option.ext
  intro owner
  rw [once.owner?_eq_some, again.owner?_eq_some]
  constructor
  · rintro ⟨point, nearest, same⟩
    exact ⟨point, nearest.of_find? found, same⟩
  · rintro ⟨point, nearest, same⟩
    exact ⟨point, nearest.of_find? fun test => (found test).symm, same⟩

/-- The calls without the mentions of a peer that is known or was named before, be it in an
earlier call or earlier in the same one. -/
def firstMentions (known : List String) : List (List String) → List (List String)
  | [] => []
  | peers :: calls =>
    (peers.filter (· ∉ known)).eraseDups :: firstMentions (known ++ peers) calls

theorem flatten_firstMentions (known : List String) (calls : List (List String)) :
    (firstMentions known calls).flatten = (calls.flatten.filter (· ∉ known)).eraseDups := by
  induction calls generalizing known with
  | nil => rfl
  | cons peers calls ih =>
    have behind : (calls.flatten.filter (· ∉ known)).removeAll (peers.filter (· ∉ known)) =
        calls.flatten.filter (· ∉ known ++ peers) := by
      rw [List.removeAll, List.filter_filter]
      refine List.filter_congr fun peer _ => ?_
      by_cases early : peer ∈ known <;> simp [early]
    rw [firstMentions, List.flatten_cons, ih, List.flatten_cons, List.filter_append,
      List.eraseDups_append, behind]

/-- However the peers are spread over calls of `add`, the ring is that of one call with all lists
joined, point for point; and with every repeated mention left out of the calls, each key keeps its
owner. -/
theorem calls_agree (hash : HashFunction) (replicas : Nat) (calls : List (List String)) :
    ofCalls hash replicas calls = ofPeers hash replicas calls.flatten ∧
      ∀ key, (ofCalls hash replicas (firstMentions [] calls)).owner? key =
        (ofCalls hash replicas calls).owner? key := by
  have joined (calls : List (List String)) :
      ofCalls hash replicas calls = ofPeers hash replicas calls.flatten :=
    foldl_add (empty hash replicas) calls
  refine ⟨joined calls, fun key => ?_⟩
  have thinned : (firstMentions [] calls).flatten = calls.flatten.eraseDups := by
    rw [flatten_firstMentions, List.filter_eq_self.mpr (by simp)]
  rw [joined, joined, thinned, owner?_eraseDups]

example : firstMentions [] [["a", "b", "a"], ["b"], ["c", "a"]] = [["a", "b"], [], ["c"]] := by
  decide

end ReadThrough.Ring
