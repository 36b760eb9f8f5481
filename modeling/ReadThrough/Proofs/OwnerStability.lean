import Mathlib
import ReadThrough.Proofs.ClockwiseOwner

/-! Who owns a key when the list of peers is another one. Peers that come or go take their own
keys and leave all others where they are, whatever positions fall together. The order of the
list matters exactly where two peers have a point at the same position. -/

namespace ReadThrough.Ring

variable {hash : HashFunction} {replicas : Nat} {peers : List String} {ring : Ring}
  {key : String}

theorem placing_filter (hash : HashFunction) (replicas : Nat) (peers : List String)
    (keep : String → Bool) : placing hash replicas (peers.filter keep) =
      (placing hash replicas peers).filter fun point => keep point.peer := by
  induction peers with
  | nil => rfl
  | cons peer peers ih =>
    have all (kept : Bool) (same : keep peer = kept) :
        ((empty hash replicas).pointsOf peer).filter (fun point => keep point.peer) =
          ((empty hash replicas).pointsOf peer).filter fun _ => kept := by
      apply List.filter_congr
      intro point member
      rw [((mem_pointsOf _ peer).mp member).1, same]
    rw [placing_cons, List.filter_append, ← ih]
    cases same : keep peer with
    | true => rw [List.filter_cons_of_pos same, placing_cons, all true same, List.filter_true]
    | false =>
      rw [List.filter_cons_of_neg (by simp [same]), all false same, List.filter_false,
        List.nil_append]

theorem owner?_filter {keep : String → Bool}
    (stays : ∀ owner, (ofPeers hash replicas peers).owner? key = some owner → keep owner = true) :
    (ofPeers hash replicas (peers.filter keep)).owner? key =
      (ofPeers hash replicas peers).owner? key := by
  have before := ofPeers_holds hash replicas peers
  have after := ofPeers_holds hash replicas (peers.filter keep)
  rw [placing_filter] at after
  cases owned : (ofPeers hash replicas peers).owner? key with
  | none =>
    rw [after.owner?_eq_none, before.owner?_eq_none.mp owned, List.filter_nil]
  | some owner =>
    obtain ⟨point, nearest, rfl⟩ := before.owner?_eq_some.mp owned
    exact after.owner?_eq_some.mpr ⟨point, nearest.filter (stays _ owned), rfl⟩

/-- Peers that come take keys for themselves only. -/
theorem owner?_add (ring : Ring) (more : List String) (key : String) :
    (ring.add more).owner? key = ring.owner? key ∨
      ∃ owner ∈ more, (ring.add more).owner? key = some owner := by
  have before := ring.holds_points
  have after := before.add more
  cases owned : (ring.add more).owner? key with
  | none =>
    have none := List.append_eq_nil_iff.mp (after.owner?_eq_none.mp owned)
    exact .inl (before.owner?_eq_none.mpr none.1).symm
  | some owner =>
    obtain ⟨point, nearest, rfl⟩ := after.owner?_eq_some.mp owned
    by_cases new : point ∈ more.flatMap ring.pointsOf
    · obtain ⟨peer, listed, placed⟩ := List.mem_flatMap.mp new
      obtain ⟨rfl, _⟩ := (mem_pointsOf ring peer).mp placed
      exact .inr ⟨point.peer, listed, rfl⟩
    · exact .inl (before.owner?_eq_some.mpr ⟨point, nearest.of_append new, rfl⟩).symm

/-- When peers go, a key whose owner stays keeps it; so adding peers moves a key to none but
them, and removing peers moves none but their keys. -/
theorem owner_stability (hash : HashFunction) (replicas : Nat) :
    (∀ (peers : List String) (gone : String → Prop) [DecidablePred gone] (key : String),
      (∀ owner, (ofPeers hash replicas peers).owner? key = some owner → ¬gone owner) →
      (ofPeers hash replicas (peers.filter (¬gone ·))).owner? key =
        (ofPeers hash replicas peers).owner? key) ∧
    (∀ (ring : Ring) (more : List String) (key : String),
      (ring.add more).owner? key ≠ ring.owner? key →
      ∃ owner ∈ more, (ring.add more).owner? key = some owner) ∧
    (∀ (peers : List String) (gone : String → Prop) [DecidablePred gone] (key : String),
      (ofPeers hash replicas (peers.filter (¬gone ·))).owner? key ≠
        (ofPeers hash replicas peers).owner? key →
      ∃ owner, gone owner ∧ (ofPeers hash replicas peers).owner? key = some owner) := by
  have kept (peers : List String) (gone : String → Prop) [DecidablePred gone] (key : String)
      (stays : ∀ owner, (ofPeers hash replicas peers).owner? key = some owner → ¬gone owner) :
      (ofPeers hash replicas (peers.filter (¬gone ·))).owner? key =
        (ofPeers hash replicas peers).owner? key := by
    apply owner?_filter
    intro owner owned
    simpa using stays owner owned
  refine ⟨kept, ?_, ?_⟩
  · intro ring more key moved
    exact (owner?_add ring more key).resolve_left moved
  · intro peers gone _ key moved
    by_contra others
    refine moved (kept peers gone key fun owner owned left => ?_)
    exact others ⟨owner, left, owned⟩

/-- Of three peers whose points all fall together the first one owns every key, also when the
second one goes. -/
theorem owner_stability_of_ties :
    (ofPeers (fun _ => 7) 2 ["a", "b", "c"]).owner? "k" = some "a" ∧
    (ofPeers (fun _ => 7) 2 (["a", "b", "c"].filter (¬· = "b"))).owner? "k" = some "a" := by
  have owned : (ofPeers (fun _ => 7) 2 ["a", "b", "c"]).owner? "k" = some "a" := by cbv
  refine ⟨owned, ?_⟩
  rw [(owner_stability _ 2).1 ["a", "b", "c"] (· = "b") "k", owned]
  intro owner same
  obtain rfl := Option.some.inj (owned.symm.trans same)
  decide

/-- No two of the peers have a point at the same position. -/
def Separate (hash : HashFunction) (replicas : Nat) (peers : List String) : Prop :=
  ∀ one ∈ peers, ∀ other ∈ peers, one ≠ other → ∀ i < replicas, ∀ j < replicas,
    hash (toString i ++ one).toUTF8.toList ≠ hash (toString j ++ other).toUTF8.toList

theorem Separate.owner?_perm (separate : Separate hash replicas peers) {order : List String}
    (same : order.Perm peers) (key : String) :
    (ofPeers hash replicas order).owner? key = (ofPeers hash replicas peers).owner? key := by
  have ordered := ofPeers_holds hash replicas order
  have given := ofPeers_holds hash replicas peers
  have members (point : Point) :
      point ∈ placing hash replicas order ↔ point ∈ placing hash replicas peers := by
    rw [mem_placing, mem_placing, same.mem_iff]
  cases owned : (ofPeers hash replicas order).owner? key with
  | none =>
    have none := ordered.owner?_eq_none.mp owned
    refine (given.owner?_eq_none.mpr (List.eq_nil_iff_forall_not_mem.mpr ?_)).symm
    intro point member
    rw [← members, none] at member
    exact absurd member List.not_mem_nil
  | some owner =>
    obtain ⟨point, nearest, rfl⟩ := ordered.owner?_eq_some.mp owned
    cases found : (ofPeers hash replicas peers).owner? key with
    | none =>
      have member := (members point).mp nearest.mem
      rw [given.owner?_eq_none.mp found] at member
      exact absurd member List.not_mem_nil
    | some other =>
      obtain ⟨next, follows, rfl⟩ := given.owner?_eq_some.mp found
      have together := nearest.same_position members follows
      obtain ⟨listed, i, few, here⟩ := mem_placing.mp ((members point).mp nearest.mem)
      obtain ⟨known, j, less, there⟩ := mem_placing.mp follows.mem
      by_contra differ
      have apart : point.peer ≠ next.peer := fun same => differ (congrArg some same)
      exact separate _ listed _ known apart i few j less (here.trans (together.trans there.symm))

/-- The peer that is listed first owns whatever lies at one of its points. -/
theorem owner?_at_point {peer : String} {i : Nat} (few : i < replicas)
    (here : hash key.toUTF8.toList = hash (toString i ++ peer).toUTF8.toList) :
    (ofPeers hash replicas (peer :: peers)).owner? key = some peer := by
  apply (ofPeers_holds hash replicas (peer :: peers)).owner?_eq_some.mpr
  have placed : ⟨hash key.toUTF8.toList, peer⟩ ∈ (empty hash replicas).pointsOf peer :=
    (mem_pointsOf _ peer).mpr ⟨rfl, i, few, here.symm⟩
  cases found : ((empty hash replicas).pointsOf peer).find?
      (·.position = hash key.toUTF8.toList) with
  | none =>
    have missing := List.find?_eq_none.mp found _ placed
    simp at missing
  | some point =>
    have at_ : point.position = hash key.toUTF8.toList := by simpa using List.find?_some found
    have own := ((mem_pointsOf _ peer).mp (List.mem_of_find?_eq_some found)).1
    refine ⟨point, ⟨fun other _ => ?_, ?_⟩, own⟩
    · change point.position - hash key.toUTF8.toList ≤ _
      rw [at_, UInt32.sub_self]
      exact UInt32.zero_le
    · rw [placing_cons, List.find?_append, at_, found, Option.some_or]

/-- Nodes that list the same peers in any orders agree on every owner exactly if no two of the
peers have a point at the same position. -/
theorem owners_agree_iff (hash : HashFunction) (replicas : Nat) (peers : List String) :
    (∀ first second : List String, first.Perm peers → second.Perm peers → ∀ key,
      (ofPeers hash replicas first).owner? key = (ofPeers hash replicas second).owner? key) ↔
    Separate hash replicas peers := by
  constructor
  · intro agree one listed other known differ i few j less together
    -- The label at which two peers meet is a key that belongs to whichever is listed first.
    have same := agree (one :: peers.erase one) (other :: peers.erase other)
      (List.perm_cons_erase listed).symm (List.perm_cons_erase known).symm (toString i ++ one)
    rw [owner?_at_point few rfl, owner?_at_point less together] at same
    exact differ (Option.some.inj same)
  · intro separate first second one two key
    rw [separate.owner?_perm one, separate.owner?_perm two]

/-- Two addresses share a label, one behind a replica number of two digits: the nodes that list
them disagree, unless all list them in one order. -/
theorem owners_disagree_of_shared_label :
    ¬∀ first second : List String, first.Perm ["11.2.3.4:80", "1.2.3.4:80"] →
      second.Perm ["11.2.3.4:80", "1.2.3.4:80"] → ∀ key,
      (ofPeers Checksum.crc32 12 first).owner? key =
        (ofPeers Checksum.crc32 12 second).owner? key := by
  intro agree
  have separate := (owners_agree_iff Checksum.crc32 12 _).mp agree
  have label : toString 1 ++ "11.2.3.4:80" = toString 11 ++ "1.2.3.4:80" := by cbv
  refine separate "11.2.3.4:80" (by simp) "1.2.3.4:80" (by simp) (by decide) 1 (by decide) 11
    (by decide) ?_
  rw [label]

end ReadThrough.Ring
