import ReadThrough.Proofs.OwnerStability
import ReadThrough.Proofs.PeerRequest

/-! Whom a pool asks for a key: the owner on the ring of its peers, unless that is the node
itself. If all nodes have canonical addresses, the owner's address leads to the owner. -/

namespace ReadThrough

namespace Ring

variable {hash : HashFunction} {replicas : Nat} {peers : List String} {key owner : String}

theorem owner?_mem (owned : (ofPeers hash replicas peers).owner? key = some owner) :
    owner ∈ peers := by
  obtain ⟨point, nearest, rfl⟩ := (ofPeers_holds hash replicas peers).owner?_eq_some.mp owned
  exact (mem_placing.mp nearest.mem).1

theorem exists_owner (placed : 0 < replicas) (listed : owner ∈ peers) (key : String) :
    ∃ owner, (ofPeers hash replicas peers).owner? key = some owner := by
  apply Option.ne_none_iff_exists'.mp
  intro none
  have empty := (ofPeers_holds hash replicas peers).owner?_eq_none.mp none
  have stands : ⟨hash (toString 0 ++ owner).toUTF8.toList, owner⟩ ∈ placing hash replicas peers :=
    mem_placing.mpr ⟨listed, 0, placed, rfl⟩
  rw [empty] at stands
  exact absurd stands List.not_mem_nil

end Ring

namespace Pool

theorem ownerOf_set (pool : Pool) (peers : List String) (key : String) :
    (pool.set peers).ownerOf key = (Ring.ofPeers (pool.options.hash.getD Checksum.crc32)
      pool.options.replicas peers).owner? key := rfl

/-- The fetcher that leads to the owner of a key, unless that is the node itself. -/
def toOwner (pool : Pool) (key : String) : Option Fetcher :=
  (pool.ownerOf key).bind fun owner =>
    if owner = pool.selfAddress then none else some (pool.fetcherFor owner)

theorem pick_set (pool : Pool) (peers : List String) (key : String) :
    (pool.set peers).pick key = (pool.set peers).toOwner key := by
  unfold pick toOwner
  cases owned : (pool.set peers).ownerOf key with
  | none => rfl
  | some owner =>
    have listed := Ring.owner?_mem ((ownerOf_set pool peers key).symm.trans owned)
    have known : (pool.set peers).fetchers.lookup owner = some (pool.fetcherFor owner) :=
      List.lookup_graph _ (List.mem_eraseDups.mpr listed)
    simp only [known]
    rfl

end Pool

/-- The address `http://host:port` of an endpoint, written as the endpoint is. -/
def Url.IsCanonical (address : String) : Prop :=
  IsPeerAddress address ∧ ∃ endpoint, Endpoint.ofAddress address = .ok endpoint ∧
    address = "http://" ++ endpoint.text

/-- Where all addresses are canonical and no fault stands in the way, the address of a node
leads to a node of that address. -/
theorem Cluster.exists_answersAt {cluster : Cluster}
    (canonical : ∀ node ∈ cluster.nodes, Url.IsCanonical node.pool.selfAddress)
    (clear : cluster.network.faults = []) {node : Node} (member : node ∈ cluster.nodes) :
    ∃ index server, cluster.nodes[index]? = some server ∧
      server.pool.selfAddress = node.pool.selfAddress ∧
      cluster.AnswersAt node.pool.selfAddress index := by
  obtain ⟨_, endpoint, found, written⟩ := canonical node member
  have stands (other : Node) : decide (other.endpoint? = some endpoint) = true ↔
      Endpoint.ofAddress other.pool.selfAddress = .ok endpoint := by
    rw [decide_eq_true_iff, Node.endpoint?]
    cases Endpoint.ofAddress other.pool.selfAddress <;> simp [Except.toOption]
  have some : (cluster.nodes.findIdx? fun other => other.endpoint? = some endpoint).isSome := by
    rw [List.findIdx?_isSome, List.any_eq_true]
    exact ⟨node, member, (stands node).mpr found⟩
  obtain ⟨index, standing⟩ := Option.isSome_iff_exists.mp some
  obtain ⟨bound, here, _⟩ := List.findIdx?_eq_some_iff_getElem.mp standing
  refine ⟨index, cluster.nodes[index], List.getElem?_eq_getElem bound, ?_, endpoint, found, ?_,
    standing⟩
  · obtain ⟨_, other, again, same⟩ := canonical _ (List.getElem_mem bound)
    obtain rfl := Except.ok.inj (((stands _).mp here).symm.trans again)
    rw [same, written]
  · rw [clear]
    rfl

end ReadThrough
