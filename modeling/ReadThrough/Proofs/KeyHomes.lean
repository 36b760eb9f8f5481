import ReadThrough.Proofs.KeyRoundTrip
import ReadThrough.Proofs.PeerChoice
import ReadThrough.Proofs.ServiceInvariant

/-! Nodes that list each other as peers and share a ring. Every key has one home, the node that
owns it: the others ask that node and keep nothing, and it asks nobody. So a get makes one hop
at most, and what a node holds is its own. -/

namespace ReadThrough

/-- The keys that a shard holds, in the main queue or on probation. -/
def Shard.heldKeys (shard : Shard) : List String :=
  match shard.cache with
  | none => []
  | some cache => cache.keys ++ cache.historyKeys

theorem Shard.Keeps.heldKeys {lawful : String → Prop} {shard : Shard}
    (keeps : shard.Keeps fun key _ => lawful key) : ∀ key ∈ shard.heldKeys, lawful key := by
  intro key member
  unfold Shard.heldKeys at member
  split at member
  next => exact absurd member List.not_mem_nil
  next cache built =>
    obtain ⟨reference, represents, valid, held⟩ := keeps cache built
    have shows := represents.shows valid.distinct
    rw [shows.keys, shows.historyKeys] at member
    rcases List.mem_append.mp member with inMain | waiting
    · obtain ⟨entry, stored, rfl⟩ := List.mem_map.mp inMain
      exact held entry (List.mem_append_left _ stored)
    · obtain ⟨entry, stored, rfl⟩ := List.mem_map.mp waiting
      exact held entry.entry (List.mem_append_right _ (List.mem_map_of_mem stored))

def Event.IsLoad : Event → Prop
  | .loaded .. => True
  | .asked .. => False

/-- A service on nodes that list each other as peers. `peers` are the addresses of the nodes in
their order; each node may list them in another order. -/
structure Federation extends Service where
  hash : HashFunction
  replicas : Nat
  peers : List String
  placed : 0 < replicas
  clean : PeerPath.Clean base
  named : name ≠ "" ∧ Url.Undotted name
  canonical : ∀ address ∈ peers, Url.IsCanonical address
  separate : Ring.Separate hash replicas peers

namespace Federation

variable (federation : Federation)

def owner? (key : String) : Option String :=
  (Ring.ofPeers federation.hash federation.replicas federation.peers).owner? key

/-- A node is the home of a key. -/
def Owns (node : Nat) (key : String) : Prop :=
  ∃ address, federation.peers[node]? = some address ∧ federation.owner? key = some address

theorem Owns.inside {federation : Federation} {node : Nat} {key : String}
    (owns : federation.Owns node key) : node < federation.peers.length := by
  obtain ⟨address, listed, _⟩ := owns
  exact (List.getElem?_eq_some_iff.mp listed).1

/-- A fetcher with which a node may ask for a key: it leads to the owner, which is another. -/
def Asks (node : Nat) (key : String) (fetcher : Fetcher) : Prop :=
  ¬federation.Owns node key ∧ ∃ owner, federation.owner? key = some owner ∧
    fetcher.baseUrl = PeerPath.baseUrl owner (PeerPath.normalizeBase federation.base)

/-- What a get at a node leaves in the journal: calls of loaders, and before them at most one
question, of the node itself to the owner of the key. -/
inductive Trail (node : Nat) (key : String) : List Event → Prop where
  | none {loads : List Event} (only : ∀ event ∈ loads, event.IsLoad) : Trail node key loads
  | one {loads : List Event} {fetcher : Fetcher} (only : ∀ event ∈ loads, event.IsLoad)
      (asks : federation.Asks node key fetcher) :
      Trail node key (loads ++ [.asked ⟨node, federation.name⟩ (.peer fetcher) key])

/-- A node may call the loader for a key: it is the home of the key, or nothing comes of it. -/
def MayLoad (node : Nat) (key : String) : Prop :=
  ∀ value, federation.loader key = .ok value → federation.Owns node key

theorem MayLoad.of_failed {federation : Federation} {node : Nat} {key : String}
    {error : Group.Error} (filled : key.isEmpty = false)
    (failed : .error error = federation.loader.answer key) : federation.MayLoad node key := by
  intro value loaded
  rw [Loader.answer_of_ok filled loaded] at failed
  nomatch failed

end Federation

variable {federation : Federation} {address key : String}

namespace Group

/-- A group that asks the pool of its node and holds nothing but keys of one owner. -/
structure Settled (federation : Federation) (address : String) (group : Group) : Prop where
  picker : group.picker = some .pool
  home : group.shard.Keeps fun key _ => federation.owner? key = some address

variable {group : Group}

theorem start_picker (group : Group) (key : String) :
    (group.start key).2.picker = group.picker := by
  unfold start
  split
  next => rfl
  next => split <;> rfl

theorem Settled.start (settled : group.Settled federation address) (key : String) :
    (group.start key).2.Settled federation address := by
  refine ⟨(group.start_picker key).trans settled.picker, ?_⟩
  have kept := (settled.home.get key).2
  unfold Group.start
  split
  next => exact settled.home
  next =>
    split
    next got =>
      rw [got] at kept
      exact kept
    next got =>
      rw [got] at kept
      exact kept

theorem Settled.finishFetch (settled : group.Settled federation address) (fetched : Fetched) :
    (group.finishFetch fetched).Settled federation address := by
  cases fetched with
  | ok value => exact ⟨settled.picker, settled.home⟩
  | error error => exact ⟨settled.picker, settled.home⟩

theorem Settled.finishLoad (settled : group.Settled federation address)
    {loaded : Except String Payload}
    (own : ∀ value, loaded = .ok value → federation.owner? key = some address) :
    (group.finishLoad key loaded).Settled federation address := by
  cases loaded with
  | ok value => exact ⟨settled.picker, settled.home.add (own value rfl)⟩
  | error error => exact settled

end Group

theorem Registry.get?_insert (registry : Registry) (group : Group) :
    (registry.insert group).get? group.name = some group :=
  List.find?_cons_of_pos (decide_eq_true rfl)

/-- A node whose pool picks the owners of keys and which has the group. -/
structure Node.Settled (federation : Federation) (node : Node) : Prop where
  owners : ∀ key, node.pool.ownerOf key = federation.owner? key
  picks : ∀ key, node.pool.pick key = node.pool.toOwner key
  hosts : ∃ group, node.groups.get? federation.name = some group ∧
    group.Settled federation node.pool.selfAddress

namespace Cluster

/-- A cluster without faults whose nodes run the service of a federation as its peers. -/
structure Settled (federation : Federation) (cluster : Cluster) : Prop where
  runs : cluster.Runs federation.toService
  up : cluster.network.link = .up
  clear : cluster.network.faults = []
  addresses : cluster.nodes.map (·.pool.selfAddress) = federation.peers
  nodes : ∀ node ∈ cluster.nodes, node.Settled federation

variable {cluster after : Cluster} {node : Nat} {server : Node} {group : Group}

namespace Settled

theorem peer (settled : cluster.Settled federation) (hosted : cluster.nodes[node]? = some server) :
    federation.peers[node]? = some server.pool.selfAddress := by
  rw [← settled.addresses, List.getElem?_map, hosted]
  rfl

theorem inside (settled : cluster.Settled federation)
    (hosted : cluster.nodes[node]? = some server) : node < federation.peers.length :=
  (List.getElem?_eq_some_iff.mp (settled.peer hosted)).1

theorem canonical (settled : cluster.Settled federation) :
    ∀ node ∈ cluster.nodes, Url.IsCanonical node.pool.selfAddress := by
  intro node member
  apply federation.canonical
  rw [← settled.addresses]
  exact List.mem_map_of_mem member

theorem known (settled : cluster.Settled federation)
    (found : cluster.group? ⟨node, federation.name⟩ = some group) :
    ∃ server, cluster.nodes[node]? = some server ∧ group.name = federation.name ∧
      group.Follows federation.loader ∧ group.Settled federation server.pool.selfAddress := by
  have ⟨named, follows⟩ := settled.runs.group? found
  simp only [Cluster.group?, Option.bind_eq_bind, Option.bind_eq_some_iff] at found
  obtain ⟨server, hosted, found⟩ := found
  obtain ⟨own, same, home⟩ := (settled.nodes server (List.mem_of_getElem? hosted)).hosts
  obtain rfl := Option.some.inj (same.symm.trans found)
  exact ⟨server, hosted, named, follows named, home⟩

theorem exists_group (settled : cluster.Settled federation)
    (inside : node < federation.peers.length) : ∃ server group,
      cluster.nodes[node]? = some server ∧ server.groups.get? federation.name = some group ∧
      cluster.group? ⟨node, federation.name⟩ = some group := by
  have bound : node < cluster.nodes.length := by
    rwa [← settled.addresses, List.length_map] at inside
  have hosted := List.getElem?_eq_getElem bound
  obtain ⟨group, known, _⟩ := (settled.nodes _ (List.getElem_mem bound)).hosts
  refine ⟨_, group, hosted, known, ?_⟩
  rw [Cluster.group?, hosted]
  exact known

theorem withJournal (settled : cluster.Settled federation) (journal : List Event) :
    { cluster with journal }.Settled federation :=
  ⟨⟨settled.runs.nodes, settled.runs.faults⟩, settled.up, settled.clear, settled.addresses,
    settled.nodes⟩

theorem record (settled : cluster.Settled federation) (event : Event) :
    (cluster.record event).Settled federation :=
  settled.withJournal _

theorem insertGroup (settled : cluster.Settled federation)
    (hosted : cluster.nodes[node]? = some server) (named : group.name = federation.name)
    (follows : group.Follows federation.loader)
    (home : group.Settled federation server.pool.selfAddress) :
    (cluster.insertGroup node group).Settled federation where
  runs := settled.runs.insertGroup fun _ => follows
  up := settled.up
  clear := settled.clear
  addresses := by
    rw [← settled.addresses, Cluster.insertGroup, updateNode]
    apply List.ext_getElem?
    intro position
    rw [List.getElem?_map, List.getElem?_map, List.getElem?_modify]
    cases cluster.nodes[position]? with
    | none => rfl
    | some other =>
      by_cases here : node = position
      · simp [here]
      · simp [here]
  nodes := by
    intro other member
    obtain ⟨position, found⟩ := List.mem_iff_getElem?.mp member
    rw [Cluster.insertGroup, updateNode, List.getElem?_modify] at found
    obtain ⟨before, there, rfl⟩ := Option.map_eq_some_iff.mp found
    have old := settled.nodes before (List.mem_of_getElem? there)
    split
    next here =>
      obtain rfl := Option.some.inj (hosted.symm.trans (here ▸ there))
      refine ⟨old.owners, old.picks, group, ?_, home⟩
      rw [← named]
      exact Registry.get?_insert _ _
    next => exact old

theorem start (settled : cluster.Settled federation) {started : Group.Started}
    (begun : cluster.start ⟨node, federation.name⟩ key = some (started, after)) :
    after.Settled federation := by
  obtain ⟨group, found, rfl, rfl⟩ := start_eq_some begun
  obtain ⟨server, hosted, named, follows, home⟩ := settled.known found
  exact settled.insertGroup hosted ((group.start_name key).trans named) (follows.start key).2
    (home.start key)

theorem finishFetch (settled : cluster.Settled federation) (fetched : Fetched) :
    (cluster.updateGroup ⟨node, federation.name⟩ (·.finishFetch fetched)).Settled federation := by
  unfold updateGroup
  split
  next => exact settled
  next group found =>
    obtain ⟨server, hosted, named, follows, home⟩ := settled.known found
    exact settled.insertGroup hosted ((group.finishFetch_name fetched).trans named)
      (follows.finishFetch fetched) (home.finishFetch fetched)

theorem finishLoad (settled : cluster.Settled federation)
    (found : cluster.group? ⟨node, federation.name⟩ = some group)
    (may : federation.MayLoad node key) :
    (cluster.insertGroup node (group.finishLoad key (federation.loader key))).Settled
      federation := by
  obtain ⟨server, hosted, named, follows, home⟩ := settled.known found
  refine settled.insertGroup hosted ((group.finishLoad_name key _).trans named)
    (follows.finishLoad rfl) (home.finishLoad fun value loaded => ?_)
  obtain ⟨address, listed, owned⟩ := may value loaded
  obtain rfl := Option.some.inj ((settled.peer hosted).symm.trans listed)
  exact owned

theorem load (settled : cluster.Settled federation) (may : federation.MayLoad node key)
    {got : Group.Got} (done : cluster.load ⟨node, federation.name⟩ key = some (got, after)) :
    after.Settled federation := by
  obtain ⟨group, found, _, rfl⟩ := load_eq_some done
  obtain ⟨server, hosted, named, follows, home⟩ := settled.known found
  have kept := (settled.record (.loaded ⟨node, federation.name⟩ key got.isOk)).finishLoad found may
  rw [← follows.loader] at kept
  exact kept

theorem source? (settled : cluster.Settled federation)
    (hosted : cluster.nodes[node]? = some server)
    (found : cluster.group? ⟨node, federation.name⟩ = some group) (key : String) :
    (federation.Owns node key ∧ server.source? group key = none) ∨
      ∃ fetcher, federation.Asks node key fetcher ∧
        server.source? group key = some (.peer fetcher) := by
  obtain ⟨_, again, _, _, home⟩ := settled.known found
  obtain rfl := Option.some.inj (hosted.symm.trans again)
  have member := List.mem_of_getElem? hosted
  have listed := settled.peer hosted
  obtain ⟨owner, owned⟩ : ∃ owner, federation.owner? key = some owner :=
    Ring.exists_owner federation.placed (List.mem_of_getElem? listed) key
  have picked := (settled.nodes server member).picks key
  rw [Pool.toOwner, (settled.nodes server member).owners, owned, Option.bind_some] at picked
  rw [Node.source?, home.picker]
  by_cases own : owner = server.pool.selfAddress
  · rw [if_pos own] at picked
    exact .inl ⟨⟨owner, own ▸ listed, owned⟩, by rw [picked]; rfl⟩
  · rw [if_neg own] at picked
    refine .inr ⟨server.pool.fetcherFor owner, ⟨?_, owner, owned, ?_⟩, by rw [picked]; rfl⟩
    · rintro ⟨address, again, same⟩
      obtain rfl := Option.some.inj (listed.symm.trans again)
      exact own (Option.some.inj (owned.symm.trans same))
    · rw [Pool.fetcherFor, (settled.runs.nodes server member).basePath]

/-- A node that asks for a key asks its home, which serves the group. -/
theorem serves (settled : cluster.Settled federation) {fetcher : Fetcher}
    (asks : federation.Asks node key fetcher) : ∃ home server, federation.Owns home key ∧
      cluster.nodes[home]? = some server ∧ cluster.Serves fetcher.baseUrl home server := by
  obtain ⟨_, owner, owned, below⟩ := asks
  have listed : owner ∈ cluster.nodes.map (·.pool.selfAddress) := by
    rw [settled.addresses]
    exact Ring.owner?_mem owned
  obtain ⟨peer, member, rfl⟩ := List.mem_map.mp listed
  obtain ⟨home, server, hosted, same, answers⟩ :=
    exists_answersAt settled.canonical settled.clear member
  have based := (settled.runs.nodes server (List.mem_of_getElem? hosted)).basePath
  have clean : PeerPath.Clean server.pool.basePath := based ▸ federation.clean.normalized
  refine ⟨home, server, ⟨server.pool.selfAddress, settled.peer hosted, same ▸ owned⟩, hosted, ?_⟩
  rw [below, ← based]
  exact answers.serves (settled.canonical peer member).1 settled.up hosted clean

theorem exists_load (settled : cluster.Settled federation)
    (inside : node < federation.peers.length) (may : federation.MayLoad node key) :
    ∃ got after event, cluster.load ⟨node, federation.name⟩ key = some (got, after) ∧
      after.Settled federation ∧ event.IsLoad ∧ after.journal = event :: cluster.journal := by
  obtain ⟨server, group, _, _, found⟩ := settled.exists_group inside
  have loaded := load_of_group found key
  exact ⟨_, _, .loaded .., loaded, settled.load may loaded, trivial, rfl⟩

/-- A get ends at once, with what the shard holds, or goes on after a look into the shard. -/
theorem getVia_cases (settled : cluster.Settled federation)
    (inside : node < federation.peers.length) (key : String) (ask : Ask) :
    ∃ before, before.Settled federation ∧ before.journal = cluster.journal ∧
      ((∃ got, cluster.getVia ask ⟨node, federation.name⟩ key = some (got, before)) ∨
        key.isEmpty = false ∧ cluster.getVia ask ⟨node, federation.name⟩ key =
          before.finish ask ⟨node, federation.name⟩ key) := by
  obtain ⟨server, group, _, _, found⟩ := settled.exists_group inside
  have begun := start_of_group found key
  refine ⟨_, settled.start begun, rfl, ?_⟩
  have suits := (settled.runs.start begun).2 rfl
  rw [Cluster.getVia, begun, Option.bind_eq_bind, Option.bind_some]
  generalize (group.start key).1 = started at suits ⊢
  cases started with
  | refused => exact .inl ⟨_, rfl⟩
  | found value => exact .inl ⟨_, rfl⟩
  | missing => exact .inr ⟨suits, rfl⟩

theorem finish_home (settled : cluster.Settled federation) (owns : federation.Owns node key)
    (ask : Ask) : ∃ got after event,
      cluster.finish ask ⟨node, federation.name⟩ key = some (got, after) ∧
      after.Settled federation ∧ event.IsLoad ∧ after.journal = event :: cluster.journal := by
  have inside := owns.inside
  obtain ⟨server, group, hosted, _, found⟩ := settled.exists_group inside
  have alone : server.source? group key = none := by
    rcases settled.source? hosted found key with ⟨_, alone⟩ | ⟨_, asks, _⟩
    · exact alone
    · exact absurd owns asks.1
  rw [finish_of_alone hosted found alone]
  exact settled.exists_load inside fun _ _ => owns

theorem getVia_home (settled : cluster.Settled federation) (owns : federation.Owns node key)
    (ask : Ask) : ∃ got after loads,
      cluster.getVia ask ⟨node, federation.name⟩ key = some (got, after) ∧
      after.Settled federation ∧ (∀ event ∈ loads, event.IsLoad) ∧
      after.journal = loads ++ cluster.journal := by
  obtain ⟨before, kept, same, ⟨got, ended⟩ | ⟨_, goesOn⟩⟩ :=
    settled.getVia_cases owns.inside key ask
  · exact ⟨got, before, [], ended, kept, List.forall_mem_nil _, same⟩
  · obtain ⟨got, after, event, ended, left, load, journal⟩ := kept.finish_home owns ask
    refine ⟨got, after, [event], goesOn.trans ended, left, List.forall_mem_singleton.mpr load, ?_⟩
    rw [journal, same]
    rfl

/-- Any other node asks the home of the key, and calls the loader itself only for a key that has
no value. -/
theorem finish_away (settled : cluster.Settled federation) {fetcher : Fetcher}
    (asks : federation.Asks node key fetcher) (hosted : cluster.nodes[node]? = some server)
    (found : cluster.group? ⟨node, federation.name⟩ = some group)
    (picked : server.source? group key = some (.peer fetcher)) (filled : key.isEmpty = false)
    (sought : Url.Undotted key) (hops : Nat) : ∃ got after loads,
      cluster.finish (fetchWithin (hops + 1)) ⟨node, federation.name⟩ key = some (got, after) ∧
      after.Settled federation ∧ (∀ event ∈ loads, event.IsLoad) ∧ after.journal =
        loads ++ .asked ⟨node, federation.name⟩ (.peer fetcher) key :: cluster.journal := by
  have recorded := settled.record (.asked ⟨node, federation.name⟩ (.peer fetcher) key)
  obtain ⟨home, peer, owns, there, serves⟩ := recorded.serves asks
  obtain ⟨got, asked, loads, answered, kept, only, journal⟩ :=
    recorded.getVia_home owns (fetchWithin hops)
  have known : (peer.groups.get? federation.name).isSome := by
    obtain ⟨_, known, _⟩ := (recorded.nodes peer (List.mem_of_getElem? there)).hosts
    rw [known]
    rfl
  have fetched : cluster.consult (fetchWithin (hops + 1)) ⟨node, federation.name⟩
      (.peer fetcher) key = some (.ofGot got, asked) := by
    have comes := serves.fetchWithin_eq_map known federation.named.1 federation.named.2 sought hops
    rw [answered] at comes
    exact comes
  have left : (asked.updateGroup ⟨node, federation.name⟩ (·.finishFetch (.ofGot got))).Settled
      federation := kept.finishFetch _
  rw [finish_of_consult hosted found picked fetched]
  cases got with
  | ok value =>
    refine ⟨_, _, loads, rfl, left, only, ?_⟩
    rw [journal_updateGroup, journal]
    rfl
  | error error =>
    -- What fails at the home fails here as well, so this node keeps nothing either.
    have may : federation.MayLoad node key :=
      .of_failed filled ((recorded.runs.getVia answered).2 rfl)
    obtain ⟨got, after, event, loaded, ended, load, more⟩ :=
      left.exists_load (settled.inside hosted) may
    refine ⟨got, after, event :: loads, loaded, ended, List.forall_mem_cons.mpr ⟨load, only⟩, ?_⟩
    rw [more, journal_updateGroup, journal]
    rfl

/-- A get from anywhere comes to its end, and asks the home of the key at most. -/
theorem getVia (settled : cluster.Settled federation) (inside : node < federation.peers.length)
    (sought : Url.Undotted key) (hops : Nat) : ∃ got after events,
      cluster.getVia (fetchWithin (hops + 1)) ⟨node, federation.name⟩ key = some (got, after) ∧
      after.Settled federation ∧ after.journal = events ++ cluster.journal ∧
      federation.Trail node key events := by
  obtain ⟨before, kept, same, ⟨got, ended⟩ | ⟨filled, goesOn⟩⟩ :=
    settled.getVia_cases inside key (fetchWithin (hops + 1))
  · exact ⟨got, before, [], ended, kept, same, .none (List.forall_mem_nil _)⟩
  obtain ⟨server, group, hosted, _, found⟩ := kept.exists_group inside
  rcases kept.source? hosted found key with ⟨owns, _⟩ | ⟨fetcher, asks, picked⟩
  · obtain ⟨got, after, event, ended, left, load, journal⟩ := kept.finish_home owns _
    refine ⟨got, after, [event], goesOn.trans ended, left, ?_,
      .none (List.forall_mem_singleton.mpr load)⟩
    rw [journal, same]
    rfl
  · obtain ⟨got, after, loads, ended, left, only, journal⟩ :=
      kept.finish_away asks hosted found picked filled sought hops
    refine ⟨got, after, _, goesOn.trans ended, left, ?_, .one only asks⟩
    rw [journal, same, List.append_assoc]
    rfl

end Settled

end Cluster

end ReadThrough
