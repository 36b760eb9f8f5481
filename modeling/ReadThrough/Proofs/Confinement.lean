import Mathlib
import ReadThrough.Proofs.ServiceInvariant

/-! What is done for one group stays with it, on nodes that ask each other below one base path.
It leaves all groups of other names as they were, on every node, and comes to the same whatever
these are: nothing that a get reads or changes on its way, over however many nodes, belongs to
another group. -/

namespace ReadThrough

/-- A fetcher that asks a host and a port below a base path. -/
def Fetcher.Under (base : String) (fetcher : Fetcher) : Prop :=
  ∃ address, Url.IsPeerAddress address ∧
    fetcher.baseUrl = PeerPath.baseUrl address (PeerPath.normalizeBase base)

/-- A node whose peers are hosts and ports, all of them below the base path of the node. -/
structure Node.Peered (base : String) (node : Node) : Prop where
  basePath : node.pool.basePath = PeerPath.normalizeBase base
  fetchers : ∀ entry ∈ node.pool.fetchers, entry.2.Under base

/-- A node without its groups. -/
def Node.bare (node : Node) : Node := { node with groups := {} }

theorem Group.register_name {group attached : Group} {picker : Picker}
    (registered : group.register picker = .ok attached) : attached.name = group.name := by
  unfold register at registered
  split at registered
  next => nomatch registered
  next =>
    obtain rfl := Except.ok.inj registered
    rfl

def Event.group : Event → String
  | .loaded place _ _ => place.group
  | .asked place _ _ => place.group

theorem Registry.get?_insert_eq_ite (registry : Registry) (group : Group) (name : String) :
    (registry.insert group).get? name =
      if group.name = name then some group else registry.get? name := by
  rw [get?, insert, List.find?_cons, List.find?_filter]
  by_cases same : group.name = name
  · simp [same]
  · simp only [same, decide_false, if_false]
    refine List.find?_congr fun other _ => ?_
    by_cases named : other.name = name <;> simp [named, Ne.symm same]

namespace Cluster

def Peered (base : String) (cluster : Cluster) : Prop := ∀ node ∈ cluster.nodes, node.Peered base

/-- Two clusters that differ in nothing but groups of other names. -/
structure Agrees (name : String) (first second : Cluster) : Prop where
  network : first.network = second.network
  nodes : first.nodes.map Node.bare = second.nodes.map Node.bare
  groups : ∀ node, first.group? ⟨node, name⟩ = second.group? ⟨node, name⟩
  journal : first.journal.filter (·.group = name) = second.journal.filter (·.group = name)

variable {base name : String} {cluster after first second third : Cluster}

namespace Agrees

theorem refl (name : String) (cluster : Cluster) : Agrees name cluster cluster :=
  ⟨rfl, rfl, fun _ => rfl, rfl⟩

theorem symm (agrees : Agrees name first second) : Agrees name second first :=
  ⟨agrees.network.symm, agrees.nodes.symm, fun node => (agrees.groups node).symm,
    agrees.journal.symm⟩

theorem trans (agrees : Agrees name first second) (others : Agrees name second third) :
    Agrees name first third :=
  ⟨agrees.network.trans others.network, agrees.nodes.trans others.nodes,
    fun node => (agrees.groups node).trans (others.groups node),
    agrees.journal.trans others.journal⟩

theorem length (agrees : Agrees name first second) :
    first.nodes.length = second.nodes.length := by
  simpa using congrArg List.length agrees.nodes

/-- What is read off a node without its groups is the same. -/
theorem bind_node (agrees : Agrees name first second) (node : Nat) {β : Type}
    {look : Node → Option β} (blind : ∀ server, look server = look server.bare) :
    (first.nodes[node]?).bind look = (second.nodes[node]?).bind look := by
  have reads (cluster : Cluster) :
      (cluster.nodes[node]?).bind look = (cluster.nodes.map Node.bare)[node]?.bind look := by
    rw [List.getElem?_map, Option.bind_map]
    exact Option.bind_congr fun server _ => blind server
  rw [reads, reads, agrees.nodes]

theorem route (agrees : Agrees name first second) (url : String) :
    first.route url = second.route url := by
  have found (endpoint : Endpoint) :
      first.nodes.findIdx? (fun node => node.endpoint? = some endpoint) =
        second.nodes.findIdx? (fun node => node.endpoint? = some endpoint) := by
    have same := congrArg (List.findIdx? fun node => node.endpoint? = some endpoint) agrees.nodes
    rwa [List.findIdx?_map, List.findIdx?_map] at same
  have led (endpoint : Endpoint) (path : String) :
      first.routeTo endpoint path = second.routeTo endpoint path := by
    rw [routeTo, routeTo, agrees.network, found]
  simp only [Cluster.route, agrees.network, led]

end Agrees

/-- An operation for one group. It spares all others, and it comes to the same whatever they
are. -/
structure Confined {α : Type} (base name : String) (operation : Cluster → Option (α × Cluster)) :
    Prop where
  peered : ∀ {cluster result after}, cluster.Peered base →
    operation cluster = some (result, after) → after.Peered base
  spares : ∀ {cluster result after}, cluster.Peered base →
    operation cluster = some (result, after) → ∀ other ≠ name, Agrees other cluster after
  mirrors : ∀ {first second result after}, first.Peered base → Agrees name first second →
    operation first = some (result, after) →
    ∃ later, operation second = some (result, later) ∧ Agrees name after later

namespace Confined

variable {α β : Type}

theorem congr {operation other : Cluster → Option (α × Cluster)}
    (same : ∀ cluster, operation cluster = other cluster) (confined : Confined base name other) :
    Confined base name operation :=
  (funext same : operation = other) ▸ confined

theorem pure (result : α) : Confined base name fun cluster => some (result, cluster) where
  peered peered done := by
    obtain ⟨_, rfl⟩ := Prod.mk.inj (Option.some.inj done)
    exact peered
  spares _ done other _ := by
    obtain ⟨_, rfl⟩ := Prod.mk.inj (Option.some.inj done)
    exact .refl other _
  mirrors _ agrees done := by
    obtain ⟨rfl, rfl⟩ := Prod.mk.inj (Option.some.inj done)
    exact ⟨_, rfl, agrees⟩

theorem fail : Confined base name fun _ => (none : Option (α × Cluster)) :=
  ⟨fun _ => nofun, fun _ => nofun, fun _ _ => nofun⟩

theorem bind {operation : Cluster → Option (α × Cluster)}
    {next : α → Cluster → Option (β × Cluster)} (confined : Confined base name operation)
    (rest : ∀ result, Confined base name (next result)) :
    Confined base name fun cluster => (operation cluster).bind fun r => next r.1 r.2 where
  peered peered done := by
    obtain ⟨⟨result, between⟩, begun, ended⟩ := Option.bind_eq_some_iff.mp done
    exact (rest result).peered (confined.peered peered begun) ended
  spares peered done other differs := by
    obtain ⟨⟨result, between⟩, begun, ended⟩ := Option.bind_eq_some_iff.mp done
    exact (confined.spares peered begun other differs).trans
      ((rest result).spares (confined.peered peered begun) ended other differs)
  mirrors peered agrees done := by
    obtain ⟨⟨result, between⟩, begun, ended⟩ := Option.bind_eq_some_iff.mp done
    obtain ⟨_, first, kept⟩ := confined.mirrors peered agrees begun
    obtain ⟨later, second, same⟩ :=
      (rest result).mirrors (confined.peered peered begun) kept ended
    exact ⟨later, Option.bind_eq_some_iff.mpr ⟨_, first, second⟩, same⟩

/-- What is read must not depend on other groups. -/
theorem read (look : Cluster → β) (next : β → Cluster → Option (α × Cluster))
    (blind : ∀ first second, Agrees name first second → look first = look second)
    (rest : ∀ cluster, cluster.Peered base → Confined base name (next (look cluster))) :
    Confined base name fun cluster => next (look cluster) cluster where
  peered peered done := (rest _ peered).peered peered done
  spares peered done := (rest _ peered).spares peered done
  mirrors peered agrees done := by
    obtain ⟨later, again, same⟩ := (rest _ peered).mirrors peered agrees done
    exact ⟨later, blind _ _ agrees ▸ again, same⟩

theorem record (event : Event) (own : event.group = name) (result : α) :
    Confined base name fun cluster => some (result, cluster.record event) where
  peered peered done := by
    obtain ⟨_, rfl⟩ := Prod.mk.inj (Option.some.inj done)
    exact peered
  spares _ done other differs := by
    obtain ⟨_, rfl⟩ := Prod.mk.inj (Option.some.inj done)
    refine ⟨rfl, rfl, fun _ => rfl, ?_⟩
    rw [Cluster.record, List.filter_cons_of_neg (by simpa [own] using differs.symm)]
  mirrors _ agrees done := by
    obtain ⟨rfl, rfl⟩ := Prod.mk.inj (Option.some.inj done)
    refine ⟨_, rfl, agrees.network, agrees.nodes, agrees.groups, ?_⟩
    simp only [Cluster.record, List.filter_cons, agrees.journal]

theorem recorded (event : Event) (own : event.group = name)
    {operation : Cluster → Option (α × Cluster)} (confined : Confined base name operation) :
    Confined base name fun cluster => operation (cluster.record event) :=
  bind (record event own ()) fun _ => confined

end Confined

theorem group?_updateNode (cluster : Cluster) (node : Nat) (update : Node → Node) (place : Place) :
    (cluster.updateNode node update).group? place = (cluster.nodes[place.node]?).bind fun server =>
      (if node = place.node then update server else server).groups.get? place.group := by
  rw [Cluster.group?, updateNode, List.getElem?_modify]
  exact Option.bind_map

/-- A node with one more group, which may depend on the node. -/
def entered (give : Node → Group) (server : Node) : Node :=
  { server with groups := server.groups.insert (give server) }

theorem bare_updateNode (cluster : Cluster) (node : Nat) (give : Node → Group) :
    (cluster.updateNode node (entered give)).nodes.map Node.bare = cluster.nodes.map Node.bare := by
  apply List.ext_getElem?
  intro position
  rw [List.getElem?_map, List.getElem?_map, updateNode, List.getElem?_modify]
  cases cluster.nodes[position]? with
  | none => rfl
  | some server =>
    by_cases here : node = position
    · simp [here, entered, Node.bare]
    · simp [here]

namespace Confined

variable {α β : Type}

/-- A group of the name may be put in on a node, as the configuration of the node has it. -/
theorem enter {give : Node → Group} (named : ∀ server, (give server).name = name)
    (blind : ∀ first second : Node, first.bare = second.bare → give first = give second)
    (node : Nat) (result : α) :
    Confined base name fun cluster => some (result, cluster.updateNode node (entered give)) where
  peered peered done := by
    obtain ⟨_, rfl⟩ := Prod.mk.inj (Option.some.inj done)
    intro server member
    rcases mem_updateNode member with same | ⟨before, inside, rfl⟩
    · exact peered server same
    · exact ⟨(peered before inside).basePath, (peered before inside).fetchers⟩
  spares _ done other differs := by
    obtain ⟨_, rfl⟩ := Prod.mk.inj (Option.some.inj done)
    refine ⟨rfl, (bare_updateNode _ node give).symm, fun position => ?_, rfl⟩
    rw [group?_updateNode, Cluster.group?]
    refine Option.bind_congr fun server _ => ?_
    split
    next => rw [entered, Registry.get?_insert_eq_ite, named, if_neg differs.symm]
    next => rfl
  mirrors {first second result after} _ agrees done := by
    obtain ⟨rfl, rfl⟩ := Prod.mk.inj (Option.some.inj done)
    refine ⟨_, rfl, agrees.network, ?_, fun position => ?_, agrees.journal⟩
    · rw [bare_updateNode, bare_updateNode, agrees.nodes]
    rw [group?_updateNode, group?_updateNode]
    -- on its own node the old group is gone; all that counts is what the new one is made of
    by_cases here : node = position
    · simp only [here, if_true, entered, Registry.get?_insert_eq_ite, named]
      exact agrees.bind_node position fun server => congrArg some (blind server server.bare rfl)
    · simp only [here, if_false]
      exact agrees.groups position

theorem insertGroup {group : Group} (named : group.name = name) (node : Nat) (result : α) :
    Confined base name fun cluster => some (result, cluster.insertGroup node group) :=
  enter (fun _ => named) (fun _ _ _ => rfl) node result

theorem group? (node : Nat) (next : Option Group → Cluster → Option (α × Cluster))
    (missing : Confined base name (next none))
    (rest : ∀ group : Group, group.name = name → Confined base name (next (some group))) :
    Confined base name fun cluster => next (cluster.group? ⟨node, name⟩) cluster := by
  refine read _ next (fun _ _ agrees => agrees.groups node) fun cluster _ => ?_
  cases known : cluster.group? ⟨node, name⟩ with
  | none => exact missing
  | some group => exact rest group (group?_name known)

variable {node : Nat} {key : String}

theorem start (node : Nat) (key : String) :
    Confined base name fun cluster => cluster.start ⟨node, name⟩ key := by
  refine group? node (fun found cluster => found.bind fun group =>
    some ((group.start key).1, cluster.insertGroup node (group.start key).2)) fail ?_
  intro group named
  exact insertGroup ((group.start_name key).trans named) node _

theorem load (node : Nat) (key : String) :
    Confined base name fun cluster => cluster.load ⟨node, name⟩ key := by
  refine group? node (fun found cluster => found.bind fun group => some ((group.load key).1,
    (cluster.record (.loaded ⟨node, name⟩ key (group.load key).1.isOk)).insertGroup node
      (group.load key).2)) fail ?_
  intro group named
  have kept : (group.load key).2.name = name := (group.finishLoad_name key _).trans named
  exact recorded (.loaded ⟨node, name⟩ key _) rfl (insertGroup kept node (group.load key).1)

theorem updateGroup {update : Group → Group} (named : ∀ group, (update group).name = group.name)
    (node : Nat) (result : α) : Confined base name fun cluster =>
      some (result, cluster.updateGroup ⟨node, name⟩ update) := by
  have chosen : Confined base name fun cluster => some (result,
      (cluster.group? ⟨node, name⟩).elim cluster fun group =>
        cluster.insertGroup node (update group)) := by
    refine group? node (fun found cluster => some (result,
      found.elim cluster fun group => cluster.insertGroup node (update group))) (pure result) ?_
    intro group same
    exact insertGroup ((named group).trans same) node result
  convert chosen using 4 with cluster
  rw [Cluster.updateGroup]
  cases cluster.group? ⟨node, name⟩ <;> rfl

theorem consult {ask : Ask} {source : Source}
    (asks : ∀ fetcher, source = .peer fetcher →
      Confined base name fun cluster => ask cluster fetcher name key)
    (node : Nat) : Confined base name fun cluster =>
      cluster.consult ask ⟨node, name⟩ source key := by
  cases source with
  | peer fetcher => exact recorded (.asked ⟨node, name⟩ (.peer fetcher) key) rfl (asks fetcher rfl)
  | standIn standIn =>
    exact recorded (.asked ⟨node, name⟩ (.standIn standIn) key) rfl
      (pure (standIn.answer name key))

end Confined

/-- Whom a get of a group asks, if its node and its group are there. -/
def sourceAt? (cluster : Cluster) (place : Place) (key : String) : Option (Option Source) :=
  (cluster.nodes[place.node]?).bind fun server =>
    (cluster.group? place).map fun group => server.source? group key

theorem sourceAt?_eq_some {place : Place} {key : String} {source : Option Source} :
    cluster.sourceAt? place key = some source ↔ ∃ server group,
      cluster.nodes[place.node]? = some server ∧ cluster.group? place = some group ∧
      server.source? group key = source := by
  simp only [sourceAt?, Option.bind_eq_some_iff, Option.map_eq_some_iff]
  constructor
  · rintro ⟨server, hosted, group, known, picked⟩
    exact ⟨server, group, hosted, known, picked⟩
  · rintro ⟨server, group, hosted, known, picked⟩
    exact ⟨server, hosted, group, known, picked⟩

theorem Agrees.sourceAt? (agrees : Agrees name first second) (node : Nat) (key : String) :
    first.sourceAt? ⟨node, name⟩ key = second.sourceAt? ⟨node, name⟩ key := by
  rw [Cluster.sourceAt?, Cluster.sourceAt?, agrees.groups node]
  exact agrees.bind_node node fun _ => rfl

theorem Peered.source (peered : cluster.Peered base) {place : Place} {key : String}
    {fetcher : Fetcher} (picked : cluster.sourceAt? place key = some (some (.peer fetcher))) :
    fetcher.Under base := by
  obtain ⟨server, group, hosted, _, asked⟩ := sourceAt?_eq_some.mp picked
  unfold Node.source? at asked
  split at asked
  next => nomatch asked
  next =>
    obtain ⟨chosen, picks, same⟩ := Option.map_eq_some_iff.mp asked
    obtain rfl := Source.peer.inj same
    unfold Pool.pick at picks
    split at picks
    next => nomatch picks
    next =>
      split at picks
      next => nomatch picks
      next =>
        exact (peered server (List.mem_of_getElem? hosted)).fetchers _ (Cache.mem_of_lookup picks)
  next => split at asked <;> nomatch asked

/-- Asking below the base path is confined to the group that is asked for. -/
def Confines (base : String) (ask : Ask) : Prop :=
  ∀ (fetcher : Fetcher) (name key : String), fetcher.Under base →
    Confined base name fun cluster => ask cluster fetcher name key

namespace Confined

variable {α β : Type} {node : Nat} {key : String} {ask : Ask}

def settle (place : Place) (key : String) (fetched : Fetched) (cluster : Cluster) :
    Option (Group.Got × Cluster) :=
  let told := cluster.updateGroup place (·.finishFetch fetched)
  match fetched with
  | .ok value => some (.ok value, told)
  | .error _ => told.load place key

/-- The end of a get, once it is known whom it asks. -/
def finishFrom (ask : Ask) (place : Place) (key : String) :
    Option (Option Source) → Cluster → Option (Group.Got × Cluster)
  | none, _ => none
  | some none, cluster => cluster.load place key
  | some (some source), cluster =>
    (cluster.consult ask place source key).bind fun asked => settle place key asked.1 asked.2

theorem finish_eq (ask : Ask) (cluster : Cluster) (place : Place) (key : String) :
    cluster.finish ask place key = finishFrom ask place key (cluster.sourceAt? place key) cluster := by
  rw [Cluster.finish, sourceAt?]
  cases cluster.nodes[place.node]? with
  | none => rfl
  | some server =>
    cases cluster.group? place with
    | none => rfl
    | some group =>
      simp only [Option.bind_eq_bind, Option.bind_some, Option.map_some]
      cases server.source? group key <;> rfl

theorem settled (node : Nat) (key : String) (fetched : Fetched) :
    Confined base name (settle ⟨node, name⟩ key fetched) := by
  cases fetched with
  | ok value => exact updateGroup (·.finishFetch_name (.ok value)) node _
  | error error =>
    exact bind (updateGroup (·.finishFetch_name (.error error)) node ()) fun _ => load node key

theorem finish (asks : Confines base ask) (node : Nat) (key : String) :
    Confined base name fun cluster => cluster.finish ask ⟨node, name⟩ key := by
  simp only [finish_eq]
  refine read _ (finishFrom ask ⟨node, name⟩ key) (fun _ _ agrees => agrees.sourceAt? node key) ?_
  intro cluster peered
  match picked : cluster.sourceAt? ⟨node, name⟩ key with
  | none => exact fail
  | some none => exact load node key
  | some (some source) =>
    have asked : ∀ fetcher, source = .peer fetcher →
        Confined base name fun cluster => ask cluster fetcher name key := by
      rintro fetcher rfl
      exact asks fetcher name key (peered.source picked)
    exact bind (consult asked node) fun fetched => settled node key fetched

theorem proceed (asks : Confines base ask) (node : Nat) (key : String) (started : Group.Started) :
    Confined base name fun cluster => cluster.proceed ask ⟨node, name⟩ key started := by
  cases started with
  | refused => exact pure _
  | found value => exact pure _
  | missing => exact finish asks node key

theorem getVia (asks : Confines base ask) (node : Nat) (key : String) :
    Confined base name fun cluster => cluster.getVia ask ⟨node, name⟩ key :=
  bind (start node key) fun started => proceed asks node key started

/-- The answer for a group and a key, once it is known whether the node has the group. -/
def answerFor (ask : Ask) (node : Nat) (group key : String) :
    Option Group → Cluster → Option (Served × Cluster)
  | none, cluster => some (.error (.noSuchGroup group), cluster)
  | some _, cluster => (cluster.getVia ask ⟨node, group⟩ key).bind fun answered =>
    some (answered.1.mapError .lookup, answered.2)

/-- The answer to a request, once the base path of the node is known. -/
def serveFrom (ask : Ask) (node : Nat) (path : String) :
    Option String → Cluster → Option (Served × Cluster)
  | none, _ => none
  | some base, cluster =>
    match PeerPath.parse base path with
    | .error rejection => some (.error (.badPath rejection), cluster)
    | .ok asked => answerFor ask node asked.1 asked.2 (cluster.group? ⟨node, asked.1⟩) cluster

theorem serveVia_eq (ask : Ask) (cluster : Cluster) (node : Nat) (path : String) :
    cluster.serveVia ask node path =
      serveFrom ask node path ((cluster.nodes[node]?).bind (some ·.pool.basePath)) cluster := by
  rw [Cluster.serveVia]
  cases hosted : cluster.nodes[node]? with
  | none => rfl
  | some server =>
    simp only [Option.bind_eq_bind, Option.bind_some, serveFrom]
    cases PeerPath.parse server.pool.basePath path with
    | error rejection => rfl
    | ok asked =>
      simp only [Cluster.group?, hosted, Option.bind_eq_bind, Option.bind_some]
      cases server.groups.get? asked.1 <;> rfl

/-- A request for a path that names no other group. -/
theorem serveVia (asks : Confines base ask) (node : Nat) {path : String}
    (about : ∀ found sought, PeerPath.parse (PeerPath.normalizeBase base) path =
      .ok (found, sought) → found = name) :
    Confined base name fun cluster => cluster.serveVia ask node path := by
  simp only [serveVia_eq]
  refine read _ (serveFrom ask node path) (fun _ _ agrees => agrees.bind_node node fun _ => rfl) ?_
  intro cluster peered
  cases hosted : cluster.nodes[node]? with
  | none => exact fail
  | some server =>
    rw [Option.bind_some, (peered server (List.mem_of_getElem? hosted)).basePath]
    cases parsed : PeerPath.parse (PeerPath.normalizeBase base) path with
    | error rejection =>
      refine congr (fun cluster => ?_) (pure (.error (.badPath rejection)))
      rw [serveFrom, parsed]
    | ok asked =>
      obtain rfl := about asked.1 asked.2 parsed
      let answer := answerFor ask node asked.1 asked.2
      refine congr (fun cluster => ?_) (group? node answer (pure _) fun _ _ => ?_)
      · rw [serveFrom, parsed]
      · exact bind (getVia asks node asked.2) fun got => pure _

/-- What asking comes to, once the way of the request is known. -/
def follow (ask : Ask) : Route → Cluster → Option (Fetched × Cluster)
  | .ended fetched, cluster => some (fetched, cluster)
  | .toNode node path, cluster => (cluster.serveVia ask node path).bind fun answered =>
    some (Fetched.ofResponse (.ofServed answered.1), answered.2)

theorem fetchWithin_eq (hops : Nat) (cluster : Cluster) (fetcher : Fetcher) (group key : String) :
    fetchWithin (hops + 1) cluster fetcher group key = follow (fetchWithin hops)
      (cluster.route (PeerPath.fetchUrl fetcher.baseUrl group key)) cluster := by
  rw [fetchWithin]
  cases cluster.route (PeerPath.fetchUrl fetcher.baseUrl group key) <;> rfl

end Confined

theorem fetchWithin_confines (base : String) (hops : Nat) : Confines base (fetchWithin hops) := by
  -- a request that takes one hop more is served by a node that asks with the hops that are left
  induction hops with
  | zero => exact fun _ _ _ _ => .fail
  | succ hops ih =>
    intro fetcher name key under
    refine .congr (Confined.fetchWithin_eq hops · fetcher name key) ?_
    refine .read _ (Confined.follow _) (fun _ _ agrees => agrees.route _) fun cluster _ => ?_
    cases routed : cluster.route (PeerPath.fetchUrl fetcher.baseUrl name key) with
    | ended fetched => exact .pure fetched
    | toNode node path =>
      obtain ⟨address, peer, below⟩ := under
      have named := (route_eq_toNode peer below routed).2
      exact .bind (.serveVia ih node fun found sought parsed => (named found sought parsed).1)
        fun served => .pure (Fetched.ofResponse (.ofServed served))

namespace Confined

variable {α β : Type}

theorem length {next : Nat → Cluster → Option (α × Cluster)}
    (rest : ∀ count, Confined base name (next count)) :
    Confined base name fun cluster => next cluster.nodes.length cluster :=
  read _ next (fun _ _ agrees => agrees.length) fun _ _ => rest _

theorem get (node : Nat) (key : String) :
    Confined base name fun cluster => cluster.get ⟨node, name⟩ key :=
  length fun count => getVia (fetchWithin_confines base (count + 1)) node key

theorem serve (node : Nat) {path : String}
    (about : ∀ found sought, PeerPath.parse (PeerPath.normalizeBase base) path =
      .ok (found, sought) → found = name) :
    Confined base name fun cluster => cluster.serve node path :=
  length fun count => serveVia (fetchWithin_confines base (count + 1)) node about

theorem startAll (node : Nat) (keys : List String) :
    Confined base name fun cluster => Cluster.startAll ⟨node, name⟩ cluster keys := by
  induction keys with
  | nil => exact pure []
  | cons key keys ih =>
    exact bind (start node key) fun started => bind ih fun rest => pure (started :: rest)

theorem proceedAll {ask : Ask} (asks : Confines base ask) (node : Nat)
    (gets : List (String × Group.Started)) :
    Confined base name fun cluster => Cluster.proceedAll ask ⟨node, name⟩ cluster gets := by
  induction gets with
  | nil => exact pure []
  | cons get gets ih =>
    exact bind (proceed asks node get.1 get.2) fun got => bind ih fun others =>
      pure (got :: others)

theorem getAll (node : Nat) (keys : List String) :
    Confined base name fun cluster => cluster.getAll ⟨node, name⟩ keys :=
  bind (startAll node keys) fun started => length fun count =>
    proceedAll (fetchWithin_confines base (count + 1)) node (keys.zip started)

theorem newGroup (node : Nat) (shard : Option Shard) (loader : Loader) (result : α) :
    Confined base name fun cluster =>
      some (result, cluster.newGroup ⟨node, name⟩ shard loader) := by
  let give (config : Config) : Group := { name, loader, shard := shard.getD config.shard }
  have named (server : Node) : (give server.config).name = name := rfl
  have blind (first second : Node) (same : first.bare = second.bare) :
      give first.config = give second.config := by
    have config : first.bare.config = second.bare.config := congrArg Node.config same
    exact congrArg give config
  exact enter named blind node result

/-- What a registration comes to, once it is known whether the node has the group. -/
def registerFor (node : Nat) (picker : Picker) :
    Option Group → Cluster → Option (Answer × Cluster)
  | none, cluster => some (.noGroup, cluster)
  | some group, cluster =>
    match group.register picker with
    | .ok group => some (.done, cluster.insertGroup node group)
    | .error error => some (.refused error, cluster)

theorem register_eq (cluster : Cluster) (node : Nat) (picker : Picker) :
    some (cluster.register ⟨node, name⟩ picker) =
      registerFor node picker (cluster.group? ⟨node, name⟩) cluster := by
  rw [Cluster.register]
  cases cluster.group? ⟨node, name⟩ with
  | none => rfl
  | some group =>
    simp only [registerFor]
    cases group.register picker <;> rfl

theorem register (node : Nat) (picker : Picker) :
    Confined base name fun cluster => some (cluster.register ⟨node, name⟩ picker) := by
  refine congr (register_eq · node picker) ?_
  refine group? node (registerFor node picker) (pure Answer.noGroup) fun group named => ?_
  cases registered : group.register picker with
  | error error =>
    refine congr (fun cluster => ?_) (pure (.refused error))
    rw [registerFor, registered]
  | ok attached =>
    have kept : attached.name = name := (Group.register_name registered).trans named
    refine congr (fun cluster => ?_) (insertGroup kept node .done)
    rw [registerFor, registered]

end Confined

end Cluster

end ReadThrough
