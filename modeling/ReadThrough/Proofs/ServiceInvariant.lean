import ReadThrough.Proofs.Interleaving
import ReadThrough.Proofs.PeerRequest
import ReadThrough.Proofs.ShardContents

/-! One group that all nodes of a cluster run with the same loader. What is kept of it anywhere
is what the loader gives, and its nodes ask only each other, under one base path. Every move of
a get keeps this, whatever other gets have come to, and so do whole gets, however deep their
requests go. Any answer is then the loader's. -/

namespace ReadThrough

/-- A group as all nodes run it, below one base path. -/
structure Service where
  base : String
  name : String
  loader : Loader

/-- The answer of the loader to a get. -/
def Loader.answer (loader : Loader) (key : String) : Group.Got :=
  if key.isEmpty then .error .keyRequired else (loader key).mapError .loaderFailed

theorem Loader.answer_of_ok {loader : Loader} {key : String} {value : Payload}
    (some : key.isEmpty = false) (loaded : loader key = .ok value) :
    loader.answer key = .ok value := by
  simp [answer, some, loaded, Except.mapError]

/-- A fault that no asking node takes for a value. -/
def Fault.Harmless : Fault → Prop
  | .response status _ => Http.succeeds status = false
  | _ => True

theorem Fault.Harmless.fetched_ne_ok {fault : Fault} (harmless : fault.Harmless) (value : Payload) :
    fault.fetched ≠ .ok value := by
  intro given
  cases fault with
  | response status body =>
    have failed : Http.succeeds status = false := harmless
    simp [Fault.fetched, Fetched.ofResponse, failed] at given
  | close => cases given
  | truncate => cases given
  | hang => cases given

namespace Group

/-- A group that loads with a loader, asks nobody but the pool of its node, and keeps nothing
but what the loader gives. -/
structure Follows (given : Loader) (group : Group) : Prop where
  loader : group.loader = given
  picker : ∀ picker, group.picker = some picker → picker = .pool
  shard : group.shard.Keeps fun key value => given key = .ok value

/-- What the first step of a get found agrees with a loader. -/
def Started.Suits (loader : Loader) (key : String) : Started → Prop
  | .refused => key.isEmpty = true
  | .found value => key.isEmpty = false ∧ loader key = .ok value
  | .missing => key.isEmpty = false

variable {loader : Loader} {group : Group}

theorem start_name (group : Group) (key : String) : (group.start key).2.name = group.name := by
  unfold start
  split
  next => rfl
  next => split <;> rfl

theorem finishLoad_name (group : Group) (key : String) (loaded : Except String Payload) :
    (group.finishLoad key loaded).name = group.name := by
  cases loaded <;> rfl

theorem finishFetch_name (group : Group) (fetched : Fetched) :
    (group.finishFetch fetched).name = group.name := by
  cases fetched <;> rfl

theorem Follows.start (follows : group.Follows loader) (key : String) :
    (group.start key).1.Suits loader key ∧ (group.start key).2.Follows loader := by
  have ⟨found, kept⟩ := follows.shard.get key
  unfold Group.start
  split
  next empty => exact ⟨empty, follows⟩
  next some =>
    have some : key.isEmpty = false := Bool.eq_false_iff.mpr some
    split
    next value shard got =>
      rw [got] at found kept
      exact ⟨⟨some, found value rfl⟩, follows.loader, follows.picker, kept⟩
    next shard got =>
      rw [got] at kept
      exact ⟨some, follows.loader, follows.picker, kept⟩

theorem Follows.finishFetch (follows : group.Follows loader) (fetched : Fetched) :
    (group.finishFetch fetched).Follows loader := by
  cases fetched with
  | ok value => exact ⟨follows.loader, follows.picker, follows.shard⟩
  | error error => exact ⟨follows.loader, follows.picker, follows.shard⟩

theorem Follows.finishLoad (follows : group.Follows loader) {key : String}
    {loaded : Except String Payload} (given : loaded = loader key) :
    (group.finishLoad key loaded).Follows loader := by
  unfold Group.finishLoad
  split
  next value => exact ⟨follows.loader, follows.picker, follows.shard.add given.symm⟩
  next => exact follows

end Group

namespace Registry

theorem insert_follows {service : Service} {registry : Registry} {group : Group}
    (kept : ∀ group ∈ registry.groups, group.name = service.name → group.Follows service.loader)
    (new : group.name = service.name → group.Follows service.loader) :
    ∀ other ∈ (registry.insert group).groups, other.name = service.name →
      other.Follows service.loader := by
  intro other member
  rcases List.mem_cons.mp member with rfl | before
  · exact new
  · exact kept other (List.mem_filter.mp before).1

theorem name_of_get? {registry : Registry} {name : String} {group : Group}
    (found : registry.get? name = some group) : group.name = name := by
  simpa using List.find?_some found

end Registry

/-- A fetcher that asks a host and a port below the base path of a service. -/
def Fetcher.Below (service : Service) (fetcher : Fetcher) : Prop :=
  ∃ address, Url.IsPeerAddress address ∧
    fetcher.baseUrl = PeerPath.baseUrl address (PeerPath.normalizeBase service.base)

/-- A node runs a service if its group of that name follows the loader and its pool asks peers
below the base path. -/
structure Node.Runs (service : Service) (node : Node) : Prop where
  basePath : node.pool.basePath = PeerPath.normalizeBase service.base
  fetchers : ∀ entry ∈ node.pool.fetchers, entry.2.Below service
  groups : ∀ group ∈ node.groups.groups, group.name = service.name → group.Follows service.loader

/-- Whoever is asked for a key of the service is a peer below the base path. -/
theorem Node.Runs.source {service : Service} {node : Node} (runs : node.Runs service)
    {group : Group} (follows : group.Follows service.loader) {key : String} {source : Source}
    (picked : node.source? group key = some source) :
    ∃ fetcher, source = .peer fetcher ∧ fetcher.Below service := by
  unfold Node.source? at picked
  split at picked
  next => nomatch picked
  next =>
    obtain ⟨fetcher, chosen, rfl⟩ := Option.map_eq_some_iff.mp picked
    unfold Pool.pick at chosen
    split at chosen
    next => nomatch chosen
    next =>
      split at chosen
      next => nomatch chosen
      next => exact ⟨fetcher, rfl, runs.fetchers _ (Cache.mem_of_lookup chosen)⟩
  next standIn stands => nomatch follows.picker _ stands

namespace Cluster

/-- All nodes of a cluster run a service, and no fault gives a value. -/
structure Runs (service : Service) (cluster : Cluster) : Prop where
  nodes : ∀ node ∈ cluster.nodes, node.Runs service
  faults : ∀ entry ∈ cluster.network.faults, entry.2.Harmless

variable {service : Service} {cluster after : Cluster} {place : Place} {key : String}

theorem group?_name {group : Group} (known : cluster.group? place = some group) :
    group.name = place.group := by
  simp only [Cluster.group?, Option.bind_eq_bind, Option.bind_eq_some_iff] at known
  obtain ⟨_, _, found⟩ := known
  exact Registry.name_of_get? found

theorem mem_updateNode {cluster : Cluster} {index : Nat} {update : Node → Node} {node : Node}
    (member : node ∈ (cluster.updateNode index update).nodes) :
    node ∈ cluster.nodes ∨ ∃ before ∈ cluster.nodes, node = update before := by
  obtain ⟨position, found⟩ := List.mem_iff_getElem?.mp member
  rw [updateNode, List.getElem?_modify] at found
  obtain ⟨before, there, rfl⟩ := Option.map_eq_some_iff.mp found
  split
  next => exact .inr ⟨before, List.mem_of_getElem? there, rfl⟩
  next => exact .inl (List.mem_of_getElem? there)

theorem Runs.updateNode (runs : cluster.Runs service) {index : Nat} {update : Node → Node}
    (kept : ∀ node, node.Runs service → (update node).Runs service) :
    (cluster.updateNode index update).Runs service where
  nodes node member := by
    rcases mem_updateNode member with same | ⟨before, inside, rfl⟩
    · exact runs.nodes node same
    · exact kept before (runs.nodes before inside)
  faults := runs.faults

theorem Runs.insertGroup (runs : cluster.Runs service) {index : Nat} {group : Group}
    (new : group.name = service.name → group.Follows service.loader) :
    (cluster.insertGroup index group).Runs service :=
  runs.updateNode fun _ node =>
    ⟨node.basePath, node.fetchers, Registry.insert_follows node.groups new⟩

theorem Runs.group? (runs : cluster.Runs service) {group : Group}
    (found : cluster.group? place = some group) :
    group.name = place.group ∧
      (group.name = service.name → group.Follows service.loader) := by
  simp only [Cluster.group?, Option.bind_eq_bind, Option.bind_eq_some_iff] at found
  obtain ⟨node, hosted, known⟩ := found
  exact ⟨Registry.name_of_get? known,
    (runs.nodes node (List.mem_of_getElem? hosted)).groups group (List.mem_of_find?_eq_some known)⟩

theorem Runs.updateGroup (runs : cluster.Runs service) {update : Group → Group}
    (named : ∀ group, (update group).name = group.name)
    (kept : ∀ group, group.Follows service.loader → (update group).Follows service.loader) :
    (cluster.updateGroup place update).Runs service := by
  unfold Cluster.updateGroup
  split
  next => exact runs
  next group found =>
    refine runs.insertGroup fun same => kept group ((runs.group? found).2 ?_)
    rw [← named, same]

theorem Runs.record (runs : cluster.Runs service) (event : Event) :
    (cluster.record event).Runs service :=
  ⟨runs.nodes, runs.faults⟩

theorem Runs.start (runs : cluster.Runs service) {started : Group.Started}
    (done : cluster.start place key = some (started, after)) :
    after.Runs service ∧ (place.group = service.name → started.Suits service.loader key) := by
  obtain ⟨group, found, rfl, rfl⟩ := start_eq_some done
  have ⟨named, follows⟩ := runs.group? found
  constructor
  · exact runs.insertGroup fun same =>
      ((follows (group.start_name key ▸ same)).start key).2
  · exact fun same => ((follows (named.trans same)).start key).1

theorem Runs.fault (runs : cluster.Runs service) {endpoint : Endpoint} {fault : Fault}
    (placed : cluster.network.faults.lookup endpoint = some fault) : fault.Harmless := by
  obtain ⟨before, behind, split, _⟩ := List.lookup_eq_some_iff.mp placed
  exact runs.faults (endpoint, fault) (split ▸ List.mem_append_right _ List.mem_cons_self)

/-- A stage that a get of the service may reach: it asks nobody but peers below the base path,
and what it has found agrees with the loader. -/
def Stage.Suits (service : Service) (key : String) : Stage → Prop
  | .started found => found.Suits service.loader key
  | .asking (.peer fetcher) => key.isEmpty = false ∧ fetcher.Below service
  | .asking (.standIn _) => False
  | .served place sought => key.isEmpty = false ∧ place.group = service.name ∧
      (sought = key ∨ sought = "")
  | .unanswered => key.isEmpty = false
  | .loaded outcome => key.isEmpty = false ∧ outcome = service.loader key
  | .done got => got = service.loader.answer key

theorem Stage.ofFetched_suits {fetched : Fetched} (some : key.isEmpty = false)
    (given : ∀ value, fetched = .ok value → service.loader.answer key = .ok value) :
    (ofFetched fetched).Suits service key := by
  cases fetched with
  | ok value => exact (given value rfl).symm
  | error => exact some

/-- A cluster runs a service, and all gets of it are at stages that they may reach. -/
structure Traffic.Runs (service : Service) (traffic : Traffic) : Prop where
  cluster : traffic.cluster.Runs service
  suits : ∀ flight ∈ traffic.flights, flight.place.group = service.name →
    flight.stage.Suits service flight.key

theorem Runs.finishFetch (runs : cluster.Runs service) (fetched : Fetched) :
    (cluster.updateGroup place (·.finishFetch fetched)).Runs service :=
  runs.updateGroup (·.finishFetch_name fetched) fun _ follows => follows.finishFetch fetched

/-- Whatever get makes a move, the service keeps running, and a get of the service comes to a
stage that it may reach, if all others are at such stages. -/
theorem Runs.moves (runs : cluster.Runs service) {flights : List Flight} {stage next : Stage}
    (others : ∀ flight ∈ flights, flight.place.group = service.name →
      flight.stage.Suits service flight.key)
    (suits : place.group = service.name → stage.Suits service key)
    (moves : Moves flights place key cluster stage after next) :
    after.Runs service ∧ (place.group = service.name → next.Suits service key) := by
  induction moves with
  | refuse => exact ⟨runs, fun same => (if_pos (suits same)).symm⟩
  | find => exact ⟨runs, fun same => (Loader.answer_of_ok (suits same).1 (suits same).2).symm⟩
  | alone => exact ⟨runs, suits⟩
  | ask hosted known picked =>
    refine ⟨runs.record _, fun same => ?_⟩
    have ⟨named, follows⟩ := runs.group? known
    obtain ⟨fetcher, rfl, below⟩ :=
      (runs.nodes _ (List.mem_of_getElem? hosted)).source (follows (named.trans same)) picked
    exact ⟨suits same, below⟩
  | standIn => exact ⟨runs.finishFetch _, fun same => (suits same).elim⟩
  | stop routed =>
    refine ⟨runs.finishFetch _, fun same => ?_⟩
    obtain ⟨some, address, peer, below⟩ := suits same
    refine Stage.ofFetched_suits some fun value ok => ?_
    obtain ⟨endpoint, fault, _, placed, given⟩ := route_eq_ended peer below (ok ▸ routed)
    exact absurd given ((runs.fault placed).fetched_ne_ok value)
  | arrive routed hosted parsed =>
    refine ⟨runs, fun same => ?_⟩
    obtain ⟨some, address, peer, below⟩ := suits same
    rw [(runs.nodes _ (List.mem_of_getElem? hosted)).basePath] at parsed
    obtain ⟨named, sought⟩ := (route_eq_toNode peer below routed).2 _ _ parsed
    exact ⟨some, named.trans same, sought⟩
  | reply answered given =>
    refine ⟨runs.finishFetch _, fun same => ?_⟩
    obtain ⟨some, group, asked⟩ := suits same
    refine Stage.ofFetched_suits some fun value ok => ?_
    obtain rfl := Fetched.eq_ok_of_got (given.symm.trans ok)
    have answer : .ok value = service.loader.answer _ := others _ answered group
    rcases asked with rfl | rfl
    · exact answer.symm
    · nomatch answer
  | @lost source =>
    cases source with
    | peer => exact ⟨runs.finishFetch _, fun same => (suits same).1⟩
    | standIn => exact ⟨runs.finishFetch _, fun same => (suits same).elim⟩
  | failed => exact ⟨runs.finishFetch _, fun same => (suits same).1⟩
  | load known =>
    refine ⟨runs.record _, fun same => ⟨suits same, ?_⟩⟩
    have ⟨named, follows⟩ := runs.group? known
    rw [(follows (named.trans same)).loader]
  | @keep group loaded known =>
    have ⟨named, follows⟩ := runs.group? known
    constructor
    · refine runs.insertGroup fun same => ?_
      have same : group.name = service.name := group.finishLoad_name key loaded ▸ same
      exact (follows same).finishLoad (suits (named.symm.trans same)).2
    · intro same
      obtain ⟨some, rfl⟩ := suits same
      exact (if_neg (Bool.eq_false_iff.mp some)).symm
  | replaced _ ih => exact ⟨⟨runs.nodes, runs.faults⟩, (ih suits).2⟩

theorem Traffic.Runs.next {before later : Traffic} (runs : before.Runs service)
    (next : before.Next later) : later.Runs service := by
  cases next with
  | start begun =>
    have ⟨kept, suits⟩ := runs.cluster.start begun
    exact ⟨kept, List.forall_mem_cons.mpr ⟨suits, runs.suits⟩⟩
  | move moves =>
    have ⟨inFront, rest⟩ := List.forall_mem_append.mp runs.suits
    have ⟨own, behind⟩ := List.forall_mem_cons.mp rest
    have ⟨kept, suited⟩ := runs.cluster.moves runs.suits own moves
    exact ⟨kept, List.forall_mem_append.mpr ⟨inFront, List.forall_mem_cons.mpr ⟨suited, behind⟩⟩⟩

theorem Traffic.Runs.leads {before later : Traffic} (runs : before.Runs service)
    (leads : before.Leads later) : later.Runs service := by
  induction leads with
  | refl => exact runs
  | tail _ next ih => exact ih.next next

variable {got : Group.Got}

theorem Runs.proceed (runs : cluster.Runs service) {started : Group.Started} {hops : Nat}
    (suits : place.group = service.name → started.Suits service.loader key)
    (done : cluster.proceed (fetchWithin hops) place key started = some (got, after)) :
    after.Runs service ∧ (place.group = service.name → got = service.loader.answer key) := by
  obtain ⟨nested, leads⟩ := proceed_leads (fetchWithin_interleaves hops) done []
  have ended := Traffic.Runs.leads ⟨runs, List.forall_mem_singleton.mpr suits⟩ leads
  exact ⟨ended.cluster, ended.suits ⟨place, key, .done got⟩ (by simp)⟩

/-- A get leaves the service running and answers as the loader does. -/
theorem Runs.getVia (runs : cluster.Runs service) {hops : Nat}
    (done : cluster.getVia (fetchWithin hops) place key = some (got, after)) :
    after.Runs service ∧ (place.group = service.name → got = service.loader.answer key) := by
  obtain ⟨started, before, begun, rest⟩ := getVia_eq_some done
  have ⟨kept, suits⟩ := runs.start begun
  exact kept.proceed suits rest

theorem Runs.get (runs : cluster.Runs service)
    (done : cluster.get place key = some (got, after)) :
    after.Runs service ∧ (place.group = service.name → got = service.loader.answer key) :=
  runs.getVia done

theorem Runs.serveVia (runs : cluster.Runs service) {hops node : Nat} {path : String}
    {served : Served} (done : cluster.serveVia (fetchWithin hops) node path = some (served, after)) :
    after.Runs service := by
  rcases serveVia_eq_some done with ⟨rfl, _⟩ | ⟨_, _, _, _, _, _, answered, _⟩
  · exact runs
  · exact (runs.getVia answered).1

theorem Runs.fetched (runs : cluster.Runs service) {hops : Nat} {fetcher : Fetcher}
    {group : String} {fetched : Fetched}
    (done : fetchWithin hops cluster fetcher group key = some (fetched, after)) :
    after.Runs service := by
  cases hops with
  | zero => nomatch done
  | succ hops =>
    rcases fetchWithin_eq_some done with ⟨_, rfl⟩ | ⟨_, _, _, _, answered, _⟩
    · exact runs
    · exact runs.serveVia answered

end Cluster

end ReadThrough
