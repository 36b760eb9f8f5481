import Mathlib
import ReadThrough.Proofs.OneHop
import ReadThrough.Proofs.UnboundedShard

/-! Gets one after the other on nodes that never drop anything. A loader gives a value for a key
only at the home of the key, which holds it from then on, and whoever asks for the key later
finds it there. So no value is loaded twice, however many nodes there are. -/

namespace ReadThrough

/-- Whether an event is a call of a loader that gave a value for a key of a group. -/
def Event.succeeds (name key : String) : Event → Bool
  | .loaded place sought succeeded => place.group = name && sought = key && succeeded
  | .asked .. => false

theorem Group.start_unbounded {group : Group} (unbounded : group.shard.Unbounded) (key : String) :
    (group.start key).2.shard.Unbounded ∧
      (∀ other, group.shard.Holds other → (group.start key).2.shard.Holds other) ∧
      ((group.start key).1 = .missing → ¬(group.start key).2.shard.Holds key) := by
  have ⟨free, keeps, misses⟩ := unbounded.get key
  rcases group.start_cases key with refused | ⟨_, _, hit, shard⟩ | ⟨got, missing, shard⟩
  · rw [refused]
    exact ⟨unbounded, fun _ holds => holds, nofun⟩
  · rw [hit, shard]
    exact ⟨free, keeps, nofun⟩
  · rw [missing, shard]
    exact ⟨free, keeps, fun _ => misses got⟩

theorem Group.finishLoad_picker (group : Group) (key : String) (loaded : Except String Payload) :
    (group.finishLoad key loaded).picker = group.picker := by
  cases loaded <;> rfl

namespace Cluster

/-- How often loaders gave a value for a key of a group, on all nodes together. -/
def successes (cluster : Cluster) (name key : String) : Nat :=
  cluster.journal.countP (Event.succeeds name key)

/-- No key of a group was loaded twice, and its home holds each key that was loaded. The shards
of the group have room for everything. -/
structure LoadedOnce (name : String) (home : Nat → String → Prop) (cluster : Cluster) : Prop where
  unbounded : ∀ node group, cluster.group? ⟨node, name⟩ = some group → group.shard.Unbounded
  once : ∀ key, cluster.successes name key ≤ 1
  held : ∀ key, cluster.successes name key ≠ 0 → ∀ node group, home node key →
    cluster.group? ⟨node, name⟩ = some group → group.shard.Holds key

variable {cluster after : Cluster} {name key : String} {node : Nat} {group old : Group}
  {home : Nat → String → Prop} {got : Group.Got}

theorem group?_insertGroup (known : cluster.group? ⟨node, name⟩ = some old)
    (named : group.name = name) (other : Nat) :
    (cluster.insertGroup node group).group? ⟨other, name⟩ =
      if other = node then some group else cluster.group? ⟨other, name⟩ := by
  simp only [Cluster.group?, Option.bind_eq_bind, Option.bind_eq_some_iff] at known
  obtain ⟨server, hosted, -⟩ := known
  simp only [Cluster.group?, insertGroup, updateNode, List.getElem?_modify]
  by_cases same : other = node
  · simp only [same, hosted, if_true, Option.map_eq_map, Option.map_some]
    exact named ▸ Registry.get?_insert _ _
  · simp only [same, Ne.symm same, if_false, Option.map_eq_map, Option.map_id_fun']
    rfl

namespace LoadedOnce

theorem recordSilent (once : cluster.LoadedOnce name home) {event : Event}
    (silent : ∀ key, event.succeeds name key = false) :
    (cluster.record event).LoadedOnce name home := by
  have same (key : String) : (cluster.record event).successes name key =
      cluster.successes name key := List.countP_cons_of_neg (by simp [silent key])
  refine ⟨once.unbounded, fun key => ?_, fun key => ?_⟩
  · exact same key ▸ once.once key
  · exact same key ▸ once.held key

/-- The first success for a key may be entered once the key is held at its home. -/
theorem recordSuccess (once : cluster.LoadedOnce name home)
    (unloaded : cluster.successes name key = 0)
    (held : ∀ node group, home node key → cluster.group? ⟨node, name⟩ = some group →
      group.shard.Holds key) (node : Nat) :
    (cluster.record (.loaded ⟨node, name⟩ key true)).LoadedOnce name home := by
  have counted (sought : String) :
      (cluster.record (.loaded ⟨node, name⟩ key true)).successes name sought =
        cluster.successes name sought + if key = sought then 1 else 0 := by
    simp [successes, Cluster.record, List.countP_cons, Event.succeeds]
  refine ⟨once.unbounded, fun sought => ?_, fun sought some => ?_⟩
  · rw [counted]
    split
    next same => exact same ▸ Nat.le_of_eq (congrArg (· + 1) unloaded)
    next => exact once.once sought
  · rw [counted] at some
    by_cases same : key = sought
    · exact same ▸ held
    · rw [if_neg same] at some
      exact once.held sought some

/-- A group may be put in again if its shard lost nothing. -/
theorem insertGroup (once : cluster.LoadedOnce name home)
    (known : cluster.group? ⟨node, name⟩ = some old) (named : group.name = name)
    (unbounded : group.shard.Unbounded)
    (keeps : ∀ key, old.shard.Holds key → group.shard.Holds key) :
    (cluster.insertGroup node group).LoadedOnce name home := by
  refine ⟨fun other found => ?_, once.once, fun key some other found owns => ?_⟩
  · rw [group?_insertGroup known named]
    split
    next => exact fun same => Option.some.inj same ▸ unbounded
    next => exact once.unbounded other found
  · rw [group?_insertGroup known named]
    split
    next here =>
      intro same
      exact Option.some.inj same ▸ keeps key (once.held key some node old (here ▸ owns) known)
    next => exact once.held key some other found owns

theorem start (once : cluster.LoadedOnce name home) {started : Group.Started}
    (begun : cluster.start ⟨node, name⟩ key = some (started, after)) :
    after.LoadedOnce name home ∧ (started = .missing →
      ∀ group, after.group? ⟨node, name⟩ = some group → ¬group.shard.Holds key) := by
  obtain ⟨old, known, rfl, rfl⟩ := start_eq_some begun
  have named : (old.start key).2.name = name :=
    (old.start_name key).trans (group?_name known)
  obtain ⟨unbounded, keeps, misses⟩ := Group.start_unbounded (once.unbounded node old known) key
  refine ⟨once.insertGroup known named unbounded keeps, fun missing group found => ?_⟩
  rw [group?_insertGroup known named, if_pos rfl] at found
  exact Option.some.inj found ▸ misses missing

theorem finishFetch (once : cluster.LoadedOnce name home) (fetched : Fetched) :
    (cluster.updateGroup ⟨node, name⟩ (·.finishFetch fetched)).LoadedOnce name home := by
  unfold updateGroup
  split
  next => exact once
  next group known =>
    have same : (group.finishFetch fetched).shard = group.shard := by cases fetched <;> rfl
    refine once.insertGroup known ((group.finishFetch_name fetched).trans (group?_name known)) ?_ ?_
    · exact same ▸ once.unbounded node group known
    · exact fun key holds => same ▸ holds

/-- A loader that gives a value may be called at the one home of the key, as long as the key is
not held there. -/
theorem load (once : cluster.LoadedOnce name home)
    (done : cluster.load ⟨node, name⟩ key = some (got, after))
    (may : got.isOk = true → (∀ other, home other key → other = node) ∧
      home node key ∧ ∀ group, cluster.group? ⟨node, name⟩ = some group → ¬group.shard.Holds key) :
    after.LoadedOnce name home := by
  obtain ⟨group, known, given, rfl⟩ := load_eq_some done
  have named := group?_name known
  unfold Group.load at given ⊢
  cases loaded : group.loader key with
  | error text =>
    obtain rfl : got = .error (.loaderFailed text) := by rw [given, loaded]; rfl
    have silent (sought : String) :
        (Event.loaded ⟨node, name⟩ key false).succeeds name sought = false := Bool.and_false _
    exact (once.recordSilent silent).insertGroup known named (once.unbounded node group known)
      fun _ holds => holds
  | ok value =>
    obtain rfl : got = .ok value := by rw [given, loaded]; rfl
    obtain ⟨only, owns, free⟩ := may rfl
    obtain ⟨unbounded, added, keeps⟩ := (once.unbounded node group known).add key value
    -- had the key been loaded before, its home would hold it
    have unloaded : cluster.successes name key = 0 := by
      by_contra some
      exact free group known (once.held key some node group owns known)
    let filled := group.finishLoad key (.ok value)
    have kept : (cluster.insertGroup node filled).LoadedOnce name home :=
      once.insertGroup known named unbounded keeps
    refine kept.recordSuccess unloaded (fun other found owns => ?_) node
    have named : filled.name = name := named
    rw [only other owns, group?_insertGroup known named, if_pos rfl]
    exact fun same => Option.some.inj same ▸ added

/-- Gets at their homes call the loader only for what the home does not hold. -/
theorem getVia_home (once : cluster.LoadedOnce name home)
    (only : ∀ other, home other key → other = node) (owns : home node key) {ask : Ask}
    (alone : ∀ server group before, cluster.start ⟨node, name⟩ key = some (.missing, before) →
      before.nodes[node]? = some server → before.group? ⟨node, name⟩ = some group →
      server.source? group key = none)
    (done : cluster.getVia ask ⟨node, name⟩ key = some (got, after)) :
    after.LoadedOnce name home := by
  obtain ⟨started, before, begun, done⟩ := getVia_eq_some done
  have ⟨kept, free⟩ := once.start begun
  cases started with
  | refused =>
    obtain ⟨_, rfl⟩ := Prod.mk.inj (Option.some.inj done)
    exact kept
  | found value =>
    obtain ⟨_, rfl⟩ := Prod.mk.inj (Option.some.inj done)
    exact kept
  | missing =>
    obtain ⟨server, group, hosted, known, ⟨_, loaded⟩ | ⟨source, _, _, picked, _⟩⟩ :=
      finish_eq_some done
    · exact kept.load loaded fun _ => ⟨only, owns, free rfl⟩
    · nomatch picked.symm.trans (alone server group before begun hosted known)

end LoadedOnce

/-- Gets of a group, as steps. -/
def getsOf (name : String) (gets : List (Nat × String)) : List Step :=
  gets.map fun get => .get ⟨get.1, name⟩ get.2

/-- What every single get keeps, and each of them comes to an end, is kept by any number. -/
theorem exists_run_gets {holds : Cluster → Prop}
    (step : ∀ {cluster : Cluster} {node : Nat} {key : String} {group : Group}, holds cluster →
      Url.Undotted key → cluster.group? ⟨node, name⟩ = some group →
      ∃ got after, cluster.get ⟨node, name⟩ key = some (got, after) ∧ holds after)
    (kept : holds cluster) {gets : List (Nat × String)}
    (sought : ∀ get ∈ gets, Url.Undotted get.2) :
    ∃ answers after, cluster.run (getsOf name gets) = some (answers, after) ∧ holds after := by
  induction gets generalizing cluster with
  | nil => exact ⟨[], cluster, rfl, kept⟩
  | cons get gets ih =>
    have ⟨first, rest⟩ := List.forall_mem_cons.mp sought
    obtain ⟨answer, next, applied, left⟩ : ∃ answer next,
        cluster.apply (.get ⟨get.1, name⟩ get.2) = some (answer, next) ∧ holds next := by
      cases known : cluster.group? ⟨get.1, name⟩ with
      | none => exact ⟨.noGroup, cluster, by simp [Cluster.apply, known], kept⟩
      | some group =>
        obtain ⟨got, after, done, left⟩ := step kept first known
        exact ⟨.got got, after, by simp [Cluster.apply, known, done], left⟩
    obtain ⟨answers, after, ran, ended⟩ := ih left rest
    refine ⟨answer :: answers, after, ?_, ended⟩
    simp only [getsOf, List.map_cons, Cluster.run, applied, Option.bind_eq_bind, Option.bind_some]
    simp only [getsOf] at ran
    rw [ran]
    rfl

section Federation

variable {federation : Federation}

theorem owns_once (distinct : federation.peers.Nodup) (owns : federation.Owns node key) :
    ∀ other, federation.Owns other key → other = node := by
  intro other again
  obtain ⟨address, listed, owned⟩ := owns
  obtain ⟨_, relisted, same⟩ := again
  obtain rfl := Option.some.inj (owned.symm.trans same)
  have inside := (List.getElem?_eq_some_iff.mp listed).1
  exact ((List.getElem?_inj inside distinct).mp (listed.trans relisted.symm)).symm

namespace LoadedOnce

variable (settled : cluster.Settled federation)
  (once : cluster.LoadedOnce federation.name federation.Owns)

include settled once

/-- Without being its home, a node may load a key that has no value. -/
theorem loadAway (away : ¬federation.Owns node key) (may : federation.MayLoad node key)
    (done : cluster.load ⟨node, federation.name⟩ key = some (got, after)) :
    after.LoadedOnce federation.name federation.Owns := by
  refine once.load done fun succeeded => absurd ?_ away
  obtain ⟨group, known, given, _⟩ := load_eq_some done
  obtain ⟨_, _, _, follows, _⟩ := settled.known known
  rw [Group.load, follows.loader] at given
  cases loaded : federation.loader key with
  | ok value => exact may value loaded
  | error text =>
    rw [given, loaded] at succeeded
    cases succeeded

variable (distinct : federation.peers.Nodup)

include distinct

theorem atHome (owns : federation.Owns node key) {ask : Ask}
    (done : cluster.getVia ask ⟨node, federation.name⟩ key = some (got, after)) :
    after.LoadedOnce federation.name federation.Owns := by
  refine once.getVia_home (owns_once distinct owns) owns ?_ done
  intro server group before begun hosted known
  rcases (settled.start begun).source? hosted known key with ⟨_, alone⟩ | ⟨_, asks, _⟩
  · exact alone
  · exact absurd owns asks.1

/-- Another node than the home asks the home, where the key is loaded. What fails there has no
value anywhere. -/
theorem consult {fetcher : Fetcher} (asks : federation.Asks node key fetcher)
    (filled : key.isEmpty = false) (sought : Url.Undotted key) {hops : Nat} {fetched : Fetched}
    (consulted : cluster.consult (fetchWithin hops) ⟨node, federation.name⟩ (.peer fetcher) key =
      some (fetched, after)) :
    after.Settled federation ∧ after.LoadedOnce federation.name federation.Owns ∧
      ∀ error, fetched = .error error → federation.MayLoad node key := by
  let event := Event.asked ⟨node, federation.name⟩ (.peer fetcher) key
  have recorded : (cluster.record event).Settled federation := settled.record event
  have silent : (cluster.record event).LoadedOnce federation.name federation.Owns :=
    once.recordSilent fun _ => rfl
  obtain ⟨home, peer, owns, there, serves⟩ := recorded.serves asks
  obtain ⟨_, known, _⟩ := (recorded.nodes peer (List.mem_of_getElem? there)).hosts
  cases hops with
  | zero => nomatch consulted
  | succ hops =>
    have comes := serves.fetchWithin_eq_map (Option.isSome_of_eq_some known) federation.named.1
      federation.named.2 sought hops
    obtain ⟨⟨got, _⟩, answered, same⟩ := Option.map_eq_some_iff.mp (comes.symm.trans consulted)
    obtain ⟨rfl, rfl⟩ := Prod.mk.inj same
    obtain ⟨_, _, _, ended, left, _⟩ := recorded.getVia_home owns (fetchWithin hops)
    obtain ⟨rfl, rfl⟩ := Prod.mk.inj (Option.some.inj (answered.symm.trans ended))
    refine ⟨left, silent.atHome recorded distinct owns answered, fun error failed => ?_⟩
    obtain ⟨_, failure, rfl⟩ := Fetched.ofGot_eq_error.mp failed
    exact .of_failed filled ((recorded.runs.getVia answered).2 rfl)

theorem get (sought : Url.Undotted key) {hops : Nat} (done : cluster.getVia (fetchWithin hops)
      ⟨node, federation.name⟩ key = some (got, after)) :
    after.LoadedOnce federation.name federation.Owns := by
  by_cases owns : federation.Owns node key
  · exact once.atHome settled distinct owns done
  obtain ⟨started, before, begun, done⟩ := getVia_eq_some done
  have ⟨kept, _⟩ := once.start begun
  have stays := settled.start begun
  have suits := (settled.runs.start begun).2 rfl
  cases started with
  | refused =>
    obtain ⟨_, rfl⟩ := Prod.mk.inj (Option.some.inj done)
    exact kept
  | found value =>
    obtain ⟨_, rfl⟩ := Prod.mk.inj (Option.some.inj done)
    exact kept
  | missing =>
    obtain ⟨server, group, hosted, known, ended⟩ := finish_eq_some done
    rcases stays.source? hosted known key with ⟨home, _⟩ | ⟨fetcher, asks, asked⟩
    · exact absurd home owns
    rcases ended with ⟨picked, _⟩ | ⟨source, fetched, later, picked, consulted, ended⟩
    · nomatch picked.symm.trans asked
    obtain rfl := Option.some.inj (picked.symm.trans asked)
    -- the home has been asked; if it failed, the loader has no value to give here either
    obtain ⟨left, loadedOnce, may⟩ := kept.consult stays distinct asks suits sought consulted
    rcases ended with ⟨_, _, _, rfl⟩ | ⟨error, failed, loaded⟩
    · exact loadedOnce.finishFetch fetched
    · exact (loadedOnce.finishFetch fetched).loadAway (left.finishFetch fetched) owns
        (may error failed) loaded

end LoadedOnce

end Federation

/-- A single node that knows no peers; the group may ask its pool. -/
structure Lone (name : String) (cluster : Cluster) : Prop where
  alone : ∀ node server, cluster.nodes[node]? = some server → node = 0 ∧ server.pool.fetchers = []
  picker : ∀ node group, cluster.group? ⟨node, name⟩ = some group →
    ∀ picker, group.picker = some picker → picker = .pool

namespace Lone

theorem insertGroup (lone : cluster.Lone name) (known : cluster.group? ⟨node, name⟩ = some old)
    (named : group.name = name) (picker : group.picker = old.picker) :
    (cluster.insertGroup node group).Lone name := by
  refine ⟨fun other server hosted => ?_, fun other found => ?_⟩
  · rw [Cluster.insertGroup, updateNode, List.getElem?_modify] at hosted
    obtain ⟨before, there, rfl⟩ := Option.map_eq_some_iff.mp hosted
    have unchanged := lone.alone other before there
    split <;> exact unchanged
  · rw [group?_insertGroup known named]
    split
    next =>
      intro same
      exact Option.some.inj same ▸ picker ▸ lone.picker node old known
    next => exact lone.picker other found

theorem source? (lone : cluster.Lone name) {server : Node}
    (hosted : cluster.nodes[node]? = some server)
    (known : cluster.group? ⟨node, name⟩ = some group) (key : String) :
    server.source? group key = none := by
  have nobody : server.pool.pick key = none := by
    unfold Pool.pick
    rw [(lone.alone node server hosted).2]
    split
    next => rfl
    next => split <;> rfl
  unfold Node.source?
  split
  next => rfl
  next => rw [nobody, Option.map_none]
  next standIn picks => nomatch lone.picker node group known _ picks

/-- A get on the node comes to its end, and nothing is loaded a second time. -/
theorem get (lone : cluster.Lone name)
    (once : cluster.LoadedOnce name fun node _ => node = 0)
    (known : cluster.group? ⟨node, name⟩ = some old) :
    ∃ got after, cluster.get ⟨node, name⟩ key = some (got, after) ∧ after.Lone name ∧
      after.LoadedOnce name fun node _ => node = 0 := by
  obtain ⟨server, hosted, _⟩ := Option.bind_eq_some_iff.mp known
  obtain ⟨rfl, _⟩ := lone.alone node server hosted
  have named : (old.start key).2.name = name := (old.start_name key).trans (group?_name known)
  have begun := start_of_group known key
  let before := cluster.insertGroup 0 (old.start key).2
  have found : before.group? ⟨0, name⟩ = some (old.start key).2 := by
    rw [group?_insertGroup known named, if_pos rfl]
  have stays : before.Lone name := lone.insertGroup known named (old.start_picker key)
  obtain ⟨got, after, ended, left⟩ : ∃ got after,
      before.proceed cluster.ask ⟨0, name⟩ key (old.start key).1 = some (got, after) ∧
      after.Lone name := by
    cases (old.start key).1 with
    | refused => exact ⟨_, before, rfl, stays⟩
    | found value => exact ⟨_, before, rfl, stays⟩
    | missing =>
      obtain ⟨server, hosted, _⟩ := Option.bind_eq_some_iff.mp found
      have picked := stays.source? hosted found key
      refine ⟨_, _, (finish_of_alone hosted found picked).trans (load_of_group found key), ?_⟩
      have recorded (event : Event) : (before.record event).Lone name :=
        ⟨stays.alone, stays.picker⟩
      exact (recorded _).insertGroup found ((Group.finishLoad_name _ key _).trans named)
        (Group.finishLoad_picker _ key _)
  have done : cluster.get ⟨0, name⟩ key = some (got, after) := by
    rw [Cluster.get, getVia, begun]
    exact ended
  refine ⟨got, after, done, left, once.getVia_home (fun _ same => same) rfl ?_ done⟩
  intro server group later again hosted known
  obtain ⟨_, rfl⟩ := Prod.mk.inj (Option.some.inj (begun.symm.trans again))
  exact stays.source? hosted known key

end Lone

/-- The clusters in which every key of a group has one home: those that begin as federations, and
single nodes that know no peers. -/
inductive Homed (name : String) (cluster : Cluster) : Prop where
  | federation {federation : Federation} (named : federation.name = name)
      (distinct : federation.peers.Nodup) (founded : cluster.Founded federation)
  | lone (lone : cluster.Lone name)

/-- Nothing has happened yet, and the shards of a group have no cache and no budget to keep. -/
structure Untouched (name : String) (cluster : Cluster) : Prop where
  silent : cluster.journal = []
  shards : ∀ node group, cluster.group? ⟨node, name⟩ = some group →
    group.shard.cacheBytes = 0 ∧ group.shard.historyBytes = 0 ∧ group.shard.cache = none

theorem Untouched.loadedOnce (untouched : cluster.Untouched name) (home : Nat → String → Prop) :
    cluster.LoadedOnce name home := by
  have none (key : String) : cluster.successes name key = 0 := by
    rw [successes, untouched.silent]
    rfl
  refine ⟨fun node group known => ?_, fun key => by simp [none], fun key some => ?_⟩
  · obtain ⟨cacheBytes, historyBytes, fresh⟩ := untouched.shards node group known
    exact ⟨cacheBytes, historyBytes, fun cache built => nomatch fresh.symm.trans built⟩
  · exact absurd (none key) some

/-- Where shards have both budgets zero and any threshold, any gets one after the other, on any
nodes, come to an end, and all loaders together give a value for each key at most once. -/
theorem loaded_at_most_once (homed : cluster.Homed name) (untouched : cluster.Untouched name)
    {gets : List (Nat × String)} (sought : ∀ get ∈ gets, Url.Undotted get.2) :
    ∃ answers after, cluster.run (getsOf name gets) = some (answers, after) ∧
      ∀ key, after.successes name key ≤ 1 := by
  cases homed with
  | @federation federation named distinct founded =>
    subst named
    have settled := (Federation.Reachable.founded founded).settled.cluster
    have once := untouched.loadedOnce federation.Owns
    have step {cluster : Cluster} {node : Nat} {key : String} {group : Group}
        (kept : cluster.Settled federation ∧
          cluster.LoadedOnce federation.name federation.Owns) (sought : Url.Undotted key)
        (known : cluster.group? ⟨node, federation.name⟩ = some group) :
        ∃ got after, cluster.get ⟨node, federation.name⟩ key = some (got, after) ∧
          after.Settled federation ∧ after.LoadedOnce federation.name federation.Owns := by
      obtain ⟨settled, once⟩ := kept
      obtain ⟨_, hosted, _⟩ := settled.known known
      obtain ⟨got, after, _, done, left, _⟩ :=
        settled.getVia (settled.inside hosted) sought cluster.nodes.length
      exact ⟨got, after, done, left, once.get settled distinct sought done⟩
    obtain ⟨answers, after, ran, _, ended⟩ := exists_run_gets step ⟨settled, once⟩ sought
    exact ⟨answers, after, ran, ended.once⟩
  | lone lone =>
    have once := untouched.loadedOnce fun node _ => node = 0
    have step {cluster : Cluster} {node : Nat} {key : String} {group : Group}
        (kept : cluster.Lone name ∧ cluster.LoadedOnce name fun node _ => node = 0)
        (_ : Url.Undotted key) (known : cluster.group? ⟨node, name⟩ = some group) :
        ∃ got after, cluster.get ⟨node, name⟩ key = some (got, after) ∧ after.Lone name ∧
          after.LoadedOnce name fun node _ => node = 0 := kept.1.get kept.2 known
    obtain ⟨answers, after, ran, _, ended⟩ := exists_run_gets step ⟨lone, once⟩ sought
    exact ⟨answers, after, ran, ended.once⟩

/-- Two nodes that list each other, with shards that promote a key at its second observation. -/
def roomyPair : Cluster where
  nodes := Federation.pairNodes.nodes.map fun node => { node with
    groups := ⟨[{
      name := "g", loader := Federation.pair.loader, picker := some .pool
      shard := { cacheBytes := 0, historyBytes := 0, threshold := 2 } }]⟩ }

theorem roomyPair_founded : roomyPair.Founded Federation.pair where
  up := rfl
  clear := rfl
  silent := rfl
  addresses := rfl
  nodes := by
    intro node member
    obtain ⟨before, old, rfl⟩ := List.mem_map.mp member
    have founded := Federation.pairNodes_founded.nodes before old
    refine ⟨founded.basePath, founded.hash, founded.replicas, founded.peers, rfl, ?_⟩
    intro group inside _
    obtain rfl := List.mem_singleton.mp inside
    exact ⟨rfl, rfl, rfl⟩

/-- Three gets of one key from both nodes call a loader once. -/
theorem loaded_at_most_once_pair :
    let gets := [(1, "k"), (0, "k"), (1, "k")]
    ∃ answers after, roomyPair.run (getsOf "g" gets) = some (answers, after) ∧
      after.successes "g" "k" = 1 ∧ ∀ key, after.successes "g" key ≤ 1 := by
  intro gets
  have untouched : roomyPair.Untouched "g" := by
    refine ⟨rfl, fun node group known => ?_⟩
    obtain ⟨server, hosted, found⟩ := Option.bind_eq_some_iff.mp known
    obtain ⟨before, _, rfl⟩ := List.mem_map.mp (List.mem_of_getElem? hosted)
    obtain rfl := List.mem_singleton.mp (List.mem_of_find?_eq_some found)
    exact ⟨rfl, rfl, rfl⟩
  have homed : roomyPair.Homed "g" := .federation rfl (by decide) roomyPair_founded
  have sought : ∀ get ∈ gets, Url.Undotted get.2 := by decide
  obtain ⟨answers, after, ran, once⟩ := loaded_at_most_once homed untouched sought
  have counted : (roomyPair.run (getsOf "g" gets)).map (·.2.successes "g" "k") = some 1 := by cbv
  rw [ran] at counted
  exact ⟨answers, after, ran, Option.some.inj counted, once⟩

end Cluster

end ReadThrough
