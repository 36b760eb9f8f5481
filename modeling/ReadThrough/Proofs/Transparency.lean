import Mathlib
import ReadThrough.Proofs.ServiceInvariant

/-! A service looks the same through any node. Peers come and go, lists of peers disagree,
faults come up and pass, caches fill and drop, gets overlap: as long as every group of the name
has the one loader and every peer list holds addresses of hosts and ports, a get that comes to
an end answers as the loader does. -/

namespace ReadThrough

/-- A node without groups and peers. -/
structure Node.Fresh (service : Service) (node : Node) : Prop where
  basePath : node.pool.basePath = PeerPath.normalizeBase service.base
  fetchers : node.pool.fetchers = []
  groups : node.groups.groups = []

theorem Node.Fresh.runs {service : Service} {node : Node} (fresh : node.Fresh service) :
    node.Runs service where
  basePath := fresh.basePath
  fetchers _ member := absurd (fresh.fetchers ▸ member) List.not_mem_nil
  groups _ member := absurd (fresh.groups ▸ member) List.not_mem_nil

namespace Cluster

/-- Steps that give the groups of the service its loader, an empty shard and no picker but the
pool, and the pools no peers but addresses of a host and a port. -/
def Step.Respects (service : Service) : Step → Prop
  | .newGroup place shard loader => place.group = service.name →
      loader = service.loader ∧ ∀ own, shard = some own → own.cache = none
  | .setPeers _ peers => ∀ address ∈ peers, Url.IsPeerAddress address
  | .register place picker => place.group = service.name → picker = .pool
  | .get .. | .getAll .. | .serve .. | .fetch .. => True

variable {service : Service} {cluster after : Cluster} {place : Place}

theorem Runs.newGroup (runs : cluster.Runs service) {shard : Option Shard} {loader : Loader}
    (respects : (Step.newGroup place shard loader).Respects service) :
    (cluster.newGroup place shard loader).Runs service := by
  refine runs.updateNode fun node kept => ⟨kept.basePath, kept.fetchers, ?_⟩
  refine Registry.insert_follows kept.groups fun same => ?_
  obtain ⟨loaded, fresh⟩ := respects same
  refine ⟨loaded, fun _ none => (nomatch none), Shard.keeps_of_fresh ?_⟩
  cases shard with
  | none => rfl
  | some own => exact fresh own rfl

theorem Runs.setPeers (runs : cluster.Runs service) {node : Nat} {peers : List String}
    (addresses : ∀ address ∈ peers, Url.IsPeerAddress address) :
    (cluster.setPeers node peers).Runs service := by
  refine runs.updateNode fun node kept => ⟨kept.basePath, fun entry member => ?_, kept.groups⟩
  obtain ⟨address, listed, rfl⟩ := List.mem_map.mp member
  refine ⟨address, addresses address (List.mem_eraseDups.mp listed), ?_⟩
  rw [← kept.basePath]
  rfl

theorem Runs.register (runs : cluster.Runs service) {picker : Picker}
    (pooled : place.group = service.name → picker = .pool) :
    (cluster.register place picker).2.Runs service := by
  unfold Cluster.register
  split
  next => exact runs
  next group found =>
    have ⟨named, follows⟩ := runs.group? found
    split
    next registered accepted =>
      unfold Group.register at accepted
      split at accepted
      next => nomatch accepted
      next =>
        obtain rfl := Except.ok.inj accepted
        refine runs.insertGroup fun same => ?_
        have old := follows same
        refine ⟨old.loader, fun other chosen => ?_, old.shard⟩
        obtain rfl := Option.some.inj chosen
        exact pooled (named.symm.trans same)
    next => exact runs

theorem Runs.startAll (runs : cluster.Runs service) {keys : List String}
    {started : List Group.Started}
    (done : startAll place cluster keys = some (started, after)) :
    after.Runs service ∧ started.length = keys.length ∧ (place.group = service.name →
      ∀ get ∈ keys.zip started, get.2.Suits service.loader get.1) := by
  induction keys generalizing cluster started with
  | nil =>
    obtain ⟨rfl, rfl⟩ := Prod.mk.inj (Option.some.inj done)
    exact ⟨runs, rfl, by simp⟩
  | cons key keys ih =>
    simp only [Cluster.startAll, Option.bind_eq_bind, Option.bind_eq_some_iff] at done
    obtain ⟨⟨first, next⟩, begun, ⟨rest, last⟩, others, done⟩ := done
    obtain ⟨rfl, rfl⟩ := Prod.mk.inj (Option.some.inj done)
    have ⟨kept, suits⟩ := runs.start begun
    have ⟨ended, length, suited⟩ := ih kept others
    refine ⟨ended, congrArg (· + 1) length, fun same get member => ?_⟩
    rcases List.mem_cons.mp member with rfl | behind
    · exact suits same
    · exact suited same get behind

theorem Runs.proceedAll (runs : cluster.Runs service) {hops : Nat}
    {started : List (String × Group.Started)} {all : List Group.Got}
    (suits : place.group = service.name → ∀ get ∈ started, get.2.Suits service.loader get.1)
    (done : proceedAll (fetchWithin hops) place cluster started = some (all, after)) :
    after.Runs service ∧ (place.group = service.name →
      all = started.map fun get => service.loader.answer get.1) := by
  induction started generalizing cluster all with
  | nil =>
    obtain ⟨rfl, rfl⟩ := Prod.mk.inj (Option.some.inj done)
    exact ⟨runs, fun _ => rfl⟩
  | cons get rest ih =>
    simp only [Cluster.proceedAll, Option.bind_eq_bind, Option.bind_eq_some_iff] at done
    obtain ⟨⟨got, next⟩, answered, ⟨others, last⟩, more, done⟩ := done
    obtain ⟨rfl, rfl⟩ := Prod.mk.inj (Option.some.inj done)
    have ⟨kept, answer⟩ := runs.proceed (fun same => suits same get List.mem_cons_self) answered
    have ⟨ended, answers⟩ :=
      ih kept (fun same other member => suits same other (List.mem_cons_of_mem _ member)) more
    refine ⟨ended, fun same => ?_⟩
    rw [List.map_cons, ← answer same, ← answers same]

/-- Gets that overlap leave the service running and answer as the loader does. -/
theorem Runs.getAll (runs : cluster.Runs service) {keys : List String} {all : List Group.Got}
    (done : cluster.getAll place keys = some (all, after)) :
    after.Runs service ∧ (place.group = service.name → all = keys.map service.loader.answer) := by
  simp only [Cluster.getAll, Option.bind_eq_bind, Option.bind_eq_some_iff] at done
  obtain ⟨⟨started, before⟩, begun, done⟩ := done
  have ⟨kept, length, suits⟩ := runs.startAll begun
  have ⟨ended, answers⟩ := kept.proceedAll suits done
  refine ⟨ended, fun same => ?_⟩
  calc all
    _ = (keys.zip started).map fun get => service.loader.answer get.1 := answers same
    _ = ((keys.zip started).map (·.1)).map service.loader.answer := by
      rw [List.map_map]
      rfl
    _ = keys.map service.loader.answer := by rw [List.map_fst_zip (Nat.le_of_eq length.symm)]

/-- Every step that respects the service leaves it running. -/
theorem Runs.apply (runs : cluster.Runs service) {step : Step} (respects : step.Respects service)
    {answer : Answer} (done : cluster.apply step = some (answer, after)) : after.Runs service := by
  cases step with
  | newGroup place shard loader =>
    obtain ⟨_, rfl⟩ := Prod.mk.inj (Option.some.inj done)
    exact runs.newGroup respects
  | setPeers node peers =>
    obtain ⟨_, rfl⟩ := Prod.mk.inj (Option.some.inj done)
    exact runs.setPeers respects
  | register place picker =>
    have same : (cluster.register place picker).2 = after :=
      congrArg Prod.snd (Option.some.inj done)
    exact same ▸ runs.register respects
  | get place key =>
    simp only [Cluster.apply] at done
    split at done
    next =>
      obtain ⟨_, rfl⟩ := Prod.mk.inj (Option.some.inj done)
      exact runs
    next =>
      obtain ⟨⟨got, later⟩, answered, done⟩ := Option.bind_eq_some_iff.mp done
      obtain ⟨_, rfl⟩ := Prod.mk.inj (Option.some.inj done)
      exact (runs.get answered).1
  | getAll place keys =>
    simp only [Cluster.apply] at done
    split at done
    next =>
      obtain ⟨_, rfl⟩ := Prod.mk.inj (Option.some.inj done)
      exact runs
    next =>
      obtain ⟨⟨all, later⟩, answered, done⟩ := Option.bind_eq_some_iff.mp done
      obtain ⟨_, rfl⟩ := Prod.mk.inj (Option.some.inj done)
      exact (runs.getAll answered).1
  | serve node path =>
    obtain ⟨⟨served, later⟩, answered, done⟩ := Option.bind_eq_some_iff.mp done
    obtain ⟨_, rfl⟩ := Prod.mk.inj (Option.some.inj done)
    exact runs.serveVia answered
  | fetch fetcher group key =>
    obtain ⟨⟨fetched, later⟩, asked, done⟩ := Option.bind_eq_some_iff.mp done
    obtain ⟨_, rfl⟩ := Prod.mk.inj (Option.some.inj done)
    exact runs.fetched asked

/-- The clusters that a service may find itself in, with the gets in them. Gets overlap at any
point, and between any two moves of theirs the network may change and steps may be made. -/
inductive Reachable (service : Service) : Traffic → Prop where
  | fresh {nodes : List Node} {network : Network} (empty : ∀ node ∈ nodes, node.Fresh service)
      (harmless : ∀ entry ∈ network.faults, entry.2.Harmless) :
      Reachable service ⟨{ nodes, network }, []⟩
  | step {cluster after : Cluster} {flights : List Flight} {step : Step} {answer : Answer}
      (before : Reachable service ⟨cluster, flights⟩) (respects : step.Respects service)
      (done : cluster.apply step = some (answer, after)) : Reachable service ⟨after, flights⟩
  | network {cluster : Cluster} {flights : List Flight} {network : Network}
      (before : Reachable service ⟨cluster, flights⟩)
      (harmless : ∀ entry ∈ network.faults, entry.2.Harmless) :
      Reachable service ⟨{ cluster with network }, flights⟩
  | next {before later : Traffic} (reachable : Reachable service before)
      (next : before.Next later) : Reachable service later

/-- In every reachable cluster the service runs, and all gets of it agree with the loader. -/
theorem Reachable.runs {traffic : Traffic} (reachable : Reachable service traffic) :
    traffic.Runs service := by
  induction reachable with
  | fresh empty harmless =>
    exact ⟨⟨fun node member => (empty node member).runs, harmless⟩, List.forall_mem_nil _⟩
  | step _ respects done ih => exact ⟨ih.cluster.apply respects done, ih.suits⟩
  | network _ harmless ih => exact ⟨⟨ih.cluster.nodes, harmless⟩, ih.suits⟩
  | next _ next ih => exact ih.next next

theorem Reachable.run {flights : List Flight} (before : Reachable service ⟨cluster, flights⟩)
    {steps : List Step} (respects : ∀ step ∈ steps, step.Respects service) {answers : List Answer}
    (done : cluster.run steps = some (answers, after)) : Reachable service ⟨after, flights⟩ := by
  induction steps generalizing cluster answers with
  | nil =>
    obtain ⟨_, rfl⟩ := Prod.mk.inj (Option.some.inj done)
    exact before
  | cons step steps ih =>
    simp only [Cluster.run, Option.bind_eq_bind, Option.bind_eq_some_iff] at done
    obtain ⟨⟨answer, next⟩, first, ⟨rest, last⟩, others, done⟩ := done
    obtain ⟨_, rfl⟩ := Prod.mk.inj (Option.some.inj done)
    exact ih (before.step (respects step List.mem_cons_self) first)
      (fun step member => respects step (List.mem_cons_of_mem _ member)) others

/-- Wherever a service is asked in a reachable cluster, the answer is the loader's: of a get and
of gets of one place that nothing interrupts, and of a get that came to its end among others,
whatever happened while it waited. -/
theorem gets_answer {traffic : Traffic} (reachable : Reachable service traffic) :
    (∀ node key got after, traffic.cluster.get ⟨node, service.name⟩ key = some (got, after) →
      got = service.loader.answer key) ∧
    (∀ node keys all after,
      traffic.cluster.getAll ⟨node, service.name⟩ keys = some (all, after) →
      all = keys.map service.loader.answer) ∧
    (∀ flight ∈ traffic.flights, flight.place.group = service.name →
      ∀ got, flight.stage = .done got → got = service.loader.answer flight.key) := by
  have runs := reachable.runs
  refine ⟨?_, ?_, ?_⟩
  · intro node key got after done
    exact (runs.cluster.get done).2 rfl
  · intro node keys all after done
    exact (runs.cluster.getAll done).2 rfl
  · intro flight member same got ended
    have suits := runs.suits flight member same
    rw [ended] at suits
    exact suits

/-- Keys that are their own values. -/
def echoes : Service where
  base := PeerPath.defaultBase
  name := "g"
  loader := fun key => .ok (.ofText key)

/-- Two nodes whose rings give every key to the peer that is listed first. -/
def twoNodes : Cluster where
  nodes := ["http://a:80", "http://b:80"].map fun address =>
    { pool := .new address { replicas := 1, hash := some fun _ => 0 } }

/-- Gives both nodes the group and lets the second one ask the first one. -/
def joining : List Step := [
  .newGroup ⟨0, "g"⟩ none echoes.loader,
  .newGroup ⟨1, "g"⟩ (some (.lru 9)) echoes.loader,
  .setPeers 1 ["http://a:80/", "http://b:80"],
  .register ⟨1, "g"⟩ .pool]

theorem joining_respects : ∀ step ∈ joining, step.Respects echoes := by
  intro step member
  simp only [joining, List.mem_cons, List.not_mem_nil, or_false] at member
  rcases member with rfl | rfl | rfl | rfl
  · refine fun _ => ⟨rfl, fun _ none => ?_⟩
    cases none
  · exact fun _ => ⟨rfl, fun _ same => Option.some.inj same ▸ rfl⟩
  · intro address listed
    simp only [List.mem_cons, List.not_mem_nil, or_false] at listed
    rcases listed with rfl | rfl
    · exact ⟨['a'], ['8', '0'], 1, ⟨by simp [Url.endsHost], by simp, by simp⟩, rfl⟩
    · exact ⟨['b'], ['8', '0'], 0, ⟨by simp [Url.endsHost], by simp, by simp⟩, rfl⟩
  · exact fun _ => rfl

/-- The second node has a value that only the first one loaded. -/
theorem gets_answer_joined : ∃ answers joined, twoNodes.run joining = some (answers, joined) ∧
    Reachable echoes ⟨joined, []⟩ ∧ ∃ got after, joined.get ⟨1, "g"⟩ "k" = some (got, after) ∧
      after.loads ⟨0, "g"⟩ = 1 ∧ got = echoes.loader.answer "k" := by
  have answered : ((twoNodes.run joining).bind fun r => r.2.get ⟨1, "g"⟩ "k").map
      (·.2.loads ⟨0, "g"⟩) = some 1 := by cbv
  obtain ⟨⟨got, after⟩, done, loads⟩ := Option.map_eq_some_iff.mp answered
  obtain ⟨⟨answers, joined⟩, ran, done⟩ := Option.bind_eq_some_iff.mp done
  have reachable : Reachable echoes ⟨joined, []⟩ := by
    refine Reachable.run (.fresh (fun node member => ?_) (by simp)) joining_respects ran
    obtain ⟨address, _, rfl⟩ := List.mem_map.mp member
    exact ⟨rfl, rfl, rfl⟩
  exact ⟨answers, joined, ran, reachable, got, after, done, loads,
    (gets_answer reachable).1 1 "k" got after done⟩

end Cluster

end ReadThrough
