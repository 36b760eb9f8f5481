import ReadThrough.Proofs.ClusterCalls
import Mathlib.Logic.Relation

/-! Gets that overlap at any point. A get waits for its peer and for its loader, and while it
waits other gets go on, the one that its peer does for it among them. What a get may do from one
wait to the next is a relation on the cluster and on the stage that the get has reached. A get
that nothing interrupts is one run of these moves. -/

namespace ReadThrough.Cluster

/-- How far a get has come. A request that has reached a node stands for the get of that node,
whose answer it waits for. -/
inductive Stage where
  | started (started : Group.Started)
  | asking (source : Source)
  | served (place : Place) (key : String)
  | unanswered
  | loaded (loaded : Except String Payload)
  | done (got : Group.Got)

/-- Where a get is once it has been told what its question came to. -/
def Stage.ofFetched : Fetched → Stage
  | .ok value => .done (.ok value)
  | .error _ => .unanswered

/-- A get that is under way or has come to its end. -/
structure Flight where
  place : Place
  key : String
  stage : Stage

/-- What one get does between two waits, among other gets. Asking may fail at any time, and a
get whose group was replaced while it waited leaves no trace in the new one.

A get is known by its place and its key, so `alone`, `ask` and `load` look the group up again. No
move replaces a group. But if one was replaced between moves, what is read is the picker and the
loader of the group that is there now, where a get that holds on to its group would read those of
the replaced one. Such a get makes these same moves if both groups have the same picker and loader;
if they do not, nothing is said about it. -/
inductive Moves (flights : List Flight) (place : Place) (key : String) :
    Cluster → Stage → Cluster → Stage → Prop where
  | refuse {cluster} :
      Moves flights place key cluster (.started .refused) cluster (.done (.error .keyRequired))
  | find {cluster} {value : Payload} :
      Moves flights place key cluster (.started (.found value)) cluster (.done (.ok value))
  | alone {cluster} {node : Node} {group : Group} (hosted : cluster.nodes[place.node]? = some node)
      (known : cluster.group? place = some group) (picked : node.source? group key = none) :
      Moves flights place key cluster (.started .missing) cluster .unanswered
  | ask {cluster} {node : Node} {group : Group} {source : Source}
      (hosted : cluster.nodes[place.node]? = some node) (known : cluster.group? place = some group)
      (picked : node.source? group key = some source) :
      Moves flights place key cluster (.started .missing)
        (cluster.record (.asked place source key)) (.asking source)
  | standIn {cluster} {standIn : StandIn} {fetched : Fetched}
      (given : standIn.answer place.group key = fetched) :
      Moves flights place key cluster (.asking (.standIn standIn))
        (cluster.updateGroup place (·.finishFetch fetched)) (.ofFetched fetched)
  | stop {cluster} {fetcher : Fetcher} {fetched : Fetched}
      (routed : cluster.route (PeerPath.fetchUrl fetcher.baseUrl place.group key) =
        .ended fetched) :
      Moves flights place key cluster (.asking (.peer fetcher))
        (cluster.updateGroup place (·.finishFetch fetched)) (.ofFetched fetched)
  | arrive {cluster} {fetcher : Fetcher} {node : Nat} {path : String} {server : Node}
      {group sought : String}
      (routed : cluster.route (PeerPath.fetchUrl fetcher.baseUrl place.group key) =
        .toNode node path)
      (hosted : cluster.nodes[node]? = some server)
      (parsed : PeerPath.parse server.pool.basePath path = .ok (group, sought)) :
      Moves flights place key cluster (.asking (.peer fetcher)) cluster
        (.served ⟨node, group⟩ sought)
  | reply {cluster} {other : Place} {sought : String} {got : Group.Got} {fetched : Fetched}
      (answered : ⟨other, sought, .done got⟩ ∈ flights)
      (told : fetched = .ofResponse (.ofServed (got.mapError .lookup))) :
      Moves flights place key cluster (.served other sought)
        (cluster.updateGroup place (·.finishFetch fetched)) (.ofFetched fetched)
  | lost {cluster} {source : Source} (error : FetchError) :
      Moves flights place key cluster (.asking source)
        (cluster.updateGroup place (·.finishFetch (.error error))) .unanswered
  | failed {cluster} {other : Place} {sought : String} (error : FetchError) :
      Moves flights place key cluster (.served other sought)
        (cluster.updateGroup place (·.finishFetch (.error error))) .unanswered
  | load {cluster} {group : Group} (known : cluster.group? place = some group) :
      Moves flights place key cluster .unanswered
        (cluster.record (.loaded place key (group.loader key).isOk)) (.loaded (group.loader key))
  | keep {cluster} {group : Group} {loaded : Except String Payload}
      (known : cluster.group? place = some group) :
      Moves flights place key cluster (.loaded loaded)
        (cluster.insertGroup place.node (group.finishLoad key loaded))
        (.done (loaded.mapError .loaderFailed))
  | replaced {cluster after} {stage next : Stage}
      (moves : Moves flights place key cluster stage after next) :
      Moves flights place key cluster stage { cluster with journal := after.journal } next

/-- A cluster with the gets in it, those that came to an end included. -/
structure Traffic where
  cluster : Cluster
  flights : List Flight

namespace Traffic

inductive Next : Traffic → Traffic → Prop where
  | start {cluster after : Cluster} {flights : List Flight} {place : Place} {key : String}
      {started : Group.Started} (begun : cluster.start place key = some (started, after)) :
      Next ⟨cluster, flights⟩ ⟨after, ⟨place, key, .started started⟩ :: flights⟩
  | move {cluster after : Cluster} {front behind : List Flight} {place : Place} {key : String}
      {stage next : Stage}
      (moves : Moves (front ++ ⟨place, key, stage⟩ :: behind) place key cluster stage after next) :
      Next ⟨cluster, front ++ ⟨place, key, stage⟩ :: behind⟩
        ⟨after, front ++ ⟨place, key, next⟩ :: behind⟩

/-- Any number of moves, of any gets in any order. -/
def Leads : Traffic → Traffic → Prop :=
  Relation.ReflTransGen Next

end Traffic

open Traffic

variable {cluster after : Cluster} {place : Place} {key : String} {got : Group.Got}

theorem Traffic.Next.head {flights : List Flight} {stage next : Stage}
    (moves : Moves (⟨place, key, stage⟩ :: flights) place key cluster stage after next) :
    Next ⟨cluster, ⟨place, key, stage⟩ :: flights⟩ ⟨after, ⟨place, key, next⟩ :: flights⟩ :=
  show Next ⟨cluster, [] ++ _⟩ ⟨after, [] ++ _⟩ from .move moves

theorem load_leads (done : cluster.load place key = some (got, after))
    (front behind : List Flight) :
    Leads ⟨cluster, front ++ ⟨place, key, .unanswered⟩ :: behind⟩
      ⟨after, front ++ ⟨place, key, .done got⟩ :: behind⟩ := by
  obtain ⟨group, known, rfl, rfl⟩ := load_eq_some done
  have called : ((group.load key).1).isOk = (group.loader key).isOk := by
    rw [Group.load]
    cases group.loader key <;> rfl
  rw [called]
  exact .tail (.single (.move (.load known))) (.move (.keep known))

/-- Asking is a run of moves: of the get that asks, and of gets that it brings about. -/
def Interleaves (ask : Ask) : Prop :=
  ∀ ⦃cluster after : Cluster⦄ ⦃place : Place⦄ ⦃fetcher : Fetcher⦄ ⦃key : String⦄
    ⦃fetched : Fetched⦄, ask cluster fetcher place.group key = some (fetched, after) →
    ∀ flights, ∃ nested, Leads ⟨cluster, ⟨place, key, .asking (.peer fetcher)⟩ :: flights⟩
      ⟨after.updateGroup place (·.finishFetch fetched),
        nested ++ ⟨place, key, .ofFetched fetched⟩ :: flights⟩

variable {ask : Ask}

theorem consult_leads (asking : Interleaves ask) {source : Source} {fetched : Fetched}
    (done : cluster.consult ask place source key = some (fetched, after))
    (flights : List Flight) : ∃ nested, Leads
      ⟨cluster.record (.asked place source key), ⟨place, key, .asking source⟩ :: flights⟩
      ⟨after.updateGroup place (·.finishFetch fetched),
        nested ++ ⟨place, key, .ofFetched fetched⟩ :: flights⟩ := by
  cases source with
  | peer fetcher => exact asking done flights
  | standIn standIn =>
    obtain ⟨given, rfl⟩ := Prod.mk.inj (Option.some.inj done)
    exact ⟨[], .single (.head (.standIn given))⟩

theorem finish_leads (asking : Interleaves ask)
    (done : cluster.finish ask place key = some (got, after)) (flights : List Flight) :
    ∃ nested, Leads ⟨cluster, ⟨place, key, .started .missing⟩ :: flights⟩
      ⟨after, nested ++ ⟨place, key, .done got⟩ :: flights⟩ := by
  obtain ⟨node, group, hosted, known, ⟨picked, loaded⟩ |
    ⟨source, fetched, asked, picked, consulted, ended⟩⟩ := finish_eq_some done
  · exact ⟨[], .trans (.single (.head (.alone hosted known picked))) (load_leads loaded [] flights)⟩
  obtain ⟨nested, told⟩ := consult_leads asking consulted flights
  refine ⟨nested, .trans (.head (.head (.ask hosted known picked)) told) ?_⟩
  rcases ended with ⟨value, rfl, rfl, rfl⟩ | ⟨error, rfl, loaded⟩
  · exact .refl
  · exact load_leads loaded nested flights

theorem proceed_leads (asking : Interleaves ask) {started : Group.Started}
    (done : cluster.proceed ask place key started = some (got, after)) (flights : List Flight) :
    ∃ nested, Leads ⟨cluster, ⟨place, key, .started started⟩ :: flights⟩
      ⟨after, nested ++ ⟨place, key, .done got⟩ :: flights⟩ := by
  cases started with
  | refused =>
    obtain ⟨rfl, rfl⟩ := Prod.mk.inj (Option.some.inj done)
    exact ⟨[], .single (.head .refuse)⟩
  | found value =>
    obtain ⟨rfl, rfl⟩ := Prod.mk.inj (Option.some.inj done)
    exact ⟨[], .single (.head .find)⟩
  | missing => exact finish_leads asking done flights

theorem getVia_leads (asking : Interleaves ask)
    (done : cluster.getVia ask place key = some (got, after)) (flights : List Flight) :
    ∃ nested, Leads ⟨cluster, flights⟩ ⟨after, nested ++ ⟨place, key, .done got⟩ :: flights⟩ := by
  obtain ⟨started, before, begun, done⟩ := getVia_eq_some done
  obtain ⟨nested, ended⟩ := proceed_leads asking done flights
  exact ⟨nested, .head (.start begun) ended⟩

/-- However many hops a request may take, all that happens until it is answered is a run of
moves: the peer that is asked does a get that has one hop less. -/
theorem fetchWithin_interleaves (hops : Nat) : Interleaves (fetchWithin hops) := by
  induction hops with
  | zero =>
    intro cluster after place fetcher key fetched done
    nomatch done
  | succ hops ih =>
    intro cluster after place fetcher key fetched done flights
    rcases fetchWithin_eq_some done with
      ⟨routed, rfl⟩ | ⟨node, path, served, routed, answered, told⟩
    · exact ⟨[], .single (.head (.stop routed))⟩
    rcases serveVia_eq_some answered with
      ⟨rfl, error, rfl⟩ | ⟨server, group, sought, got, hosted, parsed, gets, rfl⟩
    · cases fetched with
      | ok value => nomatch Fetched.eq_ok_of_ofServed told.symm
      | error error => exact ⟨[], .single (.head (.lost error))⟩
    · obtain ⟨nested, ended⟩ :=
        getVia_leads ih gets (⟨place, key, .served ⟨node, group⟩ sought⟩ :: flights)
      refine ⟨nested ++ [⟨⟨node, group⟩, sought, .done got⟩],
        .head (.head (.arrive routed hosted parsed)) (ended.tail ?_)⟩
      rw [List.append_cons]
      exact .move (.reply (by simp) told)

end ReadThrough.Cluster
