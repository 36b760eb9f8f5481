import ReadThrough.Cluster.Step
import Mathlib.Data.List.Basic

/-! What it takes for each function of a cluster to come to an end, one lemma for each. Results
about gets and requests are derived from these, so none of them opens a function again. -/

namespace ReadThrough

theorem Fetched.eq_ok_of_ofServed {served : Served} {value : Payload}
    (fetched : ofResponse (.ofServed served) = .ok value) : served = .ok value := by
  cases served with
  | ok found => exact congrArg Except.ok (Except.ok.inj fetched)
  | error error => cases error <;> nomatch fetched

theorem Fetched.eq_ok_of_got {got : Group.Got} {value : Payload}
    (fetched : ofResponse (.ofServed (got.mapError .lookup)) = .ok value) : got = .ok value := by
  have served := eq_ok_of_ofServed fetched
  cases got with
  | ok found => exact congrArg Except.ok (Except.ok.inj served)
  | error error => nomatch served

namespace Cluster

variable {cluster after : Cluster} {place : Place} {key : String} {ask : Ask}

theorem start_eq_some {started : Group.Started}
    (done : cluster.start place key = some (started, after)) :
    ∃ group, cluster.group? place = some group ∧ started = (group.start key).1 ∧
      after = cluster.insertGroup place.node (group.start key).2 := by
  simp only [start, Option.bind_eq_bind, Option.bind_eq_some_iff] at done
  obtain ⟨group, known, done⟩ := done
  obtain ⟨rfl, rfl⟩ := Prod.mk.inj (Option.some.inj done)
  exact ⟨group, known, rfl, rfl⟩

theorem start_of_group {group : Group} (known : cluster.group? place = some group)
    (key : String) : cluster.start place key =
      some ((group.start key).1, cluster.insertGroup place.node (group.start key).2) := by
  rw [start, known]
  rfl

theorem load_eq_some {got : Group.Got} (done : cluster.load place key = some (got, after)) :
    ∃ group, cluster.group? place = some group ∧ got = (group.load key).1 ∧
      after = (cluster.record (.loaded place key got.isOk)).insertGroup place.node
        (group.load key).2 := by
  simp only [load, Option.bind_eq_bind, Option.bind_eq_some_iff] at done
  obtain ⟨group, known, done⟩ := done
  obtain ⟨rfl, rfl⟩ := Prod.mk.inj (Option.some.inj done)
  exact ⟨group, known, rfl, rfl⟩

theorem load_of_group {group : Group} (known : cluster.group? place = some group) (key : String) :
    cluster.load place key = some ((group.load key).1,
      (cluster.record (.loaded place key (group.load key).1.isOk)).insertGroup place.node
        (group.load key).2) := by
  rw [load, known]
  rfl

theorem getVia_eq_some {got : Group.Got}
    (done : cluster.getVia ask place key = some (got, after)) :
    ∃ started before, cluster.start place key = some (started, before) ∧
      before.proceed ask place key started = some (got, after) := by
  simp only [getVia, Option.bind_eq_bind, Option.bind_eq_some_iff] at done
  obtain ⟨⟨started, before⟩, begun, done⟩ := done
  exact ⟨started, before, begun, done⟩

/-- A get that finds nothing ends with a value that was asked for, or with the loader if there
is nobody to ask or the question failed. -/
theorem finish_eq_some {got : Group.Got} (done : cluster.finish ask place key = some (got, after)) :
    ∃ node group, cluster.nodes[place.node]? = some node ∧ cluster.group? place = some group ∧
      ((node.source? group key = none ∧ cluster.load place key = some (got, after)) ∨
      ∃ source fetched asked, node.source? group key = some source ∧
        cluster.consult ask place source key = some (fetched, asked) ∧
        ((∃ value, fetched = .ok value ∧ got = .ok value ∧
            after = asked.updateGroup place (·.finishFetch fetched)) ∨
          ∃ error, fetched = .error error ∧
            (asked.updateGroup place (·.finishFetch fetched)).load place key =
              some (got, after))) := by
  simp only [finish, Option.bind_eq_bind, Option.bind_eq_some_iff] at done
  obtain ⟨node, hosted, group, known, done⟩ := done
  refine ⟨node, group, hosted, known, ?_⟩
  cases picked : node.source? group key with
  | none =>
    rw [picked] at done
    exact .inl ⟨rfl, done⟩
  | some source =>
    rw [picked] at done
    obtain ⟨⟨fetched, asked⟩, consulted, done⟩ := Option.bind_eq_some_iff.mp done
    refine .inr ⟨source, fetched, asked, rfl, consulted, ?_⟩
    cases fetched with
    | ok value =>
      obtain ⟨rfl, rfl⟩ := Prod.mk.inj (Option.some.inj done)
      exact .inl ⟨value, rfl, rfl, rfl⟩
    | error error => exact .inr ⟨error, rfl, done⟩

theorem finish_of_alone {node : Node} {group : Group}
    (hosted : cluster.nodes[place.node]? = some node) (known : cluster.group? place = some group)
    (picked : node.source? group key = none) :
    cluster.finish ask place key = cluster.load place key := by
  simp only [finish, hosted, known, picked, Option.bind_eq_bind, Option.bind_some]

theorem finish_of_consult {node : Node} {group : Group} {source : Source} {fetched : Fetched}
    {asked : Cluster} (hosted : cluster.nodes[place.node]? = some node)
    (known : cluster.group? place = some group) (picked : node.source? group key = some source)
    (consulted : cluster.consult ask place source key = some (fetched, asked)) :
    cluster.finish ask place key = match fetched with
      | .ok value => some (.ok value, asked.updateGroup place (·.finishFetch fetched))
      | .error _ => (asked.updateGroup place (·.finishFetch fetched)).load place key := by
  simp only [finish, hosted, known, picked, consulted, Option.bind_eq_bind, Option.bind_some]
  cases fetched with
  | ok value => rfl
  | error error => rfl

theorem journal_updateGroup (cluster : Cluster) (place : Place) (update : Group → Group) :
    (cluster.updateGroup place update).journal = cluster.journal := by
  unfold updateGroup
  split <;> rfl

/-- A node answers with an error of its own, or with what a get came to for the group and the
key of the path. -/
theorem serveVia_eq_some {node : Nat} {path : String} {served : Served}
    (done : cluster.serveVia ask node path = some (served, after)) :
    (after = cluster ∧ ∃ error, served = .error error) ∨
    ∃ server group key got, cluster.nodes[node]? = some server ∧
      PeerPath.parse server.pool.basePath path = .ok (group, key) ∧
      cluster.getVia ask ⟨node, group⟩ key = some (got, after) ∧
      served = got.mapError .lookup := by
  simp only [serveVia, Option.bind_eq_bind, Option.bind_eq_some_iff] at done
  obtain ⟨server, found, done⟩ := done
  cases parsed : PeerPath.parse server.pool.basePath path with
  | error rejection =>
    rw [parsed] at done
    obtain ⟨rfl, rfl⟩ := Prod.mk.inj (Option.some.inj done)
    exact .inl ⟨rfl, _, rfl⟩
  | ok asked =>
    simp only [parsed] at done
    cases known : server.groups.get? asked.1 with
    | none =>
      rw [known] at done
      obtain ⟨rfl, rfl⟩ := Prod.mk.inj (Option.some.inj done)
      exact .inl ⟨rfl, _, rfl⟩
    | some _ =>
      rw [known] at done
      obtain ⟨⟨got, later⟩, answered, done⟩ := Option.bind_eq_some_iff.mp done
      obtain ⟨rfl, rfl⟩ := Prod.mk.inj (Option.some.inj done)
      exact .inr ⟨server, asked.1, asked.2, got, found, parsed, answered, rfl⟩

/-- A request ends on the way or is answered by the node that it reaches. -/
theorem fetchWithin_eq_some {hops : Nat} {fetcher : Fetcher} {group : String} {fetched : Fetched}
    (done : fetchWithin (hops + 1) cluster fetcher group key = some (fetched, after)) :
    (cluster.route (PeerPath.fetchUrl fetcher.baseUrl group key) = .ended fetched ∧
      after = cluster) ∨
    ∃ node path served,
      cluster.route (PeerPath.fetchUrl fetcher.baseUrl group key) = .toNode node path ∧
      cluster.serveVia (fetchWithin hops) node path = some (served, after) ∧
      fetched = .ofResponse (.ofServed served) := by
  rw [fetchWithin] at done
  cases routed : cluster.route (PeerPath.fetchUrl fetcher.baseUrl group key) with
  | ended outcome =>
    rw [routed] at done
    obtain ⟨rfl, rfl⟩ := Prod.mk.inj (Option.some.inj done)
    exact .inl ⟨rfl, rfl⟩
  | toNode node path =>
    rw [routed] at done
    obtain ⟨⟨served, later⟩, answered, done⟩ := Option.bind_eq_some_iff.mp done
    obtain ⟨rfl, rfl⟩ := Prod.mk.inj (Option.some.inj done)
    exact .inr ⟨node, path, served, rfl, answered, rfl⟩

end Cluster

end ReadThrough
