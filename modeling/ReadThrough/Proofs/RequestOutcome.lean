import Mathlib
import ReadThrough.Proofs.KeyRoundTrip
import ReadThrough.Proofs.PeerRequest

/-! What a node answers to a request for a path, whatever the path and the state of the cluster.
There are four kinds of answers, and the status tells which one it is: the path does not read,
it asks for a group that the node does not have, or a get of the group failed or gave a value.
The first two touch nothing, on no node. -/

namespace ReadThrough.Cluster

variable {ask : Ask} {cluster after : Cluster} {node : Nat} {server : Node} {path : String}

/-- A path asks a node for a key of a group that the node has. -/
structure Asks (server : Node) (path group key : String) : Prop where
  read : PeerPath.parse server.pool.basePath path = .ok (group, key)
  known : (server.groups.get? group).isSome = true

/-- The response to a request and the cluster after it. -/
inductive Handled (ask : Ask) (cluster : Cluster) (node : Nat) (server : Node) (path : String) :
    Http.Response → Cluster → Prop where
  | unread {rejection : PeerPath.Rejection}
      (rejected : PeerPath.parse server.pool.basePath path = .error rejection) :
      Handled ask cluster node server path (.ofText 400 rejection.message) cluster
  | unknown {group key : String}
      (read : PeerPath.parse server.pool.basePath path = .ok (group, key))
      (absent : server.groups.get? group = none) :
      Handled ask cluster node server path (.ofText 404 ("no such group: " ++ group)) cluster
  | failed {group key : String} {error : Group.Error} {after : Cluster}
      (asks : Asks server path group key)
      (got : cluster.getVia ask ⟨node, group⟩ key = some (.error error, after)) :
      Handled ask cluster node server path (.ofText 500 error.message) after
  | answered {group key : String} {value : Payload} {after : Cluster}
      (asks : Asks server path group key)
      (got : cluster.getVia ask ⟨node, group⟩ key = some (.ok value, after)) :
      Handled ask cluster node server path (.ofPayload value) after

/-- A request waits for nothing but the get that it asks for. -/
theorem serveVia_cases (hosted : cluster.nodes[node]? = some server) (ask : Ask) (path : String) :
    (∃ group key, Asks server path group key ∧ cluster.getVia ask ⟨node, group⟩ key = none ∧
      cluster.serveVia ask node path = none) ∨
    ∃ served after, cluster.serveVia ask node path = some (served, after) ∧
      Handled ask cluster node server path (.ofServed served) after := by
  simp only [serveVia, hosted, Option.bind_eq_bind, Option.bind_some]
  cases parsed : PeerPath.parse server.pool.basePath path with
  | error rejection => exact .inr ⟨_, _, rfl, .unread parsed⟩
  | ok asked =>
    obtain ⟨group, key⟩ := asked
    cases known : server.groups.get? group with
    | none => exact .inr ⟨_, _, by simp only [known]; rfl, .unknown parsed known⟩
    | some held =>
      have asks : Asks server path group key := ⟨parsed, by rw [known]; rfl⟩
      cases done : cluster.getVia ask ⟨node, group⟩ key with
      | none => exact .inl ⟨group, key, asks, done, by simp only [known, done]; rfl⟩
      | some result =>
        obtain ⟨got, after⟩ := result
        refine .inr ⟨got.mapError .lookup, after, by simp only [known, done]; rfl, ?_⟩
        cases got with
        | error error => exact .failed asks done
        | ok value => exact .answered asks done

namespace Handled

variable {response : Http.Response}

theorem status_400_iff (handled : Handled ask cluster node server path response after) :
    response.status = 400 ↔
      ∃ rejection, PeerPath.parse server.pool.basePath path = .error rejection := by
  cases handled with
  | unread rejected => exact iff_of_true rfl ⟨_, rejected⟩
  | unknown read => simp [Http.Response.ofText, read]
  | failed asks => simp [Http.Response.ofText, asks.read]
  | answered asks => simp [Http.Response.ofPayload, asks.read]

theorem status_404_iff (handled : Handled ask cluster node server path response after) :
    response.status = 404 ↔ ∃ group key,
      PeerPath.parse server.pool.basePath path = .ok (group, key) ∧
        server.groups.get? group = none := by
  cases handled with
  | unread rejected => simp [Http.Response.ofText, rejected]
  | unknown read absent => exact iff_of_true rfl ⟨_, _, read, absent⟩
  | failed asks =>
    have known := Option.isSome_iff_ne_none.mp asks.known
    simp [Http.Response.ofText, asks.read, known]
  | answered asks =>
    have known := Option.isSome_iff_ne_none.mp asks.known
    simp [Http.Response.ofPayload, asks.read, known]

/-- The get that a request asks for decides between the two other answers. -/
theorem of_asks {group key : String} (handled : Handled ask cluster node server path response after)
    (asks : Asks server path group key) : ∃ got,
      cluster.getVia ask ⟨node, group⟩ key = some (got, after) ∧
        response = .ofServed (got.mapError .lookup) := by
  have read := asks.read
  cases handled with
  | unread rejected => nomatch rejected.symm.trans read
  | unknown other absent =>
    obtain ⟨rfl, rfl⟩ := Prod.mk.inj (Except.ok.inj (other.symm.trans read))
    nomatch absent ▸ asks.known
  | failed same got =>
    obtain ⟨rfl, rfl⟩ := Prod.mk.inj (Except.ok.inj (same.read.symm.trans read))
    exact ⟨_, got, rfl⟩
  | answered same got =>
    obtain ⟨rfl, rfl⟩ := Prod.mk.inj (Except.ok.inj (same.read.symm.trans read))
    exact ⟨_, got, rfl⟩

theorem status_500_iff (handled : Handled ask cluster node server path response after) :
    response.status = 500 ↔ ∃ group key error, Asks server path group key ∧
      cluster.getVia ask ⟨node, group⟩ key = some (.error error, after) := by
  constructor
  · intro status
    cases handled with
    | unread | unknown | answered => nomatch status
    | failed asks got => exact ⟨_, _, _, asks, got⟩
  · rintro ⟨group, key, error, asks, failed⟩
    obtain ⟨got, same, rfl⟩ := handled.of_asks asks
    obtain ⟨rfl, _⟩ := Prod.mk.inj (Option.some.inj (same.symm.trans failed))
    rfl

theorem status_200_iff (handled : Handled ask cluster node server path response after) :
    response.status = 200 ↔ ∃ group key value, Asks server path group key ∧
      cluster.getVia ask ⟨node, group⟩ key = some (.ok value, after) := by
  constructor
  · intro status
    cases handled with
    | unread | unknown | failed => nomatch status
    | answered asks got => exact ⟨_, _, _, asks, got⟩
  · rintro ⟨group, key, value, asks, gave⟩
    obtain ⟨got, same, rfl⟩ := handled.of_asks asks
    obtain ⟨rfl, _⟩ := Prod.mk.inj (Option.some.inj (same.symm.trans gave))
    rfl

theorem refusal {rejection : PeerPath.Rejection}
    (handled : Handled ask cluster node server path response after)
    (rejected : PeerPath.parse server.pool.basePath path = .error rejection) :
    response = .ofText 400 rejection.message := by
  cases handled with
  | unread other => rw [Except.error.inj (rejected.symm.trans other)]
  | unknown read => nomatch rejected.symm.trans read
  | failed asks | answered asks => nomatch rejected.symm.trans asks.read

theorem status_cases (handled : Handled ask cluster node server path response after) :
    response.status = 400 ∨ response.status = 404 ∨ response.status = 500 ∨
      response.status = 200 := by
  cases handled <;> simp [Http.Response.ofText, Http.Response.ofPayload]

theorem unchanged (handled : Handled ask cluster node server path response after)
    (rejected : response.status = 400 ∨ response.status = 404) : after = cluster := by
  cases handled with
  | unread | unknown => rfl
  | failed | answered => simp [Http.Response.ofText, Http.Response.ofPayload] at rejected

end Handled

theorem serveVia_eq_none (hosted : cluster.nodes[node]? = some server) :
    cluster.serveVia ask node path = none ↔ ∃ group key, Asks server path group key ∧
      cluster.getVia ask ⟨node, group⟩ key = none := by
  constructor
  · intro silent
    rcases serveVia_cases hosted ask path with ⟨group, key, asks, waits, _⟩ | ⟨_, _, done, _⟩
    · exact ⟨group, key, asks, waits⟩
    · nomatch silent.symm.trans done
  · rintro ⟨group, key, asks, waits⟩
    rw [serveVia_of_parse ask hosted asks.read asks.known, waits]
    rfl

theorem handled_of_serveVia {served : Served} (hosted : cluster.nodes[node]? = some server)
    (done : cluster.serveVia ask node path = some (served, after)) :
    Handled ask cluster node server path (.ofServed served) after := by
  rcases serveVia_cases hosted ask path with ⟨_, _, _, _, silent⟩ | ⟨_, _, other, handled⟩
  · nomatch silent.symm.trans done
  · obtain ⟨rfl, rfl⟩ := Prod.mk.inj (Option.some.inj (other.symm.trans done))
    exact handled

/-- A request that comes to an end has one of four statuses, and each of them for one reason. With
500 the body is the text of the error that a get of the asked group came to, with 200 it is the
value that the get gave; the get for an empty key is one that fails. A request that is answered
with 400 or 404 leaves the whole cluster as it was, and only a get that comes to no end keeps a
request from its answer. -/
theorem request_outcome (ask : Ask) (hosted : cluster.nodes[node]? = some server) (path : String) :
    (cluster.serveVia ask node path = none ↔ ∃ group key, Asks server path group key ∧
      cluster.getVia ask ⟨node, group⟩ key = none) ∧
    ∀ served after, cluster.serveVia ask node path = some (served, after) →
      let response := Http.Response.ofServed served
      (response.status = 400 ∨ response.status = 404 ∨ response.status = 500 ∨
        response.status = 200) ∧
      (response.status = 400 ↔
        ∃ rejection, PeerPath.parse server.pool.basePath path = .error rejection) ∧
      (response.status = 404 ↔ ∃ group key,
        PeerPath.parse server.pool.basePath path = .ok (group, key) ∧
          server.groups.get? group = none) ∧
      (response.status = 500 ↔ ∃ group key error, Asks server path group key ∧
        cluster.getVia ask ⟨node, group⟩ key = some (.error error, after)) ∧
      (response.status = 200 ↔ ∃ group key value, Asks server path group key ∧
        cluster.getVia ask ⟨node, group⟩ key = some (.ok value, after)) ∧
      (∀ rejection, PeerPath.parse server.pool.basePath path = .error rejection →
        response = .ofText 400 rejection.message) ∧
      (∀ group key error, Asks server path group key →
        cluster.getVia ask ⟨node, group⟩ key = some (.error error, after) →
        response = .ofText 500 error.message) ∧
      (∀ group key value, Asks server path group key →
        cluster.getVia ask ⟨node, group⟩ key = some (.ok value, after) →
        response = .ofPayload value) ∧
      (∀ group, Asks server path group "" → response = .ofText 500 "key is required") ∧
      (response.status = 400 ∨ response.status = 404 → after = cluster) := by
  refine ⟨serveVia_eq_none hosted, fun served after done => ?_⟩
  have handled := handled_of_serveVia hosted done
  have told {group key got} (asks : Asks server path group key)
      (came : cluster.getVia ask ⟨node, group⟩ key = some (got, after)) :
      Http.Response.ofServed served = .ofServed (got.mapError .lookup) := by
    obtain ⟨_, same, told⟩ := handled.of_asks asks
    rwa [(Prod.mk.inj (Option.some.inj (came.symm.trans same))).1]
  refine ⟨handled.status_cases, handled.status_400_iff, handled.status_404_iff,
    handled.status_500_iff, handled.status_200_iff, fun _ => handled.refusal,
    fun _ _ _ => told, fun _ _ _ => told, ?_, handled.unchanged⟩
  intro group asks
  obtain ⟨_, came, told⟩ := handled.of_asks asks
  rw [told, getVia_empty came]
  rfl

/-- A request for a group that a node does not have leaves it as it was, and one for the empty
key of a group that it has fails. -/
theorem request_outcome_echo :
    (∃ served, echo.serveVia (fetchWithin 0) 0 "/_geecache/h/k" = some (served, echo) ∧
      (Http.Response.ofServed served).status = 404) ∧
    ∃ served after, echo.serveVia (fetchWithin 0) 0 "/_geecache/g/" = some (served, after) ∧
      Http.Response.ofServed served = .ofText 500 "key is required" := by
  have hosted : echo.nodes[0]? = some _ := rfl
  constructor
  · have parsed : PeerPath.parse "/_geecache/" "/_geecache/h/k" = .ok ("h", "k") := by cbv
    have done : (echo.serveVia (fetchWithin 0) 0 "/_geecache/h/k").isSome = true := by cbv
    obtain ⟨⟨served, after⟩, done⟩ := Option.isSome_iff_exists.mp done
    obtain ⟨_, _, unknown, _, _, _, _, _, _, unchanged⟩ :=
      (request_outcome (fetchWithin 0) hosted "/_geecache/h/k").2 served after done
    have status := unknown.mpr ⟨"h", "k", parsed, rfl⟩
    exact ⟨served, unchanged (.inr status) ▸ done, status⟩
  · have parsed : PeerPath.parse "/_geecache/" "/_geecache/g/" = .ok ("g", "") := by cbv
    have done : (echo.serveVia (fetchWithin 0) 0 "/_geecache/g/").isSome = true := by cbv
    obtain ⟨⟨served, after⟩, done⟩ := Option.isSome_iff_exists.mp done
    obtain ⟨_, _, _, _, _, _, _, _, empty, _⟩ :=
      (request_outcome (fetchWithin 0) hosted "/_geecache/g/").2 served after done
    exact ⟨served, after, done, empty "g" ⟨parsed, rfl⟩⟩

end ReadThrough.Cluster
