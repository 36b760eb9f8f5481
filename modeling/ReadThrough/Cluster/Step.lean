import ReadThrough.Cluster.Get

/-! What can be asked of a cluster from outside, one step at a time. -/

namespace ReadThrough.Cluster

inductive Step where
  | newGroup (place : Place) (shard : Option Shard) (loader : Loader)
  | setPeers (node : Nat) (peers : List String)
  | register (place : Place) (picker : Picker)
  | get (place : Place) (key : String)
  | getAll (place : Place) (keys : List String)
  | serve (node : Nat) (path : String)
  | fetch (fetcher : Fetcher) (group key : String)

inductive Answer where
  | done
  | noGroup
  | refused (error : Group.RegisterError)
  | got (got : Group.Got)
  | gotAll (all : List Group.Got)
  | served (served : Served)
  | fetched (fetched : Fetched)

/-- Gives a group its picker. -/
def register (cluster : Cluster) (place : Place) (picker : Picker) : Answer × Cluster :=
  match cluster.group? place with
  | none => (.noGroup, cluster)
  | some group =>
    match group.register picker with
    | .ok group => (.done, cluster.insertGroup place.node group)
    | .error error => (.refused error, cluster)

/-- The answer to a step and the cluster after it; `none` when no answer comes. -/
def apply (cluster : Cluster) : Step → Option (Answer × Cluster)
  | .newGroup place shard loader => some (.done, cluster.newGroup place shard loader)
  | .setPeers node peers => some (.done, cluster.setPeers node peers)
  | .register place picker => some (cluster.register place picker)
  | .get place key => do
    if (cluster.group? place).isNone then return (.noGroup, cluster)
    let (got, cluster) ← cluster.get place key
    return (.got got, cluster)
  | .getAll place keys => do
    if (cluster.group? place).isNone then return (.noGroup, cluster)
    let (all, cluster) ← cluster.getAll place keys
    return (.gotAll all, cluster)
  | .serve node path => do
    let (served, cluster) ← cluster.serve node path
    return (.served served, cluster)
  | .fetch fetcher group key => do
    let (fetched, cluster) ← cluster.fetch fetcher group key
    return (.fetched fetched, cluster)

/-- The answers to steps and the cluster after them. -/
def run : Cluster → List Step → Option (List Answer × Cluster)
  | cluster, [] => some ([], cluster)
  | cluster, step :: steps => do
    let (answer, cluster) ← cluster.apply step
    let (answers, cluster) ← run cluster steps
    return (answer :: answers, cluster)

end ReadThrough.Cluster
