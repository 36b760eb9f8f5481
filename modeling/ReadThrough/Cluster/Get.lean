import ReadThrough.Cluster.Basic

/-! Gets in a cluster. A node that asks a peer waits while that node does a get of its own,
which may ask further nodes. Whether an answer ever comes depends on how the nodes know each
other: a request may circle. So asking is bounded by a number of hops, and each function
here gives `none` when no answer comes within them. -/

namespace ReadThrough.Cluster

/-- Asks a peer for a key of a group. -/
abbrev Ask := Cluster → Fetcher → (group key : String) → Option (Fetched × Cluster)

/-- Calls the loader of a place and keeps what it gives. -/
def load (cluster : Cluster) (place : Place) (key : String) : Option (Group.Got × Cluster) := do
  let group ← cluster.group? place
  let (got, group) := group.load key
  return (got, (cluster.record (.loaded place key got.isOk)).insertGroup place.node group)

/-- Asks another for a key. -/
def consult (ask : Ask) (cluster : Cluster) (place : Place) (source : Source) (key : String) :
    Option (Fetched × Cluster) :=
  let cluster := cluster.record (.asked place source key)
  match source with
  | .peer fetcher => ask cluster fetcher place.group key
  | .standIn standIn => some (standIn.answer place.group key, cluster)

/-- What a get does for a key that the shard does not hold: it asks, and loads if there is
nobody to ask or the answer fails. -/
def finish (ask : Ask) (cluster : Cluster) (place : Place) (key : String) :
    Option (Group.Got × Cluster) := do
  let node ← cluster.nodes[place.node]?
  let group ← cluster.group? place
  match node.source? group key with
  | none => cluster.load place key
  | some source =>
    let (fetched, cluster) ← cluster.consult ask place source key
    let cluster := cluster.updateGroup place (·.finishFetch fetched)
    match fetched with
    | .ok value => return (.ok value, cluster)
    | .error _ => cluster.load place key

/-- The first step of a get. -/
def start (cluster : Cluster) (place : Place) (key : String) :
    Option (Group.Started × Cluster) := do
  let group ← cluster.group? place
  let (started, group) := group.start key
  return (started, cluster.insertGroup place.node group)

/-- The rest of a get. -/
def proceed (ask : Ask) (cluster : Cluster) (place : Place) (key : String) :
    Group.Started → Option (Group.Got × Cluster)
  | .refused => some (.error .keyRequired, cluster)
  | .found value => some (.ok value, cluster)
  | .missing => cluster.finish ask place key

def getVia (ask : Ask) (cluster : Cluster) (place : Place) (key : String) :
    Option (Group.Got × Cluster) := do
  let (started, cluster) ← cluster.start place key
  cluster.proceed ask place key started

/-- What a node answers to a request of a peer for a path. -/
def serveVia (ask : Ask) (cluster : Cluster) (node : Nat) (path : String) :
    Option (Served × Cluster) := do
  let served ← cluster.nodes[node]?
  match PeerPath.parse served.pool.basePath path with
  | .error rejection => return (.error (.badPath rejection), cluster)
  | .ok (group, key) =>
    match served.groups.get? group with
    | none => return (.error (.noSuchGroup group), cluster)
    | some _ =>
      let (got, cluster) ← cluster.getVia ask { node, group } key
      return (got.mapError .lookup, cluster)

/-- The request of a peer over the network, within a number of hops. -/
def fetchWithin : (hops : Nat) → Ask
  | 0, _, _, _, _ => none
  | hops + 1, cluster, fetcher, group, key =>
    match cluster.route (PeerPath.fetchUrl fetcher.baseUrl group key) with
    | .ended fetched => some (fetched, cluster)
    | .toNode node path => do
      let (served, cluster) ← cluster.serveVia (fetchWithin hops) node path
      return (.ofResponse (.ofServed served), cluster)

/-- Asking with one hop more than there are nodes. A request that passes more nodes than
that has met one of them twice, for the same key. -/
def ask (cluster : Cluster) : Ask := fetchWithin (cluster.nodes.length + 1)

def fetch (cluster : Cluster) (fetcher : Fetcher) (group key : String) :
    Option (Fetched × Cluster) :=
  cluster.ask cluster fetcher group key

def get (cluster : Cluster) (place : Place) (key : String) : Option (Group.Got × Cluster) :=
  cluster.getVia cluster.ask place key

def serve (cluster : Cluster) (node : Nat) (path : String) : Option (Served × Cluster) :=
  cluster.serveVia cluster.ask node path

/-- The first steps of gets that overlap, in order. -/
def startAll (place : Place) : Cluster → List String → Option (List Group.Started × Cluster)
  | cluster, [] => some ([], cluster)
  | cluster, key :: keys => do
    let (started, cluster) ← cluster.start place key
    let (rest, cluster) ← startAll place cluster keys
    return (started :: rest, cluster)

/-- The rest of gets that overlap, in order. -/
def proceedAll (ask : Ask) (place : Place) :
    Cluster → List (String × Group.Started) → Option (List Group.Got × Cluster)
  | cluster, [] => some ([], cluster)
  | cluster, (key, started) :: rest => do
    let (got, cluster) ← cluster.proceed ask place key started
    let (others, cluster) ← proceedAll ask place cluster rest
    return (got :: others, cluster)

/-- Gets that overlap: all of them look into the shard before the first loader finishes. -/
def getAll (cluster : Cluster) (place : Place) (keys : List String) :
    Option (List Group.Got × Cluster) := do
  let (started, cluster) ← startAll place cluster keys
  proceedAll cluster.ask place cluster (keys.zip started)

end ReadThrough.Cluster
