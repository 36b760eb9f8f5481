import ReadThrough.Cluster.Network
import ReadThrough.Cluster.Node
import ReadThrough.Url.Path

/-! Nodes on a network. The journal tells what left the caches: every call of a loader and
every question to another node, the latest first. -/

namespace ReadThrough

/-- One group on one node. -/
structure Place where
  node : Nat
  group : String
deriving Repr, DecidableEq

inductive Event where
  | loaded (place : Place) (key : String) (succeeded : Bool)
  | asked (place : Place) (source : Source) (key : String)
deriving Repr, DecidableEq

structure Cluster where
  nodes : List Node
  network : Network := {}
  journal : List Event := []

namespace Cluster

def group? (cluster : Cluster) (place : Place) : Option Group := do
  (← cluster.nodes[place.node]?).groups.get? place.group

def updateNode (cluster : Cluster) (node : Nat) (update : Node → Node) : Cluster :=
  { cluster with nodes := cluster.nodes.modify node update }

/-- Puts a group in on a node. -/
def insertGroup (cluster : Cluster) (node : Nat) (group : Group) : Cluster :=
  cluster.updateNode node fun node => { node with groups := node.groups.insert group }

def updateGroup (cluster : Cluster) (place : Place) (update : Group → Group) : Cluster :=
  match cluster.group? place with
  | none => cluster
  | some group => cluster.insertGroup place.node (update group)

def record (cluster : Cluster) (event : Event) : Cluster :=
  { cluster with journal := event :: cluster.journal }

/-- How often the loaders of a place were called, those that were replaced included. -/
def loads (cluster : Cluster) (place : Place) : Nat :=
  cluster.journal.countP fun
    | .loaded loaded _ _ => loaded = place
    | .asked .. => false

/-- How often stand-ins were asked, anywhere. -/
def standInCalls (cluster : Cluster) : Nat :=
  cluster.journal.countP fun
    | .asked _ (.standIn _) _ => true
    | _ => false

/-- Makes a group on a node. Without a shard of its own it takes the configured one. -/
def newGroup (cluster : Cluster) (place : Place) (shard : Option Shard) (loader : Loader) :
    Cluster :=
  cluster.updateNode place.node fun node =>
    let shard := shard.getD node.config.shard
    { node with groups := node.groups.insert { name := place.group, loader, shard } }

/-- Replaces all peers that a node knows. -/
def setPeers (cluster : Cluster) (node : Nat) (peers : List String) : Cluster :=
  cluster.updateNode node fun node => { node with pool := node.pool.set peers }

/-- Where a request for a URL ends: with an outcome on the way, or at a node's path. -/
inductive Route where
  | ended (fetched : Fetched)
  | toNode (node : Nat) (path : String)

/-- The way to an endpoint. Places with a fault come before nodes. -/
def routeTo (cluster : Cluster) (endpoint : Endpoint) (path : String) : Route :=
  match cluster.network.faults.lookup endpoint with
  | some fault => .ended fault.fetched
  | none =>
    match cluster.nodes.findIdx? fun node => node.endpoint? = some endpoint with
    | some node => .toNode node path
    | none => .ended (.error (.request false))

/-- The way of a request. Only absolute URLs with the scheme `http` lead anywhere. -/
def route (cluster : Cluster) (url : String) : Route :=
  match cluster.network.link, Url.parse url with
  | .up, .ok url =>
    match url.scheme, Endpoint.ofUrl? url with
    | "http", some endpoint => cluster.routeTo endpoint url.requestPath
    | _, _ => .ended (.error (.request false))
  | _, _ => .ended (.error (.request false))

end Cluster

end ReadThrough
