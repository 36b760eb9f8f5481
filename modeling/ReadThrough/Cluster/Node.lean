import ReadThrough.Config.Basic
import ReadThrough.Group.Registry
import ReadThrough.Url.Endpoint

/-! A node of a cluster: its configuration, the peers it knows and its groups. -/

namespace ReadThrough

structure Node where
  config : Config := {}
  pool : Pool
  groups : Registry := {}

/-- Whom a group asks for a key that its own shard does not hold. -/
inductive Source where
  | peer (fetcher : Fetcher)
  | standIn (standIn : StandIn)
deriving Repr, DecidableEq

namespace Node

/-- A node that knows no peers yet. -/
def ofConfig (config : Config) : Node :=
  { config, pool := .new config.addr config.poolOptions }

/-- Where the node is reached, if its address says so. -/
def endpoint? (node : Node) : Option Endpoint :=
  (Endpoint.ofAddress node.pool.selfAddress).toOption

/-- Whom a group of this node asks for a key; `none` when it is for its own loader. -/
def source? (node : Node) (group : Group) (key : String) : Option Source :=
  match group.picker with
  | none => none
  | some .pool => (node.pool.pick key).map .peer
  | some (.standIn standIn) =>
    if standIn.start.toList.isPrefixOf key.toList then some (.standIn standIn) else none

end Node

end ReadThrough
