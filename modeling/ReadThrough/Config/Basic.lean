import ReadThrough.Pool
import ReadThrough.Shard

/-! The configuration of one node. Every setting has a default. -/

namespace ReadThrough

/-- Budgets are bytes. A history budget of zero means the same budget as the cache. -/
structure Config where
  addr : String := "http://127.0.0.1:8001"
  peers : List String := []
  basePath : String := PeerPath.defaultBase
  replicas : Nat := 50
  fetchTimeoutMs : Nat := 3000
  cacheBytes : Nat := 64 * 1024 * 1024
  historyBytes : Nat := 0
  admissionK : Nat := 1
deriving Repr, DecidableEq

namespace Config

def poolOptions (config : Config) : Pool.Options where
  basePath := config.basePath
  replicas := config.replicas
  timeoutMs := config.fetchTimeoutMs

/-- An empty shard of the configured size. -/
def shard (config : Config) : Shard where
  cacheBytes := config.cacheBytes
  historyBytes := if config.historyBytes = 0 then config.cacheBytes else config.historyBytes
  threshold := config.admissionK

/-- The peers, with this node behind them if it is not among them. -/
def peerSet (config : Config) : List String :=
  if config.addr ∈ config.peers then config.peers else config.peers ++ [config.addr]

end Config

end ReadThrough
