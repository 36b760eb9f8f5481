import ReadThrough.PeerPath
import ReadThrough.Ring

/-! The peers that one node knows: a ring that decides which of them owns a key, and a
fetcher for each. A node recognises itself on the ring by its own address. -/

namespace ReadThrough

/-- Asks one peer for values, waiting a limited time for each. The limit is carried along and
no function reads it, since there is no clock: a time limit that runs out is the fault `hang` of
the network, or, where gets overlap, a question that is lost. -/
structure Fetcher where
  baseUrl : String
  timeoutMs : Nat
deriving Repr, DecidableEq

/-- Without a hash function of its own a pool takes the checksum. -/
structure Pool.Options where
  basePath : String := PeerPath.defaultBase
  replicas : Nat := 50
  timeoutMs : Nat := 3000
  hash : Option HashFunction := none

structure Pool where
  selfAddress : String
  options : Pool.Options
  ring : Ring
  fetchers : List (String × Fetcher) := []

namespace Pool

def Options.emptyRing (options : Options) : Ring :=
  .empty (options.hash.getD Checksum.crc32) options.replicas

def new (selfAddress : String) (options : Options) : Pool :=
  { selfAddress, options, ring := options.emptyRing }

/-- The base path in the form that requests carry. -/
def basePath (pool : Pool) : String := PeerPath.normalizeBase pool.options.basePath

def fetcherFor (pool : Pool) (peer : String) : Fetcher :=
  { baseUrl := PeerPath.baseUrl peer pool.basePath, timeoutMs := pool.options.timeoutMs }

/-- Replaces all peers. The list is meant to hold this node's own address too. -/
def set (pool : Pool) (peers : List String) : Pool :=
  { pool with
    ring := pool.options.emptyRing.add peers
    fetchers := peers.eraseDups.map fun peer => (peer, pool.fetcherFor peer) }

/-- The addresses of the peers in ascending order. -/
def peers (pool : Pool) : List String :=
  (pool.fetchers.map (·.1)).mergeSort fun first second => first ≤ second

/-- The address that owns a key, which may be this node's own. -/
def ownerOf (pool : Pool) (key : String) : Option String := pool.ring.owner? key

/-- The fetcher for the owner of a key; `none` when the key is this node's own affair. -/
def pick (pool : Pool) (key : String) : Option Fetcher :=
  match pool.ownerOf key with
  | none => none
  | some peer => if peer = pool.selfAddress then none else pool.fetchers.lookup peer

end Pool

end ReadThrough
