import ReadThrough.Cache.Basic
import ReadThrough.Payload

/-! A cache of payloads that is built when the first value arrives, so an idle shard holds
nothing but its limits. It counts the entries its cache dropped. -/

namespace ReadThrough

structure Shard where
  cacheBytes : Nat
  historyBytes : Nat
  threshold : Nat
  cache : Option (Cache Payload) := none
  evictions : Nat := 0

structure Shard.Stats where
  entries : Nat := 0
  bytes : Nat := 0
  historyEntries : Nat := 0
  historyBytes : Nat := 0
  evictions : Nat := 0
deriving Repr, DecidableEq

namespace Shard

/-- A shard that admits every key at once; its history shares the main budget. -/
def lru (cacheBytes : Nat) : Shard :=
  { cacheBytes, historyBytes := cacheBytes, threshold := 1 }

/-- The cache as it stands, or the one that the first value will find. -/
def cacheOrNew (shard : Shard) : Cache Payload :=
  shard.cache.getD (Cache.new shard.cacheBytes shard.historyBytes shard.threshold)

/-- Takes over a cache after an operation and counts what it dropped. -/
def keep (shard : Shard) (dropped : Cache.Evicted Payload) (cache : Cache Payload) : Shard :=
  { shard with cache := some cache, evictions := shard.evictions + dropped.length }

/-- A cache that grew from an empty one meets no fault, so the last case never arises. -/
def add (shard : Shard) (key : String) (value : Payload) : Shard :=
  match shard.cacheOrNew.add key value with
  | .ok (dropped, cache) => shard.keep dropped cache
  | .error _ => shard

/-- Before the first value there is nothing to find. -/
def get (shard : Shard) (key : String) : Option Payload × Shard :=
  match shard.cache with
  | none => (none, shard)
  | some cache =>
    match cache.get key with
    | .ok (value, dropped, cache) => (value, shard.keep dropped cache)
    | .error _ => (none, shard)

def isInitialized (shard : Shard) : Bool := shard.cache.isSome

def stats (shard : Shard) : Stats :=
  match shard.cache with
  | none => { evictions := shard.evictions }
  | some cache => {
      entries := cache.size
      bytes := cache.bytes
      historyEntries := cache.historySize
      historyBytes := cache.historyBytes
      evictions := shard.evictions }

end Shard

end ReadThrough
