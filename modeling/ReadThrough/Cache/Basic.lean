import ReadThrough.Cache.Queue

/-! A cache of two byte-budgeted queues over one key space. New keys wait at the back of
the history; a key observed `threshold` times while it waits moves to the front of the
main queue. History drops its oldest entry first, main its least recently used one.
Every operation reports the entries it dropped, in order. -/

namespace ReadThrough

/-- `hits` counts the observations of the keys that wait in the history. -/
structure Cache (α : Type) where
  main : Cache.Queue α
  history : Cache.Queue α
  hits : Std.HashMap String Nat := {}
  threshold : Nat

namespace Cache

variable {α : Type}

/-- Entries dropped for room by one operation, in order. -/
abbrev Evicted (α : Type) := List (String × α)

/-- A key on probation with its value and its observations so far. -/
structure Waiting (α : Type) where
  key : String
  value : α
  hits : Nat
deriving Repr, DecidableEq

/-- An empty cache. A threshold of zero counts as one, a budget of zero as no bound. -/
def new (maxBytes historyMaxBytes threshold : Nat) : Cache α where
  main := { maxBytes }
  history := { maxBytes := historyMaxBytes }
  threshold := max threshold 1

def size (cache : Cache α) : Nat := cache.main.entries.size

def isEmpty (cache : Cache α) : Bool := cache.size == 0

def historySize (cache : Cache α) : Nat := cache.history.entries.size

def bytes (cache : Cache α) : Nat := cache.main.usedBytes

def historyBytes (cache : Cache α) : Nat := cache.history.usedBytes

/-- Keys of the main queue, most recently used first. -/
def keys (cache : Cache α) : List String := cache.main.entries.keys

/-- Keys on probation, oldest first. -/
def historyKeys (cache : Cache α) : List String := cache.history.entries.keys

/-- Observations of a key on probation. -/
def historyHits (cache : Cache α) (key : String) : Option Nat := cache.hits[key]?

/-- The main queue, most recently used first. -/
def mainEntries (cache : Cache α) : List (String × α) := cache.main.entries.contents

/-- The history, oldest first. -/
def historyEntries (cache : Cache α) : List (Waiting α) :=
  cache.history.entries.contents.map fun (key, value) =>
    { key, value, hits := cache.hits.getD key 0 }

variable [ByteSized α]

def contains (cache : Cache α) (key : String) : Bool := cache.main.contains key

def inHistory (cache : Cache α) (key : String) : Bool := cache.history.contains key

/-- Counts one observation of a key. -/
def observe (cache : Cache α) (key : String) : Cache α :=
  { cache with hits := cache.hits.insert key (cache.hits.getD key 0 + 1) }

/-- Drops the least recently used entry of the main queue, if there is one. -/
def removeOldest (cache : Cache α) : Except Fault (Evicted α × Cache α) :=
  match cache.main.entries.tail with
  | none => .ok ([], cache)
  | some slot => do
    let (entry, main) ← cache.main.remove slot
    return ([entry], { cache with main })

/-- Drops the oldest entry of the history and its counter, if there is one. -/
def removeHistoryOldest (cache : Cache α) : Except Fault (Evicted α × Cache α) :=
  match cache.history.entries.head with
  | none => .ok ([], cache)
  | some slot => do
    let (entry, history) ← cache.history.remove slot
    return ([entry], { cache with history, hits := cache.hits.erase entry.1 })

/-- Drops main entries while the main queue is over its budget, at most `steps` of them. -/
def trimMain : (steps : Nat) → Cache α → Except Fault (Evicted α × Cache α)
  | 0, cache => .ok ([], cache)
  | steps + 1, cache =>
    if cache.main.overBudget then do
      let (dropped, cache) ← cache.removeOldest
      let (rest, cache) ← trimMain steps cache
      return (dropped ++ rest, cache)
    else .ok ([], cache)

/-- Drops history entries while the history is over its budget, at most `steps` of them. -/
def trimHistory : (steps : Nat) → Cache α → Except Fault (Evicted α × Cache α)
  | 0, cache => .ok ([], cache)
  | steps + 1, cache =>
    if cache.history.overBudget then do
      let (dropped, cache) ← cache.removeHistoryOldest
      let (rest, cache) ← trimHistory steps cache
      return (dropped ++ rest, cache)
    else .ok ([], cache)

/-- Brings the main queue back within its budget; an empty queue drops nothing, so as many
steps as entries are enough. -/
def evictMainOverflow (cache : Cache α) : Except Fault (Evicted α × Cache α) :=
  cache.trimMain cache.size

def evictHistoryOverflow (cache : Cache α) : Except Fault (Evicted α × Cache α) :=
  cache.trimHistory cache.historySize

/-- Moves a waiting entry with its value to the front of the main queue. The move itself
drops nothing; the main queue may overflow by it. -/
def promote (cache : Cache α) (slot : Nat) : Except Fault (Evicted α × Cache α) := do
  let ((key, value), history) ← cache.history.remove slot
  let moved := { cache with
    history, hits := cache.hits.erase key, main := cache.main.pushFront key value }
  moved.evictMainOverflow

/-- Looks a key up. A main entry becomes the most recently used one. A waiting entry is
observed: it is promoted at the threshold and otherwise moves to the back. -/
def get (cache : Cache α) (key : String) : Except Fault (Option α × Evicted α × Cache α) :=
  match cache.main.slot? key with
  | some slot => do
    let main ← cache.main.moveToFront slot
    let value ← main.value slot
    return (some value, [], { cache with main })
  | none =>
    match cache.history.slot? key with
    | none => .ok (none, [], cache)
    | some slot => do
      let cache := cache.observe key
      let value ← cache.history.value slot
      if cache.threshold ≤ cache.hits.getD key 0 then
        let (dropped, cache) ← cache.promote slot
        return (some value, dropped, cache)
      else
        let history ← cache.history.moveToBack slot
        return (some value, [], { cache with history })

/-- Puts a key that is not in the main queue at the back of the history and observes it. -/
def enterHistory (cache : Cache α) (key : String) (value : α) : Except Fault (Cache α) :=
  match cache.history.slot? key with
  | some slot => do
    let history ← cache.history.replace slot value
    let history ← history.moveToBack slot
    return { cache with history }.observe key
  | none => .ok { cache with
      history := cache.history.pushBack key value, hits := cache.hits.insert key 1 }

/-- Promotes a key that is still waiting and has reached the threshold. -/
def promoteReady (cache : Cache α) (key : String) : Except Fault (Evicted α × Cache α) :=
  match cache.history.slot? key with
  | some slot =>
    if cache.threshold ≤ cache.hits.getD key 0 then cache.promote slot else .ok ([], cache)
  | none => .ok ([], cache)

/-- Stores a value. The entry itself may be among those dropped. -/
def add (cache : Cache α) (key : String) (value : α) : Except Fault (Evicted α × Cache α) :=
  match cache.main.slot? key with
  | some slot => do
    let main ← cache.main.replace slot value
    let main ← main.moveToFront slot
    { cache with main }.evictMainOverflow
  | none => do
    let cache ← cache.enterHistory key value
    let (dropped, cache) ← cache.evictHistoryOverflow
    let (overflow, cache) ← cache.promoteReady key
    return (dropped ++ overflow, cache)

/-- One call on a cache. -/
inductive Operation (α : Type) where
  | add (key : String) (value : α)
  | get (key : String)
  | removeOldest
  | removeHistoryOldest
deriving Repr

/-- What a call hands back and drops, and the cache after it. -/
def apply (cache : Cache α) : Operation α → Except Fault (Option α × Evicted α × Cache α)
  | .add key value => (cache.add key value).map fun (dropped, cache) => (none, dropped, cache)
  | .get key => cache.get key
  | .removeOldest => cache.removeOldest.map fun (dropped, cache) => (none, dropped, cache)
  | .removeHistoryOldest =>
    cache.removeHistoryOldest.map fun (dropped, cache) => (none, dropped, cache)

/-- The cache after a sequence of calls. -/
def run (cache : Cache α) (operations : List (Operation α)) : Except Fault (Cache α) :=
  operations.foldlM (fun cache operation => (cache.apply operation).map (·.2.2)) cache

/-- What every call of a sequence hands back and drops, and the cache after the last one. -/
def trace (cache : Cache α) :
    List (Operation α) → Except Fault (List (Option α × Evicted α) × Cache α)
  | [] => .ok ([], cache)
  | operation :: operations => do
    let (value, dropped, cache) ← cache.apply operation
    let (outcomes, cache) ← cache.trace operations
    return ((value, dropped) :: outcomes, cache)

/-- A one-line account of both queues. -/
def describe (cache : Cache α) : String :=
  let fields := [
    ("len", cache.size), ("bytes", cache.bytes), ("max_bytes", cache.main.maxBytes),
    ("history_len", cache.historySize), ("history_bytes", cache.historyBytes),
    ("history_max_bytes", cache.history.maxBytes), ("k", cache.threshold)]
  let shown := fields.map fun (name, count) => name ++ ": " ++ toString count
  "EvictionCache \x7b " ++ ", ".intercalate shown ++ " \x7d"

end Cache

end ReadThrough
