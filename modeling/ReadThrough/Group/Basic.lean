import ReadThrough.Fetch
import ReadThrough.Shard

/-! Groups of keys that share a loader and a shard. A get looks into the shard, then asks
the peer that owns the key, then calls the loader; only what the loader gave is kept. The
steps between which a get waits are functions of their own, so that gets may overlap. -/

namespace ReadThrough

/-- The source of truth for a group: a value for a key, or why there is none. -/
abbrev Loader := String → Except String Payload

/-- A loader that knows the keys of a table. -/
def Loader.ofTable (table : List (String × Payload)) : Loader := fun key =>
  match table.lookup key with
  | some value => .ok value
  | none => .error (key ++ " not exist")

/-- Stands in for peers: picks itself for keys with a certain start, and answers them with
their name, or always with a failure. -/
structure StandIn where
  start : String
  failure : Option Nat := none
deriving Repr, DecidableEq

def StandIn.answer (standIn : StandIn) (group key : String) : Fetched :=
  match standIn.failure with
  | some status => .error (.status status)
  | none => .ok (.ofText ("peer:" ++ group ++ ":" ++ key))

/-- Who decides which keys are asked of others: the pool of the node, or a stand-in. -/
inductive Picker where
  | pool
  | standIn (standIn : StandIn)
deriving Repr, DecidableEq

/-- What happened in a group since it was made. -/
structure Counters where
  gets : Nat := 0
  cacheHits : Nat := 0
  peerLoads : Nat := 0
  peerErrors : Nat := 0
  localLoads : Nat := 0
deriving Repr, DecidableEq

structure Group where
  name : String
  loader : Loader
  shard : Shard
  picker : Option Picker := none
  counters : Counters := {}

namespace Group

/-- Why a get has no value. -/
inductive Error where
  | keyRequired
  | loaderFailed (text : String)
deriving Repr, DecidableEq

def Error.message : Error → String
  | keyRequired => "key is required"
  | loaderFailed text => text

abbrev Got := Except Error Payload

/-- What the first step of a get found. -/
inductive Started where
  | refused
  | found (value : Payload)
  | missing

/-- Counts a get and looks into the shard. An empty key is refused before it counts. -/
def start (group : Group) (key : String) : Started × Group :=
  if key.isEmpty then (.refused, group)
  else
    let counters := { group.counters with gets := group.counters.gets + 1 }
    match group.shard.get key with
    | (some value, shard) =>
      let counters := { counters with cacheHits := counters.cacheHits + 1 }
      (.found value, { group with shard, counters })
    | (none, shard) => (.missing, { group with shard, counters })

/-- Counts what a peer answered. Its value is not kept, because the peer keeps it. -/
def finishFetch (group : Group) (fetched : Fetched) : Group :=
  match fetched with
  | .ok _ =>
    { group with counters := { group.counters with peerLoads := group.counters.peerLoads + 1 } }
  | .error _ =>
    { group with counters := { group.counters with peerErrors := group.counters.peerErrors + 1 } }

/-- Counts and keeps what the loader gave; a failure leaves no trace. -/
def finishLoad (group : Group) (key : String) (loaded : Except String Payload) : Group :=
  match loaded with
  | .ok value => { group with
      shard := group.shard.add key value
      counters := { group.counters with localLoads := group.counters.localLoads + 1 } }
  | .error _ => group

/-- Calls the loader and finishes at once. -/
def load (group : Group) (key : String) : Got × Group :=
  let loaded := group.loader key
  (loaded.mapError .loaderFailed, group.finishLoad key loaded)

/-- A get that nothing overlaps, given what asking for the key comes to; `none` if there is
nobody to ask. -/
def get (group : Group) (key : String) (fetched : Option Fetched) : Got × Group :=
  match group.start key, fetched with
  | (.refused, group), _ => (.error .keyRequired, group)
  | (.found value, group), _ => (.ok value, group)
  | (.missing, group), none => group.load key
  | (.missing, group), some (.ok value) => (.ok value, group.finishFetch (.ok value))
  | (.missing, group), some (.error error) => (group.finishFetch (.error error)).load key

/-- A group has at most one picker, for good. -/
inductive RegisterError where
  | alreadyRegistered (group : String)
deriving Repr, DecidableEq

def RegisterError.message : RegisterError → String
  | alreadyRegistered group => "peers already registered for group " ++ group

def register (group : Group) (picker : Picker) : Except RegisterError Group :=
  match group.picker with
  | some _ => .error (.alreadyRegistered group.name)
  | none => .ok { group with picker := some picker }

end Group

end ReadThrough
