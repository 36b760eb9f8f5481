import ReadThrough.Config.Basic

/-! A configuration while its document is being read: each setting is absent or known. -/

namespace ReadThrough.Config

inductive TextField where
  | addr
  | basePath
deriving Repr, DecidableEq

inductive CountField where
  | replicas
  | fetchTimeoutMs
  | cacheBytes
  | historyBytes
  | admissionK
deriving Repr, DecidableEq

inductive Field where
  | text (field : TextField)
  | peers
  | count (field : CountField)
deriving Repr, DecidableEq

namespace Field

/-- All settings in the order in which an array lists them. -/
def all : List Field := [
  .text .addr, .peers, .text .basePath, .count .replicas, .count .fetchTimeoutMs,
  .count .cacheBytes, .count .historyBytes, .count .admissionK]

def name : Field → String
  | text .addr => "addr"
  | peers => "peers"
  | text .basePath => "base_path"
  | count .replicas => "replicas"
  | count .fetchTimeoutMs => "fetch_timeout_ms"
  | count .cacheBytes => "cache_bytes"
  | count .historyBytes => "history_bytes"
  | count .admissionK => "admission_k"

def ofName? (name : String) : Option Field := all.find? (·.name = name)

end Field

structure Draft where
  text : TextField → Option String := fun _ => none
  peers : Option (List String) := none
  count : CountField → Option Nat := fun _ => none

namespace Draft

def has (draft : Draft) : Field → Bool
  | .text field => (draft.text field).isSome
  | .peers => draft.peers.isSome
  | .count field => (draft.count field).isSome

def setText (draft : Draft) (field : TextField) (value : String) : Draft :=
  { draft with text := fun other => if other = field then some value else draft.text other }

def setPeers (draft : Draft) (value : List String) : Draft :=
  { draft with peers := some value }

def setCount (draft : Draft) (field : CountField) (value : Nat) : Draft :=
  { draft with count := fun other => if other = field then some value else draft.count other }

/-- The configuration with defaults for what is absent. -/
def config (draft : Draft) : Config :=
  let default : Config := {}
  { addr := (draft.text .addr).getD default.addr
    peers := draft.peers.getD default.peers
    basePath := (draft.text .basePath).getD default.basePath
    replicas := (draft.count .replicas).getD default.replicas
    fetchTimeoutMs := (draft.count .fetchTimeoutMs).getD default.fetchTimeoutMs
    cacheBytes := (draft.count .cacheBytes).getD default.cacheBytes
    historyBytes := (draft.count .historyBytes).getD default.historyBytes
    admissionK := (draft.count .admissionK).getD default.admissionK }

end Draft

end ReadThrough.Config
