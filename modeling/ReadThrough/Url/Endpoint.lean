import ReadThrough.Url.Basic

/-! The host and port that a URL leads to, at which a node listens and is found. -/

namespace ReadThrough

structure Endpoint where
  host : Host
  port : Nat
deriving Repr, DecidableEq

/-- Why an address names no place to listen at. -/
inductive Endpoint.Error where
  | badUrl (error : Url.Error)
  | noHost (address : String)
  | noPort (address : String)
deriving Repr, DecidableEq

namespace Endpoint

def Error.message : Error → String
  | badUrl error => error.message
  | noHost address => "address " ++ address ++ " has no host"
  | noPort address => "address " ++ address ++ " has no port"

def text (endpoint : Endpoint) : String :=
  endpoint.host.text ++ ":" ++ toString endpoint.port

def ofUrl? (url : Url) : Option Endpoint := do
  return { host := ← url.host, port := ← url.effectivePort? }

/-- The endpoint of an address, which is a URL. -/
def ofAddress (address : String) : Except Error Endpoint := do
  let url ← (Url.parse address).mapError .badUrl
  match url.host, url.effectivePort? with
  | none, _ => throw (.noHost address)
  | some _, none => throw (.noPort address)
  | some host, some port => return { host, port }

end Endpoint

end ReadThrough
