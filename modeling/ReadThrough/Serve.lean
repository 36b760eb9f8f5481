import ReadThrough.Group.Basic
import ReadThrough.Http.Response
import ReadThrough.PeerPath

/-! What a node answers to a peer that asks for a value. -/

namespace ReadThrough

/-- Why a node has no value for a peer. -/
inductive ServeError where
  | badPath (rejection : PeerPath.Rejection)
  | noSuchGroup (name : String)
  | lookup (error : Group.Error)
deriving Repr, DecidableEq

namespace ServeError

def message : ServeError → String
  | badPath rejection => rejection.message
  | noSuchGroup name => "no such group: " ++ name
  | lookup error => error.message

def status : ServeError → Nat
  | badPath _ => 400
  | noSuchGroup _ => 404
  | lookup _ => 500

end ServeError

abbrev Served := Except ServeError Payload

def Http.Response.ofServed : Served → Http.Response
  | .ok value => .ofPayload value
  | .error error => .ofText error.status error.message

/-- What the asking peer makes of a response. -/
def Fetched.ofResponse (response : Http.Response) : Fetched :=
  if Http.succeeds response.status then .ok response.body else .error (.status response.status)

end ReadThrough
