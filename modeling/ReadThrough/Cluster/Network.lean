import ReadThrough.Serve
import ReadThrough.Url.Endpoint

/-! The network between nodes: whether its link is up, and places that do not answer as a
node would. -/

namespace ReadThrough

/-- A link that is down delivers nothing. -/
inductive Link where
  | up
  | down
deriving Repr, DecidableEq

/-- What happens to requests for one place, whether or not a node is there. A `response` has a
status and a body but no headers, so it names no other place to ask: redirects are not followed,
and a status of 3xx is a failure like any other outside 2xx. -/
inductive Fault where
  | response (status : Nat) (body : Payload)
  | close
  | truncate
  | hang
deriving DecidableEq

/-- What an asking peer makes of a fault: a connection that closes gives no answer, one that
hangs gives none in time, and an answer that is cut off has no whole body. -/
def Fault.fetched : Fault → Fetched
  | response status body => .ofResponse { status, body }
  | close => .error (.request false)
  | truncate => .error .body
  | hang => .error (.request true)

structure Network where
  link : Link := .up
  faults : List (Endpoint × Fault) := []

end ReadThrough
