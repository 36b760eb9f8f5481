import ReadThrough.Http.Status
import ReadThrough.Payload

/-! Answers to HTTP requests. -/

namespace ReadThrough.Http

structure Response where
  status : Nat
  contentType : Option String := none
  body : Payload := {}
deriving DecidableEq

namespace Response

/-- A value, sent as bytes. -/
def ofPayload (value : Payload) : Response :=
  { status := 200, contentType := some "application/octet-stream", body := value }

def ofText (status : Nat) (text : String) : Response :=
  { status, contentType := some "text/plain; charset=utf-8", body := .ofText text }

end Response

end ReadThrough.Http
