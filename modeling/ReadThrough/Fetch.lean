import ReadThrough.Http.Status
import ReadThrough.Payload

/-! What asking a peer for a value comes to. -/

namespace ReadThrough

/-- Why a peer gave no value: no answer came, in time or at all; the answer had another
status than success; or its body broke off. -/
inductive FetchError where
  | request (timedOut : Bool)
  | status (code : Nat)
  | body
deriving Repr, DecidableEq

/-- Only a status that came as an answer has a text of its own. -/
def FetchError.message? : FetchError → Option String
  | status code => some ("server returned: " ++ Http.statusText code)
  | _ => none

abbrev Fetched := Except FetchError Payload

end ReadThrough
