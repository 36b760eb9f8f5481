import ReadThrough.Config.Basic
import ReadThrough.Group.Basic
import ReadThrough.Http.Response
import ReadThrough.Http.Target
import ReadThrough.Text.Form

/-! The frontend of a node: it answers `/api?key=…` from a group of scores. -/

namespace ReadThrough.Frontend

def scores : List (String × Payload) :=
  [("Tom", .ofText "630"), ("Jack", .ofText "589"), ("Sam", .ofText "567")]

def scoresGroup (config : Config) : Group :=
  { name := "scores", loader := .ofTable scores, shard := config.shard }

/-- Why a query asks for no key. -/
inductive QueryError where
  | missingKey
  | duplicateKey
deriving Repr, DecidableEq

def QueryError.message (error : QueryError) : String :=
  "Failed to deserialize query string: " ++
    match error with
    | missingKey => "missing field `key`"
    | duplicateKey => "duplicate field `key`"

/-- The key a query asks for. Other fields count for nothing. -/
def key? (query : List Char) : Except QueryError String :=
  match (Form.fields query).filter fun field => field.1 = "key" with
  | [] => .error .missingKey
  | [(_, key)] => .ok key
  | _ => .error .duplicateKey

/-- What a request comes to: an answer at once, or a get. -/
inductive Demand where
  | refused (response : Http.Response)
  | get (key : String)

/-- Only `GET` and `HEAD` of one path are answered. -/
def demand (method target : String) : Demand :=
  if Http.targetPath target ≠ "/api" then .refused { status := 404 }
  else if method ≠ "GET" ∧ method ≠ "HEAD" then .refused { status := 405 }
  else
    match key? (Http.targetQuery target) with
    | .error error => .refused (.ofText 400 error.message)
    | .ok key => .get key

def answer : Group.Got → Http.Response
  | .ok value => .ofPayload value
  | .error error => .ofText 500 error.message

/-- An answer to `HEAD` has no body. -/
def sent (method : String) (response : Http.Response) : Http.Response :=
  if method = "HEAD" then { response with body := {} } else response

/-- The answer to a request from a group that has nobody to ask. -/
def handle (group : Group) (method target : String) : Http.Response × Group :=
  match demand method target with
  | .refused response => (sent method response, group)
  | .get key =>
    let (got, group) := group.get key none
    (sent method (answer got), group)

end ReadThrough.Frontend
