import ReadThrough.Cluster.Get
import ReadThrough.Frontend
import ReadThrough.Launch

/-! The program of one node. Requests come one a line as a method and a target, and each is
answered by a line with the status and the body. The node has no link to its peers, so it
loads what they own by itself. -/

namespace ReadThrough

def usage : String :=
  "Usage: readthrough [--addr URL] [--peers URL,...] [--api ADDRESS] [--cache-bytes N] " ++
    "[--admission-k N] [--fetch-timeout-ms N] [--verbose]"

/-- The node with its group of scores, alone on a network that is down. -/
def clusterOf (config : Config) : Cluster :=
  let node := Node.ofConfig config
  let scores := { Frontend.scoresGroup config with picker := some .pool }
  let node := { node with pool := node.pool.set config.peerSet, groups := node.groups.insert scores }
  { nodes := [node], network := { link := .down } }

/-- The answer to one request; the frontend is asked only if it was wanted. -/
def answerRequest (withFrontend : Bool) (cluster : Cluster) (method target : String) :
    Option (Http.Response × Cluster) :=
  if withFrontend ∧ Http.targetPath target = "/api" then
    match Frontend.demand method target with
    | .refused response => some (Frontend.sent method response, cluster)
    | .get key => do
      let (got, cluster) ← cluster.get { node := 0, group := "scores" } key
      return (Frontend.sent method (Frontend.answer got), cluster)
  else do
    let (served, cluster) ← cluster.serve 0 (Http.targetPath target)
    return (.ofServed served, cluster)

partial def serveLines (withFrontend : Bool) (cluster : Cluster) : IO Unit := do
  let line ← (← IO.getStdin).getLine
  if line.isEmpty then return
  match (line.trimAscii.toString.splitOn " ") with
  | [method, target] =>
    match answerRequest withFrontend cluster method target with
    | some (response, cluster) =>
      IO.println (Http.statusText response.status ++ ": " ++ response.body.display)
      serveLines withFrontend cluster
    | none => serveLines withFrontend cluster
  | _ => serveLines withFrontend cluster

end ReadThrough

open ReadThrough in
def main (arguments : List String) : IO UInt32 := do
  let launch := Launch.ofArguments arguments
  match launch with
  | .help => IO.println usage
  | .badUsage _ => IO.eprintln usage
  | .badAddress _ => IO.eprint (launch.complaint?.getD "")
  | .listen settings endpoint =>
    IO.println ("listening on " ++ endpoint.text)
    serveLines settings.api.isSome (clusterOf settings.config)
  return (launch.exitCode?.getD 0).toUInt32
