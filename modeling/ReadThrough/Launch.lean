import ReadThrough.CommandLine
import ReadThrough.Url.Endpoint

/-! What starting a node comes to: help, a complaint, or a node that listens. -/

namespace ReadThrough

inductive Launch where
  | help
  | badUsage (error : CommandLine.Error)
  | badAddress (error : Endpoint.Error)
  | listen (settings : CommandLine) (endpoint : Endpoint)

namespace Launch

def ofArguments (arguments : List String) : Launch :=
  match CommandLine.read arguments with
  | .error .helpWanted => help
  | .error error => badUsage error
  | .ok settings =>
    match Endpoint.ofAddress settings.addr with
    | .error error => badAddress error
    | .ok endpoint => listen settings endpoint

/-- The exit code; a node that listens has none. -/
def exitCode? : Launch → Option Nat
  | help => some 0
  | badUsage _ => some 2
  | badAddress _ => some 1
  | listen .. => none

/-- What is complained about an address. -/
def complaint? : Launch → Option String
  | badAddress error => some ("Error: " ++ error.message ++ "\n")
  | _ => none

end Launch

end ReadThrough
