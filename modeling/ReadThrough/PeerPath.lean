import ReadThrough.Text.Percent

/-! The paths by which nodes ask each other: a base path, then group and key as
percent-encoded segments, so that a key may itself hold slashes. -/

namespace ReadThrough.PeerPath

/-- Why a path is no request for a group and a key. -/
inductive Rejection where
  | unexpectedPath (path : String)
  | badRequest
  | badEncoding (segment : String)
deriving Repr, DecidableEq

def Rejection.message : Rejection → String
  | unexpectedPath path => "serving unexpected path: " ++ path
  | badRequest => "bad request"
  | badEncoding segment => "invalid percent-encoding in segment: " ++ segment

def defaultBase : String := "/_geecache/"

def dropTrailingSlashes (text : List Char) : List Char :=
  (text.reverse.dropWhile (· = '/')).reverse

/-- A base path with one slash at each end, whatever slashes it had there. -/
def normalizeBase (base : String) : String :=
  match dropTrailingSlashes (base.toList.dropWhile (· = '/')) with
  | [] => "/"
  | trimmed => String.ofList ('/' :: trimmed ++ ['/'])

/-- The URL under which the groups of a peer are reached. -/
def baseUrl (peer base : String) : String :=
  String.ofList (dropTrailingSlashes peer.toList) ++ base

/-- The URL, or below a base path the path, of one key of one group. -/
def fetchUrl (baseUrl group key : String) : String :=
  baseUrl ++ Percent.encode group ++ "/" ++ Percent.encode key

def decodeSegment (segment : List Char) : Except Rejection String :=
  match Percent.decode? segment with
  | some text => .ok text
  | none => .error (.badEncoding (String.ofList segment))

/-- The group and the key that a path asks for. -/
def parse (base path : String) : Except Rejection (String × String) :=
  match base.toList.isPrefixOf? path.toList with
  | none => .error (.unexpectedPath path)
  | some rest =>
    match rest.takeWhile (· ≠ '/'), rest.dropWhile (· ≠ '/') with
    | _, [] => .error .badRequest
    | [], _ => .error .badRequest
    | group, _ :: key => do
      let group ← decodeSegment group
      let key ← decodeSegment key
      return (group, key)

end ReadThrough.PeerPath
