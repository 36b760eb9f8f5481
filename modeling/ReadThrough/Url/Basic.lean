import ReadThrough.Url.Host
import ReadThrough.Url.Segment

/-! Absolute URLs, read as browsers read them: blanks around them, tabs and line breaks
count for nothing, and schemes whose hosts are looked up in the network take backslashes
for slashes and any number of them before the host. -/

namespace ReadThrough

/-- `port` is left out where it is the scheme's own; `rest` is what follows the host. -/
structure Url where
  scheme : String
  host : Option Host := none
  port : Option Nat := none
  rest : List Char
deriving Repr, DecidableEq

/-- Why a text is no absolute URL. -/
inductive Url.Error where
  | noScheme
  | badPort
  | badHost (error : Host.Error)
deriving Repr, DecidableEq

namespace Url

def Error.message : Error → String
  | noScheme => "relative URL without a base"
  | badPort => "invalid port number"
  | badHost error => error.message

/-- The ports of the schemes that look hosts up in the network. -/
def knownPorts : List (String × Nat) :=
  [("http", 80), ("https", 443), ("ws", 80), ("wss", 443), ("ftp", 21)]

def knownPort? (scheme : String) : Option Nat := knownPorts.lookup scheme

/-- The URL's port, or the one its scheme stands for. -/
def effectivePort? (url : Url) : Option Nat := url.port <|> knownPort? url.scheme

def isBlank (char : Char) : Bool := char.toNat ≤ 0x20

def isBreak (char : Char) : Bool := char = '\t' || char = '\n' || char = '\r'

/-- The text without blanks around it and without breaks. -/
def strip (text : List Char) : List Char :=
  ((text.dropWhile isBlank).reverse.dropWhile isBlank).reverse.filter (!isBreak ·)

def schemeChar (char : Char) : Bool :=
  char.isAlphanum || char = '+' || char = '-' || char = '.'

/-- The scheme in lower case and what follows its colon. -/
def splitScheme? (text : List Char) : Option (String × List Char) :=
  if text.head?.any Char.isAlpha then
    match text.dropWhile schemeChar with
    | ':' :: rest => some (String.ofList ((text.takeWhile schemeChar).map Char.toLower), rest)
    | _ => none
  else none

/-- Characters that end the part of a URL that names a host. -/
def endsHost (backslashes : Bool) (char : Char) : Bool :=
  char = '/' || char = '?' || char = '#' || (backslashes && char = '\\')

/-- Marks of a query and of a fragment. -/
def endsPath (char : Char) : Bool := char = '?' || char = '#'

/-- Splits at the last `@`: the credentials, if any, and the host with its port. -/
def splitCredentials (authority : List Char) : Option (List Char) × List Char :=
  if '@' ∈ authority then
    let host := (authority.reverse.takeWhile (· ≠ '@')).reverse
    (some (authority.take (authority.length - host.length - 1)), host)
  else (none, authority)

/-- Splits before the first colon outside brackets. -/
def splitPort (inside : Bool) : List Char → List Char × List Char
  | [] => ([], [])
  | char :: rest =>
    if char = ':' ∧ ¬inside then ([], char :: rest)
    else
      let inside := if char = '[' then true else if char = ']' then false else inside
      let (host, port) := splitPort inside rest
      (char :: host, port)

/-- The number a port's digits write; no digits leave the port out. -/
def port? (text : List Char) : Except Error (Option Nat) :=
  match text with
  | [] => .ok none
  | text =>
    match Ipv4.below? 10 65536 text with
    | some port => .ok (some port)
    | none => .error .badPort

/-- The host and the port of an authority. Only schemes that look no host up may go
without one, and then there are no credentials and no colon either. -/
def ofAuthority (scheme : String) (authority rest : List Char) : Except Error Url := do
  let known := knownPort? scheme
  let (credentials, place) := splitCredentials authority
  if credentials = some [] ∧ place.isEmpty ∧ !rest.isEmpty then throw (.badHost .empty)
  let (host, colon) := splitPort false place
  let parse := if known.isSome then Host.parse else Host.parseOpaque
  let parsed ← (parse host).mapError .badHost
  let absent := parsed == .domain ""
  if absent ∧ !colon.isEmpty then throw (.badHost .empty)
  let port ← port? ((colon.drop 1).takeWhile (· ≠ '\\'))
  if absent ∧ credentials.any (fun text => text ≠ [] ∧ text ≠ [':']) then throw (.badHost .empty)
  return {
    scheme
    host := if absent then none else some parsed
    port := if port = known then none else port
    rest := colon.dropWhile (· ≠ '\\') ++ rest }

/-- A file's URL. Drives and the local host are no hosts, and a path that starts with a
drive lies on no host. -/
def ofFile (rest : List Char) : Except Error Url := do
  match rest with
  | first :: second :: rest =>
    if isSlash first ∧ isSlash second then
      let host := rest.takeWhile (!endsHost true ·)
      let path := rest.dropWhile (!endsHost true ·)
      if host.isEmpty ∨ isDrive host then return { scheme := "file", rest }
      let parsed ← (Host.parse host).mapError .badHost
      let drive := onDrive [] (segments (path.takeWhile (!endsPath ·)).tail)
      let absent := parsed == .domain "localhost" || drive
      return { scheme := "file", host := if absent then none else some parsed, rest := path }
    else return { scheme := "file", rest := first :: second :: rest }
  | _ => return { scheme := "file", rest }

def parse (text : String) : Except Error Url :=
  match splitScheme? (strip text.toList) with
  | none => .error .noScheme
  | some (scheme, rest) =>
    if scheme = "file" then ofFile rest
    else if (knownPort? scheme).isSome then
      let rest := rest.dropWhile isSlash
      ofAuthority scheme (rest.takeWhile (!endsHost true ·)) (rest.dropWhile (!endsHost true ·))
    else
      match rest with
      | '/' :: '/' :: rest =>
        ofAuthority scheme (rest.takeWhile (!endsHost false ·)) (rest.dropWhile (!endsHost false ·))
      | rest => .ok { scheme, rest }

end Url

end ReadThrough
