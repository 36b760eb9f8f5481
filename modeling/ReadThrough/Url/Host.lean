import ReadThrough.Url.Domain
import ReadThrough.Url.Ipv6

/-! Hosts of a URL. Schemes whose hosts are looked up in the network read domain names and
addresses; any other scheme takes a name as it stands. -/

namespace ReadThrough

inductive Host where
  | domain (name : String)
  | ipv4 (address : Ipv4)
  | ipv6 (address : Ipv6)
deriving Repr, DecidableEq

/-- Why a text is no host. -/
inductive Host.Error where
  | empty
  | badIpv4
  | badIpv6
  | badDomain
  | badCharacter
deriving Repr, DecidableEq

namespace Host

def Error.message : Error → String
  | empty => "empty host"
  | badIpv4 => "invalid IPv4 address"
  | badIpv6 => "invalid IPv6 address"
  | badDomain => "invalid international domain name"
  | badCharacter => "invalid domain character"

def text : Host → String
  | domain name => name
  | ipv4 address => address.text
  | ipv6 address => "[" ++ address.text ++ "]"

/-- The rest of a text that starts with a bracket: an address up to the closing one. -/
def bracketed (rest : List Char) : Except Error Host :=
  if rest.getLast? = some ']' then
    match Ipv6.parse? rest.dropLast with
    | some address => .ok (ipv6 address)
    | none => .error .badIpv6
  else .error .badIpv6

/-- A name whose last part is a number has to be an IPv4 address. -/
def named (text : List Char) : Except Error Host :=
  match Domain.ofText? text with
  | none => .error .badDomain
  | some [] => .error .empty
  | some name =>
    if Ipv4.endsInNumber name then
      match Ipv4.parseLenient? name with
      | some address => .ok (ipv4 address)
      | none => .error .badIpv4
    else .ok (domain (String.ofList name))

def parse : List Char → Except Error Host
  | '[' :: rest => bracketed rest
  | text => named text

/-- Characters that would end a host or hide its end. -/
def forbidden (char : Char) : Bool :=
  "\x00\t\n\r #/:<>?@[\\]^|".contains char

/-- Controls and everything outside ASCII are percent-encoded. -/
def encodeOpaque (text : List Char) : List Char :=
  (Utf8.encode text).flatMap fun byte =>
    if byte < 0x20 ∨ 0x7f ≤ byte then Percent.escape byte else [Char.ofUInt8 byte]

def parseOpaque : List Char → Except Error Host
  | '[' :: rest => bracketed rest
  | text =>
    if text.any forbidden then .error .badCharacter
    else .ok (domain (String.ofList (encodeOpaque text)))

end Host

end ReadThrough
