import ReadThrough.Url.Ipv6

/-! Socket addresses: an IP address and a port. Hosts by name are none. -/

namespace ReadThrough

/-- The scope of an IPv6 address is zero if it has none. -/
inductive SocketAddress where
  | v4 (address : Ipv4) (port : Nat)
  | v6 (address : Ipv6) (scope : Nat) (port : Nat)
deriving Repr, DecidableEq

namespace SocketAddress

def text : SocketAddress → String
  | v4 address port => address.text ++ ":" ++ toString port
  | v6 address scope port =>
    let scope := if scope = 0 then "" else "%" ++ toString scope
    "[" ++ address.mixedText ++ scope ++ "]:" ++ toString port

def port? : List Char → Option Nat
  | ':' :: digits => Ipv4.below? 10 65536 digits
  | _ => none

/-- The address and the scope between brackets. -/
def scoped? (text : List Char) : Option (Ipv6 × Nat) := do
  let address ← Ipv6.parse? (text.takeWhile (· ≠ '%'))
  match text.dropWhile (· ≠ '%') with
  | [] => return (address, 0)
  | _ :: scope => return (address, ← Ipv4.below? 10 0x100000000 scope)

def parse? (text : String) : Option SocketAddress :=
  match text.toList with
  | '[' :: rest => do
    let (address, scope) ← scoped? (rest.takeWhile (· ≠ ']'))
    let port ← port? ((rest.dropWhile (· ≠ ']')).drop 1)
    return v6 address scope port
  | text => do
    let address ← Ipv4.parseStrict? (text.takeWhile (· ≠ ':'))
    let port ← port? (text.dropWhile (· ≠ ':'))
    return v4 address port

end SocketAddress

end ReadThrough
