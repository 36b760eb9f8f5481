import ReadThrough.Url.Ipv4

/-! IPv6 addresses: eight groups of four hexadecimal digits, of which one run of zeros may
be left out and the last two may be written as an IPv4 address. -/

namespace ReadThrough

structure Ipv6 where
  groups : List Nat
deriving Repr, DecidableEq

namespace Ipv6

/-- One group of at most four digits. -/
def group? (text : List Char) : Option Nat :=
  if text.length ≤ 4 then Ipv4.below? 16 0x10000 text else none

/-- The two groups that an IPv4 address fills. -/
def embedded? (text : List Char) : Option (List Nat) := do
  let address ← Ipv4.parseStrict? text
  return [address.value.toNat / 65536, address.value.toNat % 65536]

/-- Groups parted by colons, the last of them perhaps an IPv4 address. -/
def groupsOf? (mixed : Bool) : List (List Char) → Option (List Nat)
  | [] => some []
  | [last] =>
    match group? last with
    | some group => some [group]
    | none => if mixed then embedded? last else none
  | first :: rest => do return (← group? first) :: (← groupsOf? mixed rest)

def side? (mixed : Bool) (text : List Char) : Option (List Nat) :=
  if text.isEmpty then some [] else groupsOf? mixed (text.splitOn ':')

/-- Splits at the first pair of colons. -/
def splitGap : List Char → Option (List Char × List Char)
  | ':' :: ':' :: rest => some ([], rest)
  | char :: rest => (splitGap rest).map fun (left, right) => (char :: left, right)
  | [] => none

def parse? (text : List Char) : Option Ipv6 :=
  match splitGap text with
  | none => do
    let groups ← side? true text
    if groups.length = 8 then some ⟨groups⟩ else none
  | some (left, right) => do
    let left ← side? false left
    let right ← side? true right
    if left.length + right.length ≤ 7 then
      some ⟨left ++ List.replicate (8 - left.length - right.length) 0 ++ right⟩
    else none

/-- The length of the run of zeros at the start. -/
def zeros (groups : List Nat) : Nat := (groups.takeWhile (· = 0)).length

/-- The first longest run of zeros: where it starts and its length. -/
def longestRun (groups : List Nat) : Nat × Nat :=
  (List.range groups.length).foldl (fun best start =>
    let run := zeros (groups.drop start)
    if best.2 < run then (start, run) else best) (0, 0)

def joined (groups : List Nat) : List Char :=
  [':'].intercalate (groups.map Hex.ofNat)

/-- The canonical text: the first longest run of at least two zeros is left out. -/
def text (address : Ipv6) : String :=
  let (start, run) := longestRun address.groups
  String.ofList <|
    if 2 ≤ run then
      joined (address.groups.take start) ++ [':', ':'] ++ joined (address.groups.drop (start + run))
    else joined address.groups

/-- The text that shows an IPv4 address carried in the last two groups. -/
def mixedText (address : Ipv6) : String :=
  match address.groups with
  | [0, 0, 0, 0, 0, 0xffff, high, low] =>
    "::ffff:" ++ (Ipv4.mk (high * 65536 + low).toUInt32).text
  | _ => address.text

end Ipv6

end ReadThrough
