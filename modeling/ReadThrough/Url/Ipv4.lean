import ReadThrough.Text.Hex

/-! IPv4 addresses, in the strict form of four decimal numbers and in the lenient form that
host names may take: up to four numbers in decimal, octal or hexadecimal, of which the last
fills all bytes that are left. -/

namespace ReadThrough

structure Ipv4 where
  value : UInt32
deriving Repr, DecidableEq

namespace Ipv4

def ofOctets (octets : List Nat) : Ipv4 :=
  ⟨(octets.foldl (fun value octet => value * 256 + octet) 0).toUInt32⟩

def octets (address : Ipv4) : List Nat :=
  ([24, 16, 8, 0] : List UInt32).map fun shift => (address.value >>> shift).toNat % 256

def text (address : Ipv4) : String :=
  ".".intercalate (address.octets.map toString)

/-- A number in a base, from one digit on. All numbers from `bound` on count as `bound`. -/
def digits? (base bound : Nat) (text : List Char) : Option Nat :=
  if text.isEmpty then none
  else text.foldlM (fun value char => do
    let digit ← Hex.digit? char
    if digit < base then some (min bound (value * base + digit)) else none) 0

/-- A number in a base that is below a bound. -/
def below? (base bound : Nat) (text : List Char) : Option Nat :=
  (digits? base bound text).filter (· < bound)

/-- One number of the strict form: no leading zero, one byte. -/
def octet? : List Char → Option Nat
  | '0' :: _ :: _ => none
  | text => below? 10 256 text

/-- The strict form. -/
def parseStrict? (text : List Char) : Option Ipv4 := do
  let octets ← (text.splitOn '.').mapM octet?
  if octets.length = 4 then some (ofOctets octets) else none

/-- The number of addresses. -/
def count : Nat := 0x100000000

/-- One number of the lenient form, at most `count`; a bare `0x` is zero. -/
def number? : List Char → Option Nat
  | ['0', 'x'] | ['0', 'X'] => some 0
  | '0' :: 'x' :: rest | '0' :: 'X' :: rest => digits? 16 count rest
  | '0' :: digit :: rest => digits? 8 count (digit :: rest)
  | text => digits? 10 count text

/-- The parts between the points; a point at the end closes the last part. -/
def parts (text : List Char) : List (List Char) :=
  let parts := text.splitOn '.'
  if parts.getLast? = some [] then parts.dropLast else parts

/-- Whether a host name has to be an address, because its last part is a number. -/
def endsInNumber (text : List Char) : Bool :=
  match (parts text).getLast? with
  | none => false
  | some last => (!last.isEmpty && last.all Char.isDigit) || (number? last).isSome

/-- The lenient form. -/
def parseLenient? (text : List Char) : Option Ipv4 := do
  let numbers ← (parts text).mapM number?
  let last ← numbers.getLast?
  let leading := numbers.dropLast
  if leading.length < 4 ∧ leading.all (· < 256) ∧ last < Nat.pow 256 (4 - leading.length) then
    let high := leading.foldl (fun value octet => value * 256 + octet) 0
    some ⟨(high * Nat.pow 256 (4 - leading.length) + last).toUInt32⟩
  else none

end Ipv4

end ReadThrough
