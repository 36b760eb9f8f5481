/-! The fewest decimal digits that identify a binary fraction. A value `mantissa * 2 ^ exponent`
stands for all reals that round to it; of the decimals with the fewest digits in that
interval the one nearest to the value is chosen. -/

namespace ReadThrough.Decimal

/-- A binary fraction of at most 53 bits. `narrow` says that the next smaller value is only
half a step away, as it is at a power of two. -/
structure Binary where
  mantissa : Nat
  exponent : Int
  narrow : Bool

/-- The decimal `digits * 10 ^ exponent`. -/
structure Digits where
  digits : Nat
  exponent : Int
deriving Repr, DecidableEq

/-- The power of a base for a positive exponent, one for the others. -/
def power (base : Nat) (exponent : Int) : Nat := base.pow exponent.toNat

/-- Compares `left * 10 ^ ten` with `right * 2 ^ two`. -/
def compareScaled (left : Nat) (ten : Int) (right : Nat) (two : Int) : Ordering :=
  compare (left * power 10 ten * power 2 (-two)) (right * power 2 two * power 10 (-ten))

namespace Binary

/-- In quarters of a step: the value, and half a step to each side. -/
def center (value : Binary) : Nat := 4 * value.mantissa

def lowest (value : Binary) : Nat :=
  if value.narrow then value.center - 1 else value.center - 2

def highest (value : Binary) : Nat := value.center + 2

/-- Whether a decimal rounds to the value; the ends of the interval do if the mantissa is even. -/
def identifies (value : Binary) (decimal : Digits) : Bool :=
  let low := compareScaled decimal.digits decimal.exponent value.lowest (value.exponent - 2)
  let high := compareScaled decimal.digits decimal.exponent value.highest (value.exponent - 2)
  let inside := low == .gt && high == .lt
  let onEnd := low == .eq || high == .eq
  inside || (onEnd && value.mantissa % 2 == 0)

/-- The whole multiples of `10 ^ ten` in the value. -/
def floorAt (value : Binary) (ten : Int) : Nat :=
  (value.mantissa * power 2 value.exponent * power 10 (-ten)) /
    (power 10 ten * power 2 (-value.exponent))

/-- Whether the lower of two neighbours on the grid of `10 ^ ten` is nearer; of two at the
same distance the even one. -/
def lowerNearer (value : Binary) (lower : Nat) (ten : Int) : Bool :=
  match compareScaled (2 * lower + 1) ten (2 * value.mantissa) value.exponent with
  | .gt => true
  | .eq => lower % 2 == 0
  | .lt => false

/-- The nearest decimal on one grid that identifies the value. -/
def onGrid? (value : Binary) (ten : Int) : Option Digits :=
  let lower : Digits := ⟨value.floorAt ten, ten⟩
  let upper : Digits := ⟨lower.digits + 1, ten⟩
  match value.identifies lower, value.identifies upper with
  | true, true => if value.lowerNearer lower.digits ten then some lower else some upper
  | true, false => some lower
  | false, true => some upper
  | false, false => none

/-- The exponent of the leading digit, searched downwards from a bound. -/
def magnitude (value : Binary) : (steps : Nat) → (bound : Int) → Int
  | 0, bound => bound
  | steps + 1, bound =>
    if value.floorAt bound = 0 then value.magnitude steps (bound - 1) else bound

/-- Tries grids of one digit more each. -/
def search (value : Binary) : (steps : Nat) → (ten : Int) → Digits
  | 0, ten => ⟨value.floorAt ten, ten⟩
  | steps + 1, ten => (value.onGrid? ten).getD (value.search steps (ten - 1))

end Binary

/-- Moves trailing zeros into the exponent, at most `steps` of them. -/
def Digits.trim : (steps : Nat) → Digits → Digits
  | 0, decimal => decimal
  | steps + 1, decimal =>
    if decimal.digits % 10 = 0 ∧ decimal.digits ≠ 0 then
      trim steps ⟨decimal.digits / 10, decimal.exponent + 1⟩
    else decimal

/-- No finite value reaches `10 ^ 309` or is below `10 ^ (-324)`, and seventeen digits
identify every value. -/
def shortest (value : Binary) : Digits :=
  (value.search 17 (value.magnitude 640 309)).trim 20

/-- The bit that every normal mantissa starts with and no encoding holds. -/
def implicitBit : Nat := 0x10000000000000

/-- The parts of a finite double without its sign. -/
def ofBits (bits : UInt64) : Binary :=
  let fraction := bits.toNat % implicitBit
  let biased := bits.toNat / implicitBit % 2048
  if biased = 0 then { mantissa := fraction, exponent := -1074, narrow := false }
  else
    { mantissa := implicitBit + fraction, exponent := Int.ofNat biased - 1075
      narrow := fraction = 0 ∧ 1 < biased }

end ReadThrough.Decimal
