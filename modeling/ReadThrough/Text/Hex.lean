/-! Hexadecimal digits. -/

namespace ReadThrough.Hex

/-- The value of a hexadecimal digit of either case. -/
def digit? (char : Char) : Option Nat :=
  if '0' ≤ char ∧ char ≤ '9' then some (char.toNat - '0'.toNat)
  else if 'a' ≤ char ∧ char ≤ 'f' then some (char.toNat - 'a'.toNat + 10)
  else if 'A' ≤ char ∧ char ≤ 'F' then some (char.toNat - 'A'.toNat + 10)
  else none

/-- The upper case digit of a value below sixteen. -/
def upper (value : Nat) : Char :=
  (Nat.digitChar value).toUpper

/-- The lower case digit of a value below sixteen. -/
def lower (value : Nat) : Char :=
  Nat.digitChar value

/-- A number in lower case digits without leading zeros. -/
def ofNat (value : Nat) : List Char :=
  Nat.toDigits 16 value

end ReadThrough.Hex
