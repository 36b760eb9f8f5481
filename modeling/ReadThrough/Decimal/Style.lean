import ReadThrough.Decimal.Shortest

/-! Writing decimals: digits in place within a range of magnitudes, in scientific notation
outside of it. -/

namespace ReadThrough.Decimal

/-- Digits stand in their places while the point is more than `lowest` places right of the
first digit and at most `highest`. `plus` marks exponents that are not negative. -/
structure Style where
  lowest : Int
  highest : Int
  plus : Bool

namespace Style

/-- The text of a decimal; whole numbers in place keep a zero behind the point. -/
def layout (style : Style) (decimal : Digits) : String :=
  let digits := Nat.toDigits 10 decimal.digits
  let point := digits.length + decimal.exponent
  let zeros (count : Int) : List Char := List.replicate count.toNat '0'
  let text :=
    if 0 ≤ decimal.exponent ∧ point ≤ style.highest then
      digits ++ zeros decimal.exponent ++ ['.', '0']
    else if 0 < point ∧ point ≤ style.highest then
      digits.take point.toNat ++ ['.'] ++ digits.drop point.toNat
    else if style.lowest < point ∧ point ≤ 0 then
      ['0', '.'] ++ zeros (-point) ++ digits
    else
      let sign := if style.plus ∧ 1 ≤ point then ['+'] else []
      let scale := sign ++ (toString (point - 1)).toList
      match digits with
      | [digit] => [digit, 'e'] ++ scale
      | digit :: rest => [digit, '.'] ++ rest ++ ['e'] ++ scale
      | [] => scale
  String.ofList text

/-- The text of a finite double. -/
def ofFloat (style : Style) (value : Float) : String :=
  let bits := value.toBits
  let magnitude := bits &&& 0x7fffffffffffffff
  let sign := if bits = magnitude then "" else "-"
  if magnitude = 0 then sign ++ "0.0"
  else sign ++ style.layout (shortest (ofBits bits))

end Style

end ReadThrough.Decimal
