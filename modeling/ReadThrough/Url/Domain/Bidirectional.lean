import ReadThrough.Unicode.Direction

/-! Names with characters that run from right to left. Every label of such a name runs in
one direction, so that the order in which it is shown tells the order of its characters. -/

namespace ReadThrough.Domain

open Unicode (Direction)

def runsRight (label : List Char) : Bool :=
  label.any fun char =>
    Direction.ofChar char = .right || Direction.ofChar char = .arabicNumber

/-- The direction of the last character that is no mark. -/
def lastDirection? (directions : List Direction) : Option Direction :=
  (directions.reverse.dropWhile (· = .mark)).head?

/-- A label starts with a letter, which gives the direction, holds no letter of the other
direction and ends in a letter or number. Labels from right to left hold numbers of one
kind. -/
def runsOneWay (label : List Char) : Bool :=
  let directions := label.map Direction.ofChar
  let last? := lastDirection? directions
  match directions.head? with
  | none => true
  | some .left =>
    !directions.any (fun direction =>
      direction = .right || direction = .arabicNumber || direction = .separator) &&
      (last? = some .left || last? = some .europeanNumber)
  | some .right =>
    !directions.any (fun direction => direction = .left || direction = .separator) &&
      (last? = some .right || last? = some .europeanNumber || last? = some .arabicNumber) &&
      !(directions.contains .europeanNumber && directions.contains .arabicNumber)
  | some _ => false

/-- Whether the labels of a name, as they are shown, may stand together. -/
def readable (labels : List (List Char)) : Bool :=
  !labels.any runsRight || labels.all runsOneWay

end ReadThrough.Domain
