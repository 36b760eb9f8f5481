import ReadThrough.Bisection
import ReadThrough.Text.Hex

/-! Tables of what holds for ranges of characters. A table is written as text in words that
are parted by blanks and line ends: `0041-005A` is a range of codes, `00AD` a single code,
and behind an equals sign stand the codes that go with them, parted by points. -/

namespace ReadThrough.Unicode

/-- A range of codes and what goes with it. -/
structure Entry where
  first : Nat
  last : Nat
  codes : List Nat := []
deriving Repr, DecidableEq

namespace Entry

/-- A hexadecimal number; other characters count as zero. -/
def number (digits : List Char) : Nat :=
  digits.foldl (fun value char => value * 16 + (Hex.digit? char).getD 0) 0

def ofWord (word : List Char) : Entry :=
  let bounds := (word.takeWhile (· ≠ '=')).splitOn '-'
  let codes := (word.dropWhile (· ≠ '=')).tail
  {
    first := number (bounds.head?.getD [])
    last := number (bounds.getLast?.getD [])
    codes := if codes.isEmpty then [] else (codes.splitOn '.').map number }

def holds (entry : Entry) (code : Nat) : Bool := entry.first ≤ code && code ≤ entry.last

/-- The codes for one code of the range: the first of them goes up along the range. -/
def codesFor (entry : Entry) (code : Nat) : List Nat :=
  entry.codes.modifyHead (· + (code - entry.first))

end Entry

/-- Entries in ascending order that do not overlap. -/
structure Table where
  entries : Array Entry

namespace Table

def ofText (text : String) : Table :=
  let words := (text.toList.map fun char => if char = '\n' then ' ' else char).splitOn ' '
  ⟨((words.filter (!·.isEmpty)).map Entry.ofWord).toArray⟩

/-- The entry whose range holds a code. -/
def find? (table : Table) (code : Nat) : Option Entry :=
  let reaches (place : Nat) : Bool := table.entries[place]?.all (code ≤ ·.last)
  table.entries[Bisection.first reaches 0 table.entries.size]?.filter (·.holds code)

def contains (table : Table) (code : Nat) : Bool := (table.find? code).isSome

end Table

end ReadThrough.Unicode
