import ReadThrough.Unicode.CombiningClass
import ReadThrough.Unicode.Composite

/-! The normal form of text: characters come apart into letters and marks, marks are put
into the order of their classes, and what a single character stands for is put together
again. Two texts that are shown alike by that reckoning have one normal form. Characters
that only stand for another one have to be replaced before. -/

namespace ReadThrough.Unicode.Normal

/-- The codes that a code comes apart into within a number of steps. -/
def expand : (steps : Nat) → Nat → List Nat
  | 0, code => [code]
  | steps + 1, code =>
    match Composite.parts? code with
    | some (first, second) => expand steps first ++ [second]
    | none => [code]

/-- More steps than any code needs. -/
def depth : Nat := 4

def decompose (codes : List Nat) : List Nat := codes.flatMap (expand depth)

/-- Puts marks behind the same letter into the order of their classes; the sort is stable. -/
def order (codes : List Nat) : List Nat :=
  let groups := codes.splitBy fun _ next => CombiningClass.ofCode next ≠ 0
  groups.flatMap fun group => group.mergeSort fun first second =>
    CombiningClass.ofCode first ≤ CombiningClass.ofCode second

/-- Text that is being put together: the last letter, the marks behind it that stay apart,
and what is settled before it. Lists have the last code first. -/
structure Composer where
  settled : List Nat := []
  letter : Option Nat := none
  marks : List Nat := []

namespace Composer

/-- The whole text, the last code first. -/
def codes (composer : Composer) : List Nat :=
  composer.marks ++ composer.letter.toList ++ composer.settled

/-- A code can join the last letter unless a mark of its class or a higher one stands
between them. -/
def reachesLetter (composer : Composer) (code : Nat) : Bool :=
  composer.marks.head?.all fun last => CombiningClass.ofCode last < CombiningClass.ofCode code

def step (composer : Composer) (code : Nat) : Composer :=
  let joined? := if composer.reachesLetter code then
    composer.letter.bind (Composite.whole? · code) else none
  match joined? with
  | some joined => { composer with letter := some joined }
  | none =>
    if CombiningClass.ofCode code = 0 then { settled := composer.codes, letter := some code }
    else { composer with marks := code :: composer.marks }

end Composer

def compose (codes : List Nat) : List Nat :=
  (codes.foldl Composer.step {}).codes.reverse

/-- The normal form. Text without marks is in normal form already. -/
def ofCodes (codes : List Nat) : List Nat :=
  if codes.all (· < CombiningClass.firstMark) then codes
  else compose (order (decompose codes))

end ReadThrough.Unicode.Normal
