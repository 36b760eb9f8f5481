import ReadThrough.Unicode.Joining
import ReadThrough.Unicode.Mark
import ReadThrough.Unicode.Normal
import ReadThrough.Url.Domain.Mapping
import ReadThrough.Url.Punycode

/-! Labels of a domain name. A label outside ASCII is written in Punycode behind `xn--`; a
label that is written so already has to stand for one that could be. -/

namespace ReadThrough.Domain

/-- A label as it is shown and as it is written in ASCII. -/
structure Label where
  shown : List Char
  written : List Char

namespace Label

def marker : List Char := ['x', 'n', '-', '-']

/-- The longest label that is put into Punycode. -/
def shownLimit : Nat := 1000

/-- The longest text behind the marker that is read as Punycode. -/
def writtenLimit : Nat := 2000

def nonJoiner : Char := '\u200c'

def joiner : Char := '\u200d'

/-- Whether a sign that takes the vowel away stands last in a text, which is given with its
last character first. -/
def endsInVirama (before : List Char) : Bool :=
  before.head?.any fun char =>
    Unicode.CombiningClass.ofCode char.toNat = Unicode.CombiningClass.virama

/-- Whether the nearest character that is not transparent passes a test. -/
def meets (test : Char → Bool) (chars : List Char) : Bool :=
  (chars.dropWhile Unicode.Joining.transparent).head?.any test

/-- Joiners may stand where they change what is shown: behind a sign that takes the vowel
away, and the one that keeps letters apart also between letters that would join. `before`
is what has been passed, its last character first. -/
def joinersFit (before : List Char) : List Char → Bool
  | [] => true
  | char :: rest =>
    let fits :=
      if char = joiner then endsInVirama before
      else if char = nonJoiner then
        endsInVirama before ||
          (meets Unicode.Joining.joinsNext before && meets Unicode.Joining.joinsPrevious rest)
      else true
    fits && joinersFit (char :: before) rest

/-- A label outside ASCII starts with no mark. -/
def wellFormed (label : List Char) : Bool :=
  !label.head?.any Unicode.Mark.contains && joinersFit [] label

def isNormal (label : List Char) : Bool :=
  let codes := label.map Char.toNat
  Unicode.Normal.ofCodes codes == codes

/-- The label that the text behind the marker stands for. -/
def decode? (text : List Char) : Option (List Char) := do
  if !isAscii text ∨ text.getLast? = some '-' ∨ writtenLimit < text.length then none
  let label ← Punycode.decode? text
  if !isAscii label ∧ label.all kept ∧ isNormal label ∧ wellFormed label then some label else none

/-- The label of a text whose characters have been mapped. -/
def ofText? (text : List Char) : Option Label :=
  match marker.isPrefixOf? text with
  | some code => (decode? code).map fun shown => { shown, written := text }
  | none =>
    if isAscii text then some { shown := text, written := text }
    else if text.length ≤ shownLimit ∧ wellFormed text then
      some { shown := text, written := marker ++ Punycode.encode text }
    else none

end Label

end ReadThrough.Domain
