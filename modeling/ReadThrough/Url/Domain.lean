import ReadThrough.Text.Percent
import ReadThrough.Url.Domain.Bidirectional
import ReadThrough.Url.Domain.Label

/-! Domain names in their ASCII form: lower case letters, and every label that holds other
characters written in Punycode behind `xn--`. -/

namespace ReadThrough.Domain

/-- The characters of a name: each one mapped, the whole in normal form. -/
def mapped? (text : List Char) : Option (List Char) := do
  let codes ← text.mapM mapping?
  let name := (Unicode.Normal.ofCodes codes.flatten).map Char.ofNat
  if name.any forbidden then none else some name

/-- The ASCII form of a name, which may be percent-encoded. Labels may be empty. -/
def ofText? (text : List Char) : Option (List Char) := do
  let decoded ← Percent.decode? text
  let name ← mapped? decoded.toList
  let labels ← (name.splitOn '.').mapM Label.ofText?
  let shown := labels.map (·.shown)
  if shown.all isAscii ∨ readable shown then
    some (['.'].intercalate (labels.map (·.written)))
  else none

end ReadThrough.Domain
