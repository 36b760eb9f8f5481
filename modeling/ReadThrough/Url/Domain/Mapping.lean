import ReadThrough.Url.Domain.Forms
import ReadThrough.Url.Domain.Ideographs
import ReadThrough.Url.Domain.Letters
import ReadThrough.Url.Domain.Refused
import ReadThrough.Url.Domain.Symbols

/-! What each character becomes in a domain name, before the name is split into labels. -/

namespace ReadThrough.Domain

/-- The first code outside ASCII. -/
def firstOutside : Nat := 0x80

def isAscii (text : List Char) : Bool := text.all fun char => char.toNat < firstOutside

/-- ASCII characters that no domain name holds. -/
def forbidden (char : Char) : Bool :=
  char.toNat ≤ 0x20 || char.toNat == 0x7f || "%#/:<>?@[\\]^|".contains char

/-- The codes that stand for a character in a name; characters without an entry stand for
themselves, and refused ones have no place in a name. -/
def mapping? (char : Char) : Option (List Nat) :=
  let code := char.toNat
  if code < firstOutside then some [char.toLower.toNat]
  else if refused.contains code then none
  else
    match [letters, symbols, ideographs, forms].findSome? (·.find? code) with
    | some entry => some (entry.codesFor code)
    | none => some [code]

/-- Whether a character may stand in a name as it is. -/
def kept (char : Char) : Bool := !forbidden char && mapping? char == some [char.toNat]

end ReadThrough.Domain
