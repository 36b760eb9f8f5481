import ReadThrough.Text.Hex
import ReadThrough.Text.Utf8

/-! Percent-encoding of text. Encoding keeps the unreserved characters and writes every
other byte as `%` and two digits. Decoding accepts more than encoding writes: a `%` that
two digits do not follow stands for itself. -/

namespace ReadThrough.Percent

/-- Letters, digits and `-`, `_`, `.`, `~`. -/
def unreserved (char : Char) : Bool :=
  char.isAlphanum || char == '-' || char == '_' || char == '.' || char == '~'

/-- `%` and the two upper case digits of a byte. -/
def escape (byte : UInt8) : List Char :=
  ['%', Hex.upper (byte.toNat / 16), Hex.upper (byte.toNat % 16)]

def encodeByte (byte : UInt8) : List Char :=
  if unreserved (Char.ofUInt8 byte) then [Char.ofUInt8 byte] else escape byte

def encodeChars (text : List Char) : List Char :=
  (Utf8.encode text).flatMap encodeByte

def encode (text : String) : String :=
  String.ofList (encodeChars text.toList)

/-- The byte that two bytes write as hexadecimal digits. -/
def byte? (high low : UInt8) : Option UInt8 :=
  match Hex.digit? (Char.ofUInt8 high), Hex.digit? (Char.ofUInt8 low) with
  | some high, some low => some (UInt8.ofNat (high * 16 + low))
  | _, _ => none

def percentSign : UInt8 := 0x25

/-- Replaces each `%` and the two digits after it by the byte they write. -/
def decodeBytes : List UInt8 → List UInt8
  | first :: high :: low :: rest =>
    if first = percentSign then
      match byte? high low with
      | some byte => byte :: decodeBytes rest
      | none => first :: decodeBytes (high :: low :: rest)
    else first :: decodeBytes (high :: low :: rest)
  | bytes => bytes

/-- The decoded text, unless the decoded bytes are no text. -/
def decode? (text : List Char) : Option String :=
  Utf8.decode? (decodeBytes (Utf8.encode text))

end ReadThrough.Percent
