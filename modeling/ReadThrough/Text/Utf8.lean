/-! UTF-8 text in bytes. `decodeLossy` reads any bytes: each longest part that starts like
a character but does not end as one becomes a replacement character. -/

namespace ReadThrough.Utf8

/-- The bytes of a text. -/
def encode (text : List Char) : List UInt8 :=
  text.flatMap String.utf8EncodeChar

/-- The text of well-formed bytes. -/
def decode? (bytes : List UInt8) : Option String :=
  String.fromUTF8? bytes.toByteArray

/-- What the first byte of a character says: its own bits, how many bytes follow, and the
range of the first of them. -/
structure Lead where
  bits : Nat
  tails : Nat
  low : UInt8 := 0x80
  high : UInt8 := 0xbf

/-- The ranges leave out overlong forms, surrogates and values above the last character. -/
def lead? (byte : UInt8) : Option Lead :=
  if byte < 0x80 then some { bits := byte.toNat, tails := 0 }
  else if byte < 0xc2 then none
  else if byte < 0xe0 then some { bits := byte.toNat - 0xc0, tails := 1 }
  else if byte = 0xe0 then some { bits := 0, tails := 2, low := 0xa0 }
  else if byte = 0xed then some { bits := 0xd, tails := 2, high := 0x9f }
  else if byte < 0xf0 then some { bits := byte.toNat - 0xe0, tails := 2 }
  else if byte = 0xf0 then some { bits := 0, tails := 3, low := 0x90 }
  else if byte < 0xf4 then some { bits := byte.toNat - 0xf0, tails := 3 }
  else if byte = 0xf4 then some { bits := 4, tails := 3, high := 0x8f }
  else none

/-- The longest run of at most `count` following bytes, the first of them within a range. -/
def tail (low high : UInt8) : (count : Nat) → List UInt8 → List UInt8
  | 0, _ => []
  | _ + 1, [] => []
  | count + 1, byte :: rest =>
    if low ≤ byte ∧ byte ≤ high then byte :: tail 0x80 0xbf count rest else []

def replacement : Char := '\ufffd'

/-- The character that a lead and all of its following bytes stand for. -/
def character (lead : Lead) (tail : List UInt8) : Char :=
  Char.ofNat (tail.foldl (fun value byte => value * 64 + byte.toNat % 64) lead.bits)

def decodeLossy : List UInt8 → List Char
  | [] => []
  | byte :: rest =>
    match lead? byte with
    | none => replacement :: decodeLossy rest
    | some lead =>
      let tail := tail lead.low lead.high lead.tails rest
      let char := if tail.length = lead.tails then character lead tail else replacement
      char :: decodeLossy (rest.drop tail.length)
termination_by bytes => bytes.length
decreasing_by all_goals (simp only [List.length_cons, List.length_drop]; omega)

end ReadThrough.Utf8
