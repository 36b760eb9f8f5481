import ReadThrough.Cache.Queue
import ReadThrough.Text.Hex
import ReadThrough.Text.Utf8

/-! The value that nodes cache and send to each other: bytes that are never changed. -/

namespace ReadThrough

structure Payload where
  bytes : ByteArray := .empty
deriving Inhabited

namespace Payload

instance : DecidableEq Payload := fun first second =>
  match ByteArray.instDecidableEq first.bytes second.bytes with
  | isTrue same => isTrue (congrArg mk same)
  | isFalse differ => isFalse fun equal => differ (congrArg bytes equal)

def ofText (text : String) : Payload := ⟨text.toUTF8⟩

def size (payload : Payload) : Nat := payload.bytes.size

def isEmpty (payload : Payload) : Bool := payload.size == 0

instance : ByteSized Payload := ⟨size⟩

/-- The bytes as text, with replacement characters where they are none. -/
def display (payload : Payload) : String :=
  String.ofList (Utf8.decodeLossy payload.bytes.toList)

/-- A byte as it stands between the quotes of a byte string. -/
def escapeByte (byte : UInt8) : List Char :=
  if byte = 0x0a then ['\\', 'n']
  else if byte = 0x0d then ['\\', 'r']
  else if byte = 0x09 then ['\\', 't']
  else if byte = 0x5c then ['\\', '\\']
  else if byte = 0x22 then ['\\', '"']
  else if byte = 0x00 then ['\\', '0']
  else if 0x20 ≤ byte ∧ byte < 0x7f then [Char.ofUInt8 byte]
  else ['\\', 'x', Hex.lower (byte.toNat / 16), Hex.lower (byte.toNat % 16)]

/-- A description that shows every byte. -/
def describe (payload : Payload) : String :=
  let shown := String.ofList (payload.bytes.toList.flatMap escapeByte)
  "ByteView \x7b bytes: b\"" ++ shown ++ "\" \x7d"

end Payload

end ReadThrough
