/-! The CRC-32 checksum of the IEEE 802.3 polynomial, least significant bit first. -/

namespace ReadThrough.Checksum

/-- The polynomial with its bits reversed. -/
def polynomial : UInt32 := 0xedb88320

def shift (register : UInt32) : UInt32 :=
  if register &&& 1 = 1 then (register >>> 1) ^^^ polynomial else register >>> 1

def absorb (register : UInt32) (byte : UInt8) : UInt32 :=
  Nat.repeat shift 8 (register ^^^ byte.toUInt32)

def crc32 (bytes : List UInt8) : UInt32 :=
  bytes.foldl absorb 0xffffffff ^^^ 0xffffffff

end ReadThrough.Checksum
