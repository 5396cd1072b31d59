-- The cyclic redundancy check of 32 bits that the chunks of a PNG image end with.

namespace Gallery.Image

-- One bit of the division by the reversed polynomial.
private def crcBit (c : UInt32) : UInt32 :=
  if c &&& 1 = 1 then (0xedb88320 : UInt32) ^^^ (c >>> 1) else c >>> 1

private def crcByte (c : UInt32) (b : UInt8) : UInt32 :=
  Nat.repeat crcBit 8 (c ^^^ b.toUInt32)

private def crcRange (bytes : ByteArray) (place : Nat) : Nat → UInt32 → UInt32
  | 0, c => c
  | count + 1, c =>
    match bytes[place]? with
    | none => c
    | some b => crcRange bytes (place + 1) count (crcByte c b)

-- The check of `count` bytes from a place on.
def crc32 (bytes : ByteArray) (place count : Nat) : Nat :=
  (crcRange bytes place count (0xffffffff : UInt32) ^^^ (0xffffffff : UInt32)).toNat

end Gallery.Image
