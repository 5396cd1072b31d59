-- Numbers stored in bytes: a field is read at a place, and is absent when the bytes end before it
-- does.

namespace Gallery.Image

-- The order in which the bytes of a number stand.
inductive ByteOrder where
  | bigEndian
  | littleEndian
deriving DecidableEq, Repr

variable (bytes : ByteArray) (place : Nat)

def byteAt : Option Nat := bytes[place]?.map UInt8.toNat

def be16 : Option Nat := do
  return 256 * (← byteAt bytes place) + (← byteAt bytes (place + 1))

def be32 : Option Nat := do
  return 65536 * (← be16 bytes place) + (← be16 bytes (place + 2))

def le16 : Option Nat := do
  return (← byteAt bytes place) + 256 * (← byteAt bytes (place + 1))

def le24 : Option Nat := do
  return (← le16 bytes place) + 65536 * (← byteAt bytes (place + 2))

def le32 : Option Nat := do
  return (← le16 bytes place) + 65536 * (← le16 bytes (place + 2))

-- A number of four bytes that may be negative.
def leInt32 : Option Int := do
  let n ← le32 bytes place
  return if n < 1 <<< 31 then (n : Int) else (n : Int) - 0x100000000

namespace ByteOrder

-- A number of two bytes in the given order.
def read16 : ByteOrder → Option Nat
  | .bigEndian => be16 bytes place
  | .littleEndian => le16 bytes place

-- A number of four bytes in the given order.
def read32 : ByteOrder → Option Nat
  | .bigEndian => be32 bytes place
  | .littleEndian => le32 bytes place

end ByteOrder

-- A pattern of bytes, in which `none` stands for any byte.
abbrev Pattern := List (Option UInt8)

-- The pattern of exactly the given bytes.
def Pattern.exactly (bytes : List UInt8) : Pattern := bytes.map some

-- The pattern of the bytes of an ASCII text.
def Pattern.ofText (text : String) : Pattern := text.toList.map fun c => some c.toNat.toUInt8

-- The bytes from a place on begin with a pattern.
def Pattern.matchesAt (bytes : ByteArray) (place : Nat) : Pattern → Bool
  | [] => true
  | p :: rest =>
    match bytes[place]? with
    | none => false
    | some b => (p.isNone || p == some b) && matchesAt bytes (place + 1) rest

end Gallery.Image
