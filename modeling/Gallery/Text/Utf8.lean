-- Text from bytes. Bytes that are no UTF-8 can be refused, or shown with a mark in the place of
-- each part that is none.

namespace Gallery.Text

-- The text whose UTF-8 the bytes are.
def ofUtf8? (bytes : ByteArray) : Option String := String.fromUTF8? bytes

def utf8 (s : String) : List UInt8 := s.toUTF8.data.toList

-- What the bytes that may follow a first byte of a sequence are: how many there are, and
-- between which bounds the first of them lies.
private def continuation (first : UInt8) : Option (Nat × UInt8 × UInt8) :=
  if first < 0x80 then some (0, 0, 0)
  else if first < 0xc2 then none
  else if first < 0xe0 then some (1, 0x80, 0xbf)
  else if first = 0xe0 then some (2, 0xa0, 0xbf)
  else if first = 0xed then some (2, 0x80, 0x9f)
  else if first < 0xf0 then some (2, 0x80, 0xbf)
  else if first = 0xf0 then some (3, 0x90, 0xbf)
  else if first < 0xf4 then some (3, 0x80, 0xbf)
  else if first = 0xf4 then some (3, 0x80, 0x8f)
  else none

-- The bits that a first byte with `count` bytes after it gives to the code point.
private def leadBits (first : UInt8) : Nat → Nat
  | 0 => first.toNat
  | 1 => first.toNat % 32
  | 2 => first.toNat % 16
  | _ => first.toNat % 8

-- One character of a lossy reading, and the bytes after it. A sequence that breaks off is
-- replaced as a whole, up to the byte that cannot belong to it.
private def lossyChar (first : UInt8) (rest : List UInt8) : Char × List UInt8 :=
  match continuation first with
  | none => ('\ufffd', rest)
  | some (count, low, high) => go (leadBits first count) low high count rest
where
  go (code : Nat) (low high : UInt8) : Nat → List UInt8 → Char × List UInt8
    | 0, rest => (Char.ofNat code, rest)
    | n + 1, b :: rest =>
      if low ≤ b && b ≤ high then go (64 * code + b.toNat % 64) 0x80 0xbf n rest
      else ('\ufffd', b :: rest)
    | _ + 1, [] => ('\ufffd', [])

private def lossyFrom (done : List Char) : List UInt8 → Nat → List Char
  | [], _ => done.reverse
  | _, 0 => done.reverse
  | first :: rest, fuel + 1 =>
    let (c, rest) := lossyChar first rest
    lossyFrom (c :: done) rest fuel

-- The bytes as text, with U+FFFD for what is no UTF-8.
def lossy (bytes : ByteArray) : String :=
  match ofUtf8? bytes with
  | some s => s
  | none => String.ofList (lossyFrom [] bytes.data.toList bytes.size)

end Gallery.Text
