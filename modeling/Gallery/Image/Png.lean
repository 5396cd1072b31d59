import Gallery.Image.Checksum
import Gallery.Image.Format

-- The size of a PNG image. The header chunk must be intact, and the chunks must be readable up to
-- the first one with image data.

namespace Gallery.Image.Png

-- The bits of a sample that go with a color type.
private def depthAllowed (colorType depth : Nat) : Bool :=
  match colorType with
  | 0 => [1, 2, 4, 8, 16].contains depth
  | 3 => [1, 2, 4, 8].contains depth
  | 2 | 4 | 6 => [8, 16].contains depth
  | _ => false

private def checked (bytes : ByteArray) (place size : Nat) : Option Bool := do
  return (← be32 bytes (place + 8 + size)) == crc32 bytes (place + 4) (size + 4)

private def header (bytes : ByteArray) : Option Dimensions := do
  guard ((← be32 bytes 8) = 13 && (Pattern.ofText "IHDR").matchesAt bytes 12)
  guard (← checked bytes 8 13)
  let width ← be32 bytes 16
  let height ← be32 bytes 20
  guard (0 < width && width < 1 <<< 31 && 0 < height && height < 1 <<< 31)
  guard (depthAllowed (← byteAt bytes 25) (← byteAt bytes 24))
  guard ((← byteAt bytes 26) = 0 && (← byteAt bytes 27) = 0 && (← byteAt bytes 28) ≤ 1)
  return ⟨width, height⟩

-- The chunks from a place on lead to image data. A chunk whose name begins in upper case must
-- be known and intact; any other is passed over.
private def reachesData (bytes : ByteArray) (hasPalette : Bool) (place : Nat) : Nat → Option Unit
  | 0 => none
  | fuel + 1 => do
    let size ← be32 bytes place
    let named (name : String) : Bool := (Pattern.ofText name).matchesAt bytes (place + 4)
    let first ← byteAt bytes (place + 4)
    let _ ← be32 bytes (place + 4)
    if named "IDAT" then
      return ()
    else if first &&& 32 = 0 then
      guard (named "PLTE" && !hasPalette)
      guard (← checked bytes place size)
      guard (size % 3 = 0 && 0 < size && size ≤ 768)
      reachesData bytes true (place + 12 + size) fuel
    else
      let _ ← be32 bytes (place + 8 + size)
      reachesData bytes hasPalette (place + 12 + size) fuel

def dimensions? (bytes : ByteArray) : Option Dimensions := do
  let size ← header bytes
  reachesData bytes false 33 bytes.size
  return size

end Gallery.Image.Png
