import Gallery.Image.Bmp
import Gallery.Image.Png

-- The size of an icon: that of the best picture in it, the one with the most bits for a pixel and
-- among those the one with the largest area.

namespace Gallery.Image.Ico

private structure Entry where
  width : Nat
  height : Nat
  bits : Nat
  place : Nat

private def entries (bytes : ByteArray) (place : Nat) : Nat → Option (List Entry)
  | 0 => some []
  | count + 1 => do
    let width ← byteAt bytes place
    let height ← byteAt bytes (place + 1)
    let planes ← le16 bytes (place + 4)
    let bits ← le16 bytes (place + 6)
    guard (planes ≤ 256 && bits ≤ 256)
    let _ ← le32 bytes (place + 8)
    let start ← le32 bytes (place + 12)
    -- a side of 256 is written as zero
    let side (n : Nat) : Nat := if n = 0 then 256 else n
    return ⟨side width, side height, bits, start⟩ :: (← entries bytes (place + 16) count)

private def better (a b : Entry) : Bool :=
  b.bits < a.bits || (a.bits = b.bits && b.width * b.height < a.width * a.height)

private def best? (es : List Entry) : Option Entry := do
  let last ← es.getLast?
  return es.dropLast.foldl (fun chosen e => if better e chosen then e else chosen) last

def dimensions? (bytes : ByteArray) : Option Dimensions := do
  let entry ← best? (← entries bytes 6 (← le16 bytes 4))
  let picture := bytes.extract entry.place bytes.size
  guard (8 ≤ picture.size)
  if ImageFormat.recognize picture = some .png then
    let size ← Png.dimensions? picture
    guard (size.width ≤ entry.width && size.height ≤ entry.height)
    return size
  else
    Bmp.iconDimensions? picture

end Gallery.Image.Ico
