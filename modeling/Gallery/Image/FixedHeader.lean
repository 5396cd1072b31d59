import Gallery.Image.Format

-- The sizes of images whose header has one fixed form: farbfeld, QOI and DirectDraw surfaces.

namespace Gallery.Image

def Farbfeld.dimensions? (bytes : ByteArray) : Option Dimensions := do
  let width ← be32 bytes 8
  let height ← be32 bytes 12
  guard (width * height ≤ ((1 <<< 64) - 1) / 8)
  return ⟨width, height⟩

-- The most pixels of a QOI image.
private def qoiPixels : Nat := 400000000

def Qoi.dimensions? (bytes : ByteArray) : Option Dimensions := do
  let width ← be32 bytes 4
  let height ← be32 bytes 8
  let channels ← byteAt bytes 12
  let space ← byteAt bytes 13
  guard (0 < width && 0 < height && width * height ≤ qoiPixels)
  guard ((channels = 3 || channels = 4) && space ≤ 1)
  return ⟨width, height⟩

namespace Dds

-- Flags that every surface must set, and those that it may set.
private def requiredFlags : Nat := 0x1007

private def knownFlags : Nat := 0x8a100f

private def compressed (code : Nat) : Bool := 70 ≤ code && code ≤ 78

-- Only surfaces compressed in blocks of four by four pixels are read.
def dimensions? (bytes : ByteArray) : Option Dimensions := do
  guard ((← le32 bytes 4) = 124)
  let flags ← le32 bytes 8
  guard (flags &&& requiredFlags = requiredFlags && flags ||| knownFlags = knownFlags)
  let height ← le32 bytes 12
  let width ← le32 bytes 16
  guard ((← le32 bytes 76) = 32)
  let pixelFlags ← le32 bytes 80
  let _ ← le32 bytes 124
  guard (pixelFlags &&& 4 = 4)
  let named (name : String) : Bool := (Pattern.ofText name).matchesAt bytes 84
  if named "DX10" then
    let code ← le32 bytes 128
    let kind ← le32 bytes 132
    let _ ← le32 bytes 144
    guard (compressed code && 2 ≤ kind && kind ≤ 4)
  else
    guard (named "DXT1" || named "DXT3" || named "DXT5")
  guard (width % 4 = 0 && height % 4 = 0)
  return ⟨width, height⟩

end Dds

end Gallery.Image
