import Gallery.Image.Format

-- The size of a bitmap image. The file header says nothing that is needed; the header after it
-- comes in several sizes, and the color masks and the palette that it announces must be there.

namespace Gallery.Image.Bmp

private inductive Storage where
  | palette
  | runs
  | direct
  | masked

private def storage (bits compression : Nat) : Option Storage :=
  match compression with
  | 0 =>
    if [1, 2, 4, 8].contains bits then some .palette
    else if [16, 24, 32].contains bits then some .direct
    else none
  | 1 => if bits = 8 then some .runs else none
  | 2 => if bits = 4 then some .runs else none
  | 3 => if bits = 16 || bits = 32 then some .masked else none
  | _ => none

-- A mask has its bits in one run that ends within the pixel.
private def maskFits (mask bits : Nat) : Bool :=
  let rec trim (m : Nat) : Nat → Nat
    | 0 => m
    | n + 1 => if m % 2 = 0 then trim (m / 2) n else m
  mask = 0 || ((trim mask 32 + 1).isPowerOfTwo && mask < 1 <<< bits)

private def masksFit (bytes : ByteArray) (place bits : Nat) (alpha : Bool) : Option Unit := do
  let red ← le32 bytes place
  let green ← le32 bytes (place + 4)
  let blue ← le32 bytes (place + 8)
  let opacity ← if alpha then le32 bytes (place + 12) else some 0
  guard ([red, green, blue, opacity].all fun m => maskFits m bits)
  guard ([red, green, blue].all (· ≠ 0))

-- The palette that begins at a place is there, one entry after the other.
private def paletteFits (bytes : ByteArray) (place bits used entry : Nat) : Option Unit := do
  let colors := if used = 0 then 1 <<< bits else used
  guard (colors ≤ 1 <<< bits)
  guard (place + entry * min colors 256 ≤ bytes.size)

-- The size that the header at a place gives, for a header of a known length.
private def sizeFrom (bytes : ByteArray) (place : Nat) : Option Dimensions := do
  let length ← le32 bytes place
  if length = 12 then
    let width ← le16 bytes (place + 4)
    let height ← le16 bytes (place + 6)
    guard (0 < width && 0 < height)
    guard ((← le16 bytes (place + 8)) = 1)
    let bits ← le16 bytes (place + 10)
    guard ([1, 4, 8, 24].contains bits)
    if bits ≠ 24 then paletteFits bytes (place + 12) bits 0 3
    return ⟨width, height⟩
  else
    guard ([40, 52, 56, 108, 124].contains length)
    let width ← leInt32 bytes (place + 4)
    let height ← leInt32 bytes (place + 8)
    guard (0 < width && width ≤ 65535 && height ≠ 0 && height ≤ 65535 && height ≠ -0x80000000)
    guard ((← le16 bytes (place + 12)) = 1)
    let bits ← le16 bytes (place + 14)
    let compression ← le32 bytes (place + 16)
    guard (0 < height || compression = 0 || compression = 3)
    let kind ← storage bits compression
    let used ← le32 bytes (place + 32)
    let _ ← le32 bytes (place + 36)
    match kind with
    | .masked => masksFit bytes (place + 40) bits (56 ≤ length)
    | .palette | .runs => paletteFits bytes (place + length) bits used 4
    | .direct => pure ()
    return ⟨width.toNat, height.natAbs⟩

def dimensions? (bytes : ByteArray) : Option Dimensions := do
  let _ ← le32 bytes 10
  sizeFrom bytes 14

-- The size of a bitmap in an icon: it has no file header, and its height counts the mask
-- under the picture too.
def iconDimensions? (bytes : ByteArray) : Option Dimensions :=
  (sizeFrom bytes 0).map fun d => ⟨d.width, d.height / 2⟩

end Gallery.Image.Bmp
