import Gallery.Image.Format

-- The size of a JPEG image. The segments are read up to the start of the first scan, and each of
-- them must be well formed; the size is that of the frame.

namespace Gallery.Image.Jpeg

-- What a frame segment says: the size of the image and the components it is made of.
private structure Frame where
  size : Dimensions
  components : List Nat

-- The sampling factors of a component: each a power of two.
private def samplingAllowed (factor : Nat) : Bool := [1, 2, 4, 8].contains factor

private def componentsFrom (bytes : ByteArray) (place : Nat) : Nat → Option (List Nat)
  | 0 => some []
  | count + 1 => do
    let id ← byteAt bytes place
    let sampling ← byteAt bytes (place + 1)
    let table ← byteAt bytes (place + 2)
    guard (samplingAllowed (sampling / 16) && samplingAllowed (sampling % 16) && table < 4)
    return id :: (← componentsFrom bytes (place + 3) count)

private def frameAt (bytes : ByteArray) (place : Nat) : Option Frame := do
  let length ← be16 bytes place
  guard ((← byteAt bytes (place + 2)) = 8)
  let height ← be16 bytes (place + 3)
  let width ← be16 bytes (place + 5)
  guard (0 < width && 0 < height)
  let count ← byteAt bytes (place + 7)
  guard (0 < count && count ≤ 4 && length = 8 + 3 * count)
  return ⟨⟨width, height⟩, ← componentsFrom bytes (place + 8) count⟩

-- The tables of a quantization segment fill it exactly.
private def quantizationFits (bytes : ByteArray) (place left : Nat) : Nat → Option Unit
  | 0 => none
  | fuel + 1 =>
    if left = 0 then some () else do
      let info ← byteAt bytes place
      let size := 1 + 64 * (info / 16 + 1)
      guard (size ≤ left && info / 16 ≤ 1 && info % 16 < 4 && place + size ≤ bytes.size)
      quantizationFits bytes (place + size) (left - size) fuel

-- The counts of codes of the lengths 1 to 16 leave the code of all ones unused.
private def codesFit (counts : List Nat) : Bool :=
  let rec go (code limit : Nat) : List Nat → Bool
    | [] => true
    | n :: rest => code + n < limit && go (2 * (code + n)) (2 * limit) rest
  go 0 2 counts

private def bytesFrom (bytes : ByteArray) (place : Nat) : Nat → Option (List Nat)
  | 0 => some []
  | count + 1 => do
    let b ← byteAt bytes place
    return b :: (← bytesFrom bytes (place + 1) count)

-- The tables of a Huffman segment fill it exactly.
private def huffmanFits (bytes : ByteArray) (place left : Nat) : Nat → Option Unit
  | 0 => none
  | fuel + 1 =>
    if left ≤ 16 then guard (left = 0) else do
      let info ← byteAt bytes place
      guard (info % 16 < 4 && info / 16 ≤ 1)
      let counts ← bytesFrom bytes (place + 1) 16
      let symbols := counts.sum
      guard (symbols ≤ 256 && symbols ≤ left - 17)
      let values ← bytesFrom bytes (place + 17) symbols
      guard (codesFit counts && (info / 16 = 1 || values.all (· ≤ 15)))
      huffmanFits bytes (place + 17 + symbols) (left - 17 - symbols) fuel

private def scanComponents (bytes : ByteArray) (known seen : List Nat) (place : Nat) :
    Nat → Option Unit
  | 0 => some ()
  | count + 1 => do
    let id ← byteAt bytes place
    let _ ← byteAt bytes (place + 1)
    guard (!seen.contains id && known.contains id)
    scanComponents bytes known (id :: seen) (place + 2) count

private def scanFits (bytes : ByteArray) (frame : Frame) (place : Nat) : Option Unit := do
  let length ← be16 bytes place
  let count ← byteAt bytes (place + 2)
  guard (length = 6 + 2 * count && 0 < count && count < 5)
  scanComponents bytes frame.components [] (place + 3) count
  let rest := place + 3 + 2 * count
  guard ((← byteAt bytes rest) ≤ 63 && (← byteAt bytes (rest + 1)) ≤ 63)
  let approximation ← byteAt bytes (rest + 2)
  guard (approximation / 16 ≤ 13 && approximation % 16 ≤ 13)

private def afterSegment (bytes : ByteArray) (place : Nat) : Option Nat := do
  let length ← be16 bytes place
  guard (2 ≤ length)
  return place + length

-- The segment of a marker whose content begins at a place: what is known of the frame after
-- it, and where it ends.
private def segment (bytes : ByteArray) (frame : Option Frame) (marker place : Nat) :
    Option (Option Frame × Nat) := do
  if 0xc0 ≤ marker && marker ≤ 0xc2 then
    guard frame.isNone
    let found ← frameAt bytes place
    return (some found, place + 8 + 3 * found.components.length)
  else if marker = 0xdb then
    let length ← be16 bytes place
    guard (2 ≤ length)
    quantizationFits bytes (place + 2) (length - 2) bytes.size
    return (frame, place + length)
  else if marker = 0xc4 then
    let length ← be16 bytes place
    guard (2 ≤ length)
    huffmanFits bytes (place + 2) (length - 2) bytes.size
    return (frame, place + length)
  else if marker = 0xdd then
    guard ((← be16 bytes place) = 4)
    let _ ← be16 bytes (place + 2)
    return (frame, place + 4)
  else if marker = 0xee then
    let next ← afterSegment bytes place
    if (Pattern.ofText "Adobe").matchesAt bytes (place + 2) then
      guard ((← byteAt bytes (place + 13)) ≤ 2)
    return (frame, next)
  else if marker = 0xe1 then
    let next ← afterSegment bytes place
    guard (next ≤ bytes.size)
    return (frame, next)
  else
    -- other frames, the end of the image, arithmetic coding and late heights are not read
    guard (!([0xd9, 0xcc, 0xdc].contains marker || (0xc3 ≤ marker && marker ≤ 0xcf)))
    return (frame, ← afterSegment bytes place)

private def readBytes (bytes : ByteArray) (frame : Option Frame) (last place : Nat) :
    Nat → Option Dimensions
  | 0 => none
  | fuel + 1 => do
    let m ← byteAt bytes place
    if (m = 0xff || m = 0) && last = 0xff then
      let (last, m, place) ← skipFill place m fuel
      step last m place fuel
    else
      step last m place fuel
where
  -- Bytes that fill the space before a marker; the last of them and what follows.
  skipFill (place m : Nat) : Nat → Option (Nat × Nat × Nat)
    | 0 => none
    | fuel + 1 => do
      let next ← byteAt bytes (place + 1)
      if next = 0xff || next = 0 then skipFill (place + 1) next fuel
      else return (m, next, place + 1)
  step (last m place : Nat) (fuel : Nat) : Option Dimensions := do
    if last = 0xff then
      if m = 0xda then
        let found ← frame
        scanFits bytes found (place + 1)
        return found.size
      else
        let (frame, next) ← segment bytes frame m (place + 1)
        readBytes bytes frame m next fuel
    else
      readBytes bytes frame m (place + 1) fuel

def dimensions? (bytes : ByteArray) : Option Dimensions :=
  readBytes bytes none 0 2 bytes.size

end Gallery.Image.Jpeg
