import Gallery.Image.Format

-- The size of a TIFF image. The first directory must be readable, and what it says of the samples
-- and of where they are stored must be consistent.

namespace Gallery.Image.Tiff

-- A directory entry: what it is about, the kind and number of its values, and the place of
-- the field that holds them or tells where they are.
private structure Entry where
  tag : Nat
  kind : Nat
  count : Nat
  field : Nat

private def entries (bytes : ByteArray) (order : ByteOrder) (place : Nat) :
    Nat → Option (List Entry)
  | 0 => some []
  | count + 1 => do
    let tag ← order.read16 bytes place
    let kind ← order.read16 bytes (place + 2)
    let number ← order.read32 bytes (place + 4)
    let _ ← order.read32 bytes (place + 8)
    return ⟨tag, kind, number, place + 8⟩ :: (← entries bytes order (place + 12) count)

-- The bytes of one value of a kind.
private def kindSize : Nat → Option Nat
  | 1 | 2 | 6 | 7 => some 1
  | 3 | 8 => some 2
  | 4 | 9 | 11 | 13 => some 4
  | 5 | 10 | 12 | 16 | 17 | 18 => some 8
  | _ => none

private def valuesFrom (bytes : ByteArray) (order : ByteOrder) (kind place : Nat) :
    Nat → Option (List Nat)
  | 0 => some []
  | count + 1 => do
    let size ← kindSize kind
    let first ← match size with
      | 1 => byteAt bytes place
      | 2 => order.read16 bytes place
      | 4 => order.read32 bytes place
      | _ => none
    return first :: (← valuesFrom bytes order kind (place + size) count)

-- The whole numbers of an entry: in its field when they fit there, else where it points.
private def values (bytes : ByteArray) (order : ByteOrder) (e : Entry) : Option (List Nat) := do
  let size ← kindSize e.kind
  guard ([1, 3, 4, 13].contains e.kind)
  if size * e.count ≤ 4 then
    valuesFrom bytes order e.kind e.field e.count
  else
    let start ← order.read32 bytes e.field
    guard (start + size * e.count ≤ bytes.size)
    valuesFrom bytes order e.kind start e.count

-- The pixels that an image of one channel, of colors or of inks can be read from.
private def colorsAllowed (photometric samples bits : Nat) : Bool :=
  match photometric with
  | 0 | 1 => (samples = 1 || samples = 2) && [1, 2, 4, 6, 8, 10, 12, 14, 16, 24, 32, 64].contains bits
  | 2 => (samples = 3 || samples = 4) && [8, 16, 32].contains bits
  | 5 => (samples = 4 || samples = 5) && [8, 16].contains bits
  | 6 => samples = 3 && bits = 8
  | _ => false

def dimensions? (bytes : ByteArray) : Option Dimensions := do
  let order : ByteOrder :=
    if (Pattern.ofText "II").matchesAt bytes 0 then .littleEndian else .bigEndian
  let directory ← order.read32 bytes 4
  let count ← order.read16 bytes directory
  let found ← entries bytes order (directory + 2) count
  let _ ← order.read32 bytes (directory + 2 + 12 * count)
  let all (tag : Nat) : Option (Option (List Nat)) :=
    match found.find? (·.tag = tag) with
    | none => some none
    | some e => (values bytes order e).map some
  let one (tag : Nat) : Option (Option Nat) := do
    match ← all tag with
    | none => return none
    | some [n] => return some n
    | some _ => none
  let width ← (← one 256)
  let height ← (← one 257)
  guard (0 < width && 0 < height)
  let photometric ← (← one 262)
  let samples := (← one 277).getD 1
  guard (0 < samples)
  let bits := (← all 258).getD [1]
  let depth ← bits.head?
  guard (bits.length = samples || bits.length = 1)
  guard (bits.all (· = depth))
  guard (colorsAllowed photometric samples depth)
  guard ([1, 2, 3].contains ((← one 317).getD 1))
  let planes ← match (← one 284).getD 1 with
    | 1 => some 1
    | 2 => some samples
    | _ => none
  match ← all 279, ← all 273, ← all 325, ← all 324 with
  | some sizes, some places, none, none =>
    let rows := (← one 278).getD height
    guard (0 < rows && places.length = sizes.length)
    guard (places.length = ((height - 1) / rows + 1) * planes)
    return ⟨width, height⟩
  | none, none, some sizes, some places =>
    let tileWidth ← (← one 322)
    let tileHeight ← (← one 323)
    guard (0 < tileWidth && 0 < tileHeight && places.length = sizes.length)
    guard (places.length
      = ((width + tileWidth - 1) / tileWidth) * ((height + tileHeight - 1) / tileHeight) * planes)
    return ⟨width, height⟩
  | _, _, _, _ => none

end Gallery.Image.Tiff
