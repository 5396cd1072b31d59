import Gallery.Image.Format

-- The size of a WebP image, from the first chunk of the file: lossy, lossless or extended. An
-- extended file must also hold the chunks that its flags announce.

namespace Gallery.Image.Webp

private def lossy (bytes : ByteArray) : Option Dimensions := do
  let tag ← le24 bytes 20
  guard (tag % 2 = 0 && tag / 2 % 8 ≤ 3 && tag / 16 % 2 = 1)
  guard ((Pattern.exactly [0x9d, 0x01, 0x2a]).matchesAt bytes 23)
  let width := (← le16 bytes 26) % (1 <<< 14)
  let height := (← le16 bytes 28) % (1 <<< 14)
  guard (0 < width && 0 < height)
  return ⟨width, height⟩

private def lossless (bytes : ByteArray) : Option Dimensions := do
  guard ((← byteAt bytes 20) = 0x2f)
  let header ← le32 bytes 21
  guard (header >>> 29 = 0)
  return ⟨(1 + header) % (1 <<< 14), (1 + (header >>> 14)) % (1 <<< 14)⟩

-- A chunk by name, with where its content begins and how long it is.
private structure Chunk where
  name : List (Option Nat)
  place : Nat
  size : Nat

private def chunkNamed (name : String) (c : Chunk) : Bool :=
  c.name == name.toList.map fun c => some c.toNat

private def nameAt (bytes : ByteArray) (place : Nat) : List (Option Nat) :=
  [byteAt bytes place, byteAt bytes (place + 1), byteAt bytes (place + 2), byteAt bytes (place + 3)]

-- The chunks from a place to a limit, as far as they can be read.
private def chunks (bytes : ByteArray) (limit place : Nat) : Nat → List Chunk
  | 0 => []
  | fuel + 1 =>
    if place < limit then
      match le32 bytes (place + 4) with
      | none => []
      | some size =>
        ⟨nameAt bytes place, place + 8, size⟩
          :: chunks bytes limit (place + 8 + size + size % 2) fuel
    else []

private def extended (bytes : ByteArray) (riffSize chunkSize : Nat) : Option Dimensions := do
  let flags ← byteAt bytes 20
  let width := (← le24 bytes 24) + 1
  let height := (← le24 bytes 27) + 1
  guard (width * height < 1 <<< 32)
  let start := 20 + chunkSize + chunkSize % 2
  let found := chunks bytes (start + (riffSize - 12)) start bytes.size
  let holds (name : String) : Bool := found.any (chunkNamed name)
  let frames := found.filter (chunkNamed "ANMF")
  guard (frames.all fun f => 24 ≤ f.size && (le32 bytes (f.place + 12)).isSome)
  guard (flags &&& 8 = 0 || holds "EXIF")
  guard (flags &&& 4 = 0 || holds "XMP ")
  if flags &&& 2 = 0 then
    guard (holds "VP8 " != holds "VP8L")
  else
    guard (holds "ANIM" && holds "ANMF")
    guard (found.any fun c => chunkNamed "ANIM" c && 6 ≤ c.size && c.place + 6 ≤ bytes.size)
  return ⟨width, height⟩

def dimensions? (bytes : ByteArray) : Option Dimensions := do
  let riffSize ← le32 bytes 4
  let chunkSize ← le32 bytes 16
  let named (name : String) : Bool := (Pattern.ofText name).matchesAt bytes 12
  if named "VP8 " then lossy bytes
  else if named "VP8L" then lossless bytes
  else if named "VP8X" then extended bytes riffSize chunkSize
  else none

end Gallery.Image.Webp
