import Gallery.Image.Format

-- The size of an OpenEXR image: the display window of the first part that has the channels red,
-- green and blue. Each part is described by named attributes.

namespace Gallery.Image.OpenExr

private structure Attribute where
  name : List Nat
  kind : List Nat
  place : Nat
  size : Nat

-- A text that ends with a zero byte, and where reading goes on.
private def textAt (bytes : ByteArray) (place : Nat) : Nat → Option (List Nat × Nat)
  | 0 => none
  | fuel + 1 => do
    let b ← byteAt bytes place
    if b = 0 then return ([], place + 1)
    let (rest, next) ← textAt bytes (place + 1) fuel
    return (b :: rest, next)

private def codes (s : String) : List Nat := s.toList.map Char.toNat

-- The attributes of one part, and where reading goes on.
private def attributes (bytes : ByteArray) (place : Nat) : Nat → Option (List Attribute × Nat)
  | 0 => none
  | fuel + 1 => do
    if (← byteAt bytes place) = 0 then return ([], place + 1)
    let (name, next) ← textAt bytes place 256
    let (kind, next) ← textAt bytes next 256
    let size ← le32 bytes next
    guard (next + 4 + size ≤ bytes.size)
    let (rest, last) ← attributes bytes (next + 4 + size) fuel
    return (⟨name, kind, next + 4, size⟩ :: rest, last)

private def channelNames (bytes : ByteArray) (place : Nat) : Nat → Option (List (List Nat))
  | 0 => none
  | fuel + 1 => do
    if (← byteAt bytes place) = 0 then return []
    let (name, next) ← textAt bytes place 256
    let _ ← le32 bytes (next + 12)
    return name :: (← channelNames bytes (next + 16) fuel)

-- What a part is: its size, and whether it has the three colors.
private def part (bytes : ByteArray) (found : List Attribute) : Option (Dimensions × Bool) := do
  let named (name kind : String) : Option Attribute :=
    found.find? fun a => a.name == codes name && a.kind == codes kind
  let channels ← named "channels" "chlist"
  let _ ← named "compression" "compression"
  let _ ← named "dataWindow" "box2i"
  let window ← named "displayWindow" "box2i"
  let _ ← named "lineOrder" "lineOrder"
  let _ ← named "pixelAspectRatio" "float"
  let _ ← named "screenWindowCenter" "v2f"
  let _ ← named "screenWindowWidth" "float"
  let names ← channelNames bytes channels.place bytes.size
  let left ← leInt32 bytes window.place
  let top ← leInt32 bytes (window.place + 4)
  let right ← leInt32 bytes (window.place + 8)
  let bottom ← leInt32 bytes (window.place + 12)
  guard (left ≤ right && top ≤ bottom)
  let colors := ["R", "G", "B"].all fun c => names.contains (codes c)
  return (⟨(right - left + 1).toNat, (bottom - top + 1).toNat⟩, colors)

private def parts (bytes : ByteArray) (place : Nat) : Nat → Option (List (Dimensions × Bool))
  | 0 => none
  | fuel + 1 => do
    if (← byteAt bytes place) = 0 then return []
    let (found, next) ← attributes bytes place bytes.size
    return (← part bytes found) :: (← parts bytes next fuel)

def dimensions? (bytes : ByteArray) : Option Dimensions := do
  guard ((← byteAt bytes 4) = 2)
  let flags ← byteAt bytes 5
  let _ ← le16 bytes 6
  let multiple := flags / 16 % 2 = 1
  let found ←
    if multiple then parts bytes 8 bytes.size
    else do
      let (found, _) ← attributes bytes 8 bytes.size
      pure [← part bytes found]
  return (← found.find? (·.2)).1

end Gallery.Image.OpenExr
