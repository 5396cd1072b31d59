import Gallery.Image.Format
import Gallery.Text.Blank
import Gallery.Text.Number
import Gallery.Text.Utf8

-- The size of a Radiance image. Its header is lines of text: attributes up to an empty line, and
-- then the size with the directions in which the pixels run.

namespace Gallery.Image.Radiance

-- The line that begins at a place, and where the next one does; none at the end.
private def lineAt (bytes : ByteArray) (place : Nat) : Option (String × Nat) :=
  if place < bytes.size then
    let length := ((bytes.extract place bytes.size).data.findIdx? (· == 10)).getD (bytes.size - place)
    some (Text.lossy (bytes.extract place (place + length)), place + length + 1)
  else none

private def words (s : String) : List String :=
  ((s.toList.splitBy fun a b => Text.isBlank a == Text.isBlank b).filter fun w =>
    !(w.head?.any Text.isBlank)).map String.ofList

private def isNumber (s : String) : Bool := Text.isDecimalNumber (Text.trim s).toList

-- The attributes that matter must be readable; any other is passed over.
private def attributeFits (line : String) : Bool :=
  let key := line.toList.takeWhile (· != '=')
  let value := String.ofList (line.toList.drop (key.length + 1))
  if key.length = line.length then true
  else match Text.trim (String.ofList key) with
    | "FORMAT" => Text.trim value == "32-bit_rle_rgbe"
    | "EXPOSURE" | "PIXASPECT" => isNumber value
    | "COLORCORR" => (words value).length = 3 && (words value).all isNumber
    | _ => true

private def afterHeader (bytes : ByteArray) (place : Nat) : Nat → Option Nat
  | 0 => none
  | fuel + 1 => do
    let (line, next) ← lineAt bytes place
    if line.isEmpty then return next
    guard (line.toList.head? == some '#' || attributeFits line)
    afterHeader bytes next fuel

def dimensions? (bytes : ByteArray) : Option Dimensions := do
  let (_, start) ← lineAt bytes 10
  let (line, _) ← lineAt bytes (← afterHeader bytes start bytes.size)
  match words line with
  | ["-Y", height, "+X", width] =>
    let width ← Text.naturalBelow? (1 <<< 32) width.toList
    let height ← Text.naturalBelow? (1 <<< 32) height.toList
    guard (width * height ≤ ((1 <<< 64) - 1) / 3)
    return ⟨width, height⟩
  | _ => none

end Gallery.Image.Radiance
