import Gallery.Image.Format
import Gallery.Text.Blank
import Gallery.Text.Number
import Gallery.Text.Utf8

-- The size of a portable anymap. The older kinds begin with numbers between blanks and comments;
-- the newest begins with lines that name what they say.

namespace Gallery.Image.Pnm

private def isSpace (b : UInt8) : Bool := b == 32 || (9 ≤ b && b ≤ 13)

-- The next word, with comments passed over, and where reading goes on.
private def wordAt (bytes : ByteArray) (inComment : Bool) (word : List Char) (place : Nat) :
    Nat → Option (List Char × Nat)
  | 0 => none
  | fuel + 1 =>
    match bytes[place]? with
    | none => if word.isEmpty then none else some (word.reverse, place)
    | some b =>
      if inComment then
        wordAt bytes (!(b == 13 || b == 10)) word (place + 1) fuel
      else if b == 35 then
        wordAt bytes true word (place + 1) fuel
      else if isSpace b then
        if word.isEmpty then wordAt bytes false word (place + 1) fuel
        else some (word.reverse, place + 1)
      else if b < 128 then
        wordAt bytes false (Char.ofNat b.toNat :: word) (place + 1) fuel
      else none

private def numberAt (bytes : ByteArray) (place : Nat) : Option (Nat × Nat) := do
  let (word, next) ← wordAt bytes false [] place (bytes.size + 1)
  return (← Text.naturalBelow? (1 <<< 32) word, next)

-- The sizes of an image whose pixels could not be counted are not given.
private def bounded (width height pixelBytes : Nat) : Option Dimensions := do
  guard (width * height ≤ ((1 <<< 64) - 1) / pixelBytes)
  return ⟨width, height⟩

private def plain (bytes : ByteArray) (hasMaximum : Bool) (samples : Nat) : Option Dimensions := do
  let (width, next) ← numberAt bytes 2
  let (height, next) ← numberAt bytes next
  if hasMaximum then
    let (maximum, _) ← numberAt bytes next
    guard (maximum ≤ 65535)
    bounded width height (if maximum ≤ 255 then samples else 2 * samples)
  else
    bounded width height samples

-- What the lines of the newest kind have said so far.
private structure Header where
  width : Option Nat := none
  height : Option Nat := none
  depth : Option Nat := none
  maximum : Option Nat := none
  tuple : Option String := none

private def lineAt (bytes : ByteArray) (place : Nat) : Option (ByteArray × Nat) :=
  if place < bytes.size then
    let length := ((bytes.extract place bytes.size).data.findIdx? (· == 10)).getD (bytes.size - place)
    some (bytes.extract place (place + length + 1), place + length + 1)
  else none

private def single (old : Option Nat) (rest : String) : Option (Option Nat) := do
  guard old.isNone
  return some (← Text.naturalBelow? (1 <<< 32) (Text.trim rest).toList)

private def headerFrom (bytes : ByteArray) (h : Header) (place : Nat) : Nat → Option Header
  | 0 => none
  | fuel + 1 => do
    let (line, next) ← lineAt bytes place
    if line.data[0]? = some 35 then headerFrom bytes h next fuel
    else
      guard (line.data.all (· < 128))
      let line := (Text.lossy line).toList
      let (name, rest) := (line.dropWhile Text.isBlank).span (!Text.isBlank ·)
      let rest := String.ofList rest
      match String.ofList name with
      | "ENDHDR" => return h
      | "WIDTH" => headerFrom bytes { h with width := ← single h.width rest } next fuel
      | "HEIGHT" => headerFrom bytes { h with height := ← single h.height rest } next fuel
      | "DEPTH" => headerFrom bytes { h with depth := ← single h.depth rest } next fuel
      | "MAXVAL" => headerFrom bytes { h with maximum := ← single h.maximum rest } next fuel
      | "TUPLTYPE" =>
        let tuple := match h.tuple with
          | none => Text.trim rest
          | some old => old ++ " " ++ Text.trim rest
        headerFrom bytes { h with tuple := some tuple } next fuel
      | _ => none

private def named (bytes : ByteArray) : Option Dimensions := do
  guard (bytes[2]? = some 10)
  let h ← headerFrom bytes {} 3 bytes.size
  let width ← h.width
  let height ← h.height
  let depth ← h.depth
  let maximum ← h.maximum
  guard (maximum ≤ 65535)
  let samples ← match h.tuple with
    | none => if depth = 1 || depth = 3 then some depth else none
    | some "BLACKANDWHITE" => if depth = 1 && maximum = 1 then some 1 else none
    | some "GRAYSCALE" => if depth = 1 then some 1 else none
    | some "RGB" => if depth = 3 then some 3 else none
    | _ => none
  bounded width height (if maximum ≤ 255 then samples else 2 * samples)

def dimensions? (bytes : ByteArray) : Option Dimensions := do
  match ← byteAt bytes 1 with
  | 49 | 52 => plain bytes false 1
  | 50 | 53 => plain bytes true 1
  | 51 | 54 => plain bytes true 3
  | _ => named bytes

end Gallery.Image.Pnm
