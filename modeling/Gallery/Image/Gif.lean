import Gallery.Image.Format

-- The size of a GIF image: that of its screen, when something other than the end of the file
-- follows the screen and its colors.

namespace Gallery.Image.Gif

def dimensions? (bytes : ByteArray) : Option Dimensions := do
  let width ← le16 bytes 6
  let height ← le16 bytes 8
  let flags ← byteAt bytes 10
  let colors := if flags &&& 128 = 0 then 0 else 1 <<< (flags % 8 + 1)
  let block ← byteAt bytes (13 + 3 * colors)
  guard (block ≠ 0x3b)
  return ⟨width, height⟩

end Gallery.Image.Gif
