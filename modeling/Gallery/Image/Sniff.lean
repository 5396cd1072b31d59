import Gallery.Image.FixedHeader
import Gallery.Image.Gif
import Gallery.Image.Ico
import Gallery.Image.Jpeg
import Gallery.Image.OpenExr
import Gallery.Image.Pnm
import Gallery.Image.Radiance
import Gallery.Image.Tiff
import Gallery.Image.Webp

-- What the content of an upload is: its format by its first bytes, and its size when the header
-- can be read. Pixels are never looked at.

namespace Gallery

structure SniffedImage where
  format : ImageFormat
  dimensions : Option Dimensions
deriving DecidableEq, Repr

namespace SniffedImage

def contentType (s : SniffedImage) : String := s.format.contentType

def extension (s : SniffedImage) : String := s.format.extension

end SniffedImage

namespace ImageFormat

-- The size that the header of an image in this format gives.
def dimensions? (bytes : ByteArray) : ImageFormat → Option Dimensions
  | .png => Image.Png.dimensions? bytes
  | .jpeg => Image.Jpeg.dimensions? bytes
  | .gif => Image.Gif.dimensions? bytes
  | .webp => Image.Webp.dimensions? bytes
  | .tiff => Image.Tiff.dimensions? bytes
  | .dds => Image.Dds.dimensions? bytes
  | .bmp => Image.Bmp.dimensions? bytes
  | .ico => Image.Ico.dimensions? bytes
  | .radiance => Image.Radiance.dimensions? bytes
  | .avif => none
  | .openExr => Image.OpenExr.dimensions? bytes
  | .qoi => Image.Qoi.dimensions? bytes
  | .pnm => Image.Pnm.dimensions? bytes
  | .farbfeld => Image.Farbfeld.dimensions? bytes

end ImageFormat

-- The format and size of the image that the bytes are, or none if they are no image.
def sniff (bytes : ByteArray) : Option SniffedImage :=
  (ImageFormat.recognize bytes).map fun format => ⟨format, format.dimensions? bytes⟩

end Gallery
