import Gallery.Image.Fields

-- The image formats that are told apart by their first bytes, with the content type and the file
-- extension that go with each.

namespace Gallery

inductive ImageFormat where
  | png
  | jpeg
  | gif
  | webp
  | tiff
  | dds
  | bmp
  | ico
  | radiance
  | avif
  | openExr
  | qoi
  | pnm
  | farbfeld
deriving DecidableEq, Repr

namespace ImageFormat

def contentType : ImageFormat → String
  | .png => "image/png"
  | .jpeg => "image/jpeg"
  | .gif => "image/gif"
  | .webp => "image/webp"
  | .tiff => "image/tiff"
  | .dds => "image/vnd-ms.dds"
  | .bmp => "image/bmp"
  | .ico => "image/x-icon"
  | .radiance => "image/vnd.radiance"
  | .avif => "image/avif"
  | .openExr => "image/x-exr"
  | .qoi => "image/x-qoi"
  | .pnm => "image/x-portable-anymap"
  | .farbfeld => "application/octet-stream"

def extension : ImageFormat → String
  | .png => "png"
  | .jpeg => "jpg"
  | .gif => "gif"
  | .webp => "webp"
  | .tiff => "tiff"
  | .dds => "dds"
  | .bmp => "bmp"
  | .ico => "ico"
  | .radiance => "hdr"
  | .avif => "avif"
  | .openExr => "exr"
  | .qoi => "qoi"
  | .pnm => "pbm"
  | .farbfeld => "ff"

open Image (Pattern)

private def anyTwo : Pattern := [none, none]

-- What images of each format begin with, in the order in which the formats are tried.
def signatures : List (Pattern × ImageFormat) :=
  [ (.exactly [0x89, 0x50, 0x4e, 0x47, 0x0d, 0x0a, 0x1a, 0x0a], .png),
    (.exactly [0xff, 0xd8, 0xff], .jpeg),
    (.ofText "GIF89a", .gif),
    (.ofText "GIF87a", .gif),
    (.ofText "RIFF" ++ anyTwo ++ anyTwo ++ .ofText "WEBP", .webp),
    (.exactly [0x4d, 0x4d, 0x00, 0x2a], .tiff),
    (.exactly [0x49, 0x49, 0x2a, 0x00], .tiff),
    (.ofText "DDS ", .dds),
    (.ofText "BM", .bmp),
    (.exactly [0x00, 0x00, 0x01, 0x00], .ico),
    (.ofText "#?RADIANCE", .radiance),
    (.exactly [0x00, 0x00] ++ anyTwo ++ .ofText "ftypavif", .avif),
    (.exactly [0x76, 0x2f, 0x31, 0x01], .openExr),
    (.ofText "qoif", .qoi),
    (.ofText "P1", .pnm),
    (.ofText "P2", .pnm),
    (.ofText "P3", .pnm),
    (.ofText "P4", .pnm),
    (.ofText "P5", .pnm),
    (.ofText "P6", .pnm),
    (.ofText "P7", .pnm),
    (.ofText "farbfeld", .farbfeld) ]

-- The first format whose signature the bytes begin with.
def recognize (bytes : ByteArray) : Option ImageFormat :=
  (signatures.find? fun s => s.1.matchesAt bytes 0).map (·.2)

end ImageFormat

structure Dimensions where
  width : Nat
  height : Nat
deriving DecidableEq, Repr

end Gallery
