import Gallery.Text.Utf8

-- The form of a stored image as a file: a mark, the length of the content type in two bytes, the
-- content type, and then the content as it is.

namespace Gallery.Envelope

-- What every stored file begins with.
def magic : List UInt8 := [70, 79, 76, 73, 79, 1]

-- The mark and the length after it.
def fixedSize : Nat := 8

-- The longest content type, in bytes: what two bytes can count.
def maxContentType : Nat := 65535

inductive Fault where
  | noHeader
  | truncatedHeader
  | truncated
  | notUtf8
deriving DecidableEq, Repr

def Fault.message : Fault → String
  | .noHeader => "has no object header"
  | .truncatedHeader => "has a truncated header"
  | .truncated => "is truncated"
  | .notUtf8 => "has a non UTF-8 content type"

-- The file for some content, unless its content type is too long.
def encode (contentType : String) (content : ByteArray) : Option ByteArray :=
  let length := contentType.utf8ByteSize
  if maxContentType < length then none
  else
    let header := magic ++ [(length / 256).toUInt8, (length % 256).toUInt8]
    some (⟨header.toArray⟩ ++ contentType.toUTF8 ++ content)

-- The length of the content type, from the first bytes of a file.
def contentTypeLength (file : ByteArray) : Except Fault Nat :=
  if file.size < fixedSize || (file.extract 0 magic.length).data.toList ≠ magic then
    .error .noHeader
  else
    .ok (256 * (file[6]?.getD 0).toNat + (file[7]?.getD 0).toNat)

-- The content type and the content of a file.
def decode (file : ByteArray) : Except Fault (String × ByteArray) := do
  let length ← contentTypeLength file
  let start := fixedSize + length
  if file.size < start then .error .truncatedHeader
  else match Text.ofUtf8? (file.extract fixedSize start) with
    | none => .error .notUtf8
    | some contentType => .ok (contentType, file.extract start file.size)

-- The content type and the size of the content, of which nothing is read.
def readHeader (file : ByteArray) : Except Fault (String × Nat) := do
  if file.size < fixedSize then .error .truncated
  else
    let length ← contentTypeLength file
    let start := fixedSize + length
    if file.size < start then .error .truncated
    else match Text.ofUtf8? (file.extract fixedSize start) with
      | none => .error .notUtf8
      | some contentType => .ok (contentType, file.size - start)

end Gallery.Envelope
