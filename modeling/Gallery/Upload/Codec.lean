import Gallery.Text.Blank
import Gallery.Text.LetterCase
import Gallery.Upload.Form
import Gallery.Word

-- From an upload request to an accepted image. The checks run in a fixed order, and the first that
-- fails decides: folder, name, encoding, emptiness, size, content type. Both kinds of payload
-- share all checks but the encoding.

namespace Gallery

structure ImageCodec where
  defaultFolder : Folder
  maxImageBytes : Nat
  allowedTypes : List String

namespace ImageCodec

-- The content types are compared without blanks around them and in lower case.
def new (defaultFolder : Folder) (maxImageBytes : Nat) (contentTypes : List String) : ImageCodec :=
  ⟨defaultFolder, maxImageBytes, contentTypes.map fun t => Text.lower (Text.trim t)⟩

-- A blank folder is the default one.
def folder (codec : ImageCodec) (raw : Option String) : Except CodecError Folder :=
  match raw.filter fun f => !(Text.trim f).isEmpty with
  | none => .ok codec.defaultFolder
  | some raw => (Segment.parse .folder raw).mapError (.invalidFolder raw)

-- An empty name is none.
def name (raw : Option String) : Except CodecError (Option ImageName) :=
  match raw.filter fun n => !n.isEmpty with
  | none => .ok none
  | some raw => ((Segment.parse .name raw).mapError (.invalidName raw)).map some

-- What follows the first place where a text begins with `mark`.
def afterMark (mark : List Char) : List Char → Option (List Char)
  | [] => none
  | c :: rest =>
    if mark.isPrefixOf (c :: rest) then some ((c :: rest).drop mark.length)
    else afterMark mark rest

-- The base64 text in a payload: what a `data:` address carries, or the payload itself.
def encodedPart (text : String) : Except EncodingError (List Char) :=
  match Text.trimChars text.toList with
  | 'd' :: 'a' :: 't' :: 'a' :: ':' :: rest =>
    match afterMark ";base64,".toList rest with
    | some encoded => .ok encoded
    | none => .error .notBase64Address
  | encoded => .ok encoded

-- The longest base64 text without line breaks that is decoded: four symbols for every three
-- bytes of the limit, and one group more.
def maxEncoded (maxImageBytes : Nat) : Except Word.Overflow Nat := do
  Word.add (← Word.mul ((maxImageBytes + 2) / 3) 4) 4

-- A text of this many bytes is refused before it is decoded: it is longer than the limit
-- allows with a line break after every 76 bytes.
def overGuard (maxImageBytes length : Nat) : Except Word.Overflow Bool := do
  let bound ← maxEncoded maxImageBytes
  let breaks ← Word.mul (length / 76) 2
  return Word.saturate (bound + breaks) < length

-- The size that a text is then told to have.
def encodedSize (length : Nat) : Except Word.Overflow Nat := Word.mul (length / 4) 3

-- How many bytes a text has. There are no texts with more bytes than a word can count.
def textLength (text : String) : Nat := Word.saturate text.utf8ByteSize

def decodeBase64 (codec : ImageCodec) (text : String) : Except CodecError ByteArray := do
  let encoded ← (encodedPart text).mapError .invalidEncoding
  let length := textLength (String.ofList encoded)
  if ← (overGuard codec.maxImageBytes length).mapError .overflow then
    let size ← (encodedSize length).mapError .overflow
    .error (.tooLarge size codec.maxImageBytes)
  else
    let compact := encoded.filter fun c => c != '\r' && c != '\n'
    match Text.Base64.decode (compact.flatMap String.utf8EncodeChar) with
    | .ok bytes => .ok ⟨bytes.toArray⟩
    | .error e => .error (.invalidEncoding (.base64 e))

-- The content of a payload, with the type that was declared for it.
def content (codec : ImageCodec) : UploadPayload → Except CodecError (ByteArray × Option String)
  | .multipart bytes declaredType => .ok (bytes, declaredType)
  | .base64 text => (codec.decodeBase64 text).map fun bytes => (bytes, none)

-- Content of an allowed size and type, whatever type was declared for it.
def image (codec : ImageCodec) (bytes : ByteArray) (declaredType : Option String) :
    Except CodecError DecodedImage :=
  if bytes.isEmpty then .error .emptyImage
  else if codec.maxImageBytes < bytes.size then
    .error (.tooLarge bytes.size codec.maxImageBytes)
  else match sniff bytes with
    | none => .error (.unsupportedMediaType (declaredType.getD "unknown") codec.allowedTypes)
    | some sniffed =>
      if codec.allowedTypes.contains sniffed.contentType then .ok ⟨bytes, sniffed⟩
      else .error (.unsupportedMediaType sniffed.contentType codec.allowedTypes)

def decode (codec : ImageCodec) (form : UploadForm) : Except CodecError DecodedUpload := do
  let folder ← codec.folder form.folder
  let name ← name form.name
  let (bytes, declaredType) ← codec.content form.payload
  let image ← codec.image bytes declaredType
  return ⟨folder, name, image⟩

end ImageCodec

end Gallery
