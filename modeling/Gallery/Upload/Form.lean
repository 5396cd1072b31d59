import Gallery.Image.Sniff
import Gallery.Segment
import Gallery.ServiceError
import Gallery.Text.Base64
import Gallery.Word

-- What an upload request asks for, what is read out of it, and why it may be refused.

namespace Gallery

-- The content of an upload as it was received.
inductive UploadPayload where
  -- The file part of a form, with the type that the client declared for it.
  | multipart (bytes : ByteArray) (declaredType : Option String)
  -- Base64 text, perhaps inside a `data:` address.
  | base64 (text : String)

-- Everything that an upload carries besides the identity of the caller.
structure UploadForm where
  folder : Option String
  name : Option String
  payload : UploadPayload

structure DecodedImage where
  bytes : ByteArray
  sniffed : SniffedImage

-- An upload that was accepted and can be given its place.
structure DecodedUpload where
  folder : Folder
  name : Option ImageName
  image : DecodedImage

-- Why a text is not the base64 form of some content.
inductive EncodingError where
  | notBase64Address
  | base64 (cause : Text.Base64.DecodeError)
deriving DecidableEq

inductive CodecError where
  | invalidFolder (raw : String) (reason : SegmentError)
  | invalidName (raw : String) (reason : SegmentError)
  | invalidEncoding (cause : EncodingError)
  | emptyImage
  | tooLarge (size limit : Nat)
  | unsupportedMediaType (contentType : String) (allowed : List String)
  -- No refusal: decoding stops where a number on the way is too large for a word.
  | overflow (cause : Word.Overflow)
deriving DecidableEq

def EncodingError.message : EncodingError → String
  | .notBase64Address => "data URI is not base64 encoded"
  | .base64 (.invalidByte offset byte) => s!"Invalid byte {byte}, offset {offset}."
  | .base64 (.invalidLength _) => "Encoded text cannot have a 6-bit remainder."
  | .base64 (.invalidLastSymbol offset byte) => s!"Invalid last symbol {byte}, offset {offset}."
  | .base64 .invalidPadding => "Invalid padding"

namespace CodecError

def message : CodecError → String
  | .invalidFolder raw reason => "Invalid folder " ++ Text.quoted raw ++ ": " ++ reason.message
  | .invalidName raw reason => "Invalid image name " ++ Text.quoted raw ++ ": " ++ reason.message
  | .invalidEncoding cause => "Image is not valid base64: " ++ cause.message
  | .emptyImage => "Image is empty"
  | .tooLarge size limit => s!"Image too large: {size} bytes (max: {limit} bytes)"
  | .unsupportedMediaType contentType allowed =>
    "Unsupported media type: " ++ contentType ++ " (allowed: " ++ Text.quotedList allowed ++ ")"
  | .overflow cause => cause.message

-- The error of the service that it becomes. Uploads are decoded in tasks of their own, so that a
-- number too large for a word stops the task and not the service.
def toServiceError (task : Nat) (e : CodecError) : ServiceError :=
  match e with
  | .invalidFolder _ _ => .invalidFolder e.message
  | .invalidName _ _ => .invalidPath e.message
  | .invalidEncoding _ => .invalidEncoding e.message
  | .emptyImage => .emptyImage e.message
  | .tooLarge _ _ => .payloadTooLarge e.message
  | .unsupportedMediaType _ _ => .unsupportedMediaType e.message
  | .overflow _ => .internal ("Upload decode task failed: task " ++ toString task ++
      " panicked with message " ++ Text.quoted e.message)

end CodecError

end Gallery
