import Gallery.Http.Multipart
import Gallery.Text.Charset
import Gallery.Upload.Form

-- Upload forms that are sent in parts. There is exactly one image; of several folders or names the
-- last one counts, and parts of other names do not count at all.

namespace Gallery

open Http

inductive FormError where
  | parts (e : MultipartError)
  | secondImage
  | noImage

def FormError.toServiceError : FormError → ServiceError
  | .parts e => .invalidInput ("Invalid multipart body: " ++ e.message)
  | .secondImage => .invalidInput "Only one image may be uploaded per request"
  | .noImage => .invalidInput "Missing 'image' file part"

namespace UploadForm

variable (wide : Text.WideReader)

-- The text of a part, in the character set that its type names.
def partText (head : PartHead) (content : List UInt8) : String :=
  let named := (head.mediaType.bind (·.parameter? "charset")).bind Text.Charset.named?
  (named.getD .utf8).decode wide content

-- The content of an image part with the type that is declared for it.
def partImage (head : PartHead) (content : List UInt8) : UploadPayload :=
  .multipart ⟨content.toArray⟩ (head.mediaType.map (·.written))

-- What the parts so far have given.
structure Draft where
  folder : Option String
  name : Option String
  image : Option UploadPayload

def Draft.take (d : Draft) (head : PartHead) (content : List UInt8) :
    Except FormError Draft :=
  match head.name with
  | some "folder" => .ok { d with folder := some (partText wide head content) }
  | some "name" => .ok { d with name := some (partText wide head content) }
  | some "image" =>
    if d.image.isSome then .error .secondImage
    else .ok { d with image := some (partImage head content) }
  | _ => .ok d

-- A second image is refused before its content is looked at.
def Draft.takeAll (d : Draft) : Parts → Except FormError UploadForm
  | .done =>
    match d.image with
    | some image => .ok ⟨d.folder, d.name, image⟩
    | none => .error .noImage
  | .failed e => .error (.parts e)
  | .cut head =>
    if head.name = some "image" ∧ d.image.isSome then .error .secondImage
    else .error (.parts (.incompletePart head.name))
  | .part head content rest =>
    match d.take wide head content with
    | .ok d => d.takeAll rest
    | .error e => .error e

def ofParts (parts : Parts) : Except FormError UploadForm :=
  Draft.takeAll wide ⟨none, none, none⟩ parts

end UploadForm

end Gallery
