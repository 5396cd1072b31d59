import Gallery.Address
import Gallery.ServiceError
import Gallery.Time.Instant
import Gallery.Uuid

-- From the words of a request to an address. The words are checked before any store is asked, the
-- owner first, then the folder and then the name.

namespace Gallery

-- How a coordinate is called in messages.
def Coordinate.shown : Coordinate → String
  | .owner => "owner"
  | .folder => "folder"
  | .name => "image name"

-- The error of a word of a request path that is no segment.
def SegmentError.toServiceError (role : Coordinate) (raw : String) (e : SegmentError) :
    ServiceError :=
  .invalidPath ("invalid " ++ role.shown ++ " " ++ Text.quoted raw ++ ": " ++ e.message)

-- A word of a request path as a segment.
def Segment.ofPath (role : Coordinate) (raw : String) : Except ServiceError (Segment role) :=
  (Segment.parse role raw).mapError (SegmentError.toServiceError role raw)

def ImageAddress.ofPath (owner folder name : String) : Except ServiceError ImageAddress := do
  let owner ← Segment.ofPath .owner owner
  let folder ← Segment.ofPath .folder folder
  let name ← Segment.ofPath .name name
  return ⟨owner, folder, name⟩

def FolderAddress.ofPath (owner folder : String) : Except ServiceError FolderAddress := do
  let owner ← Segment.ofPath .owner owner
  let folder ← Segment.ofPath .folder folder
  return ⟨owner, folder⟩

namespace ImageName

-- The letters and digits of an extension, in lower case.
def cleanExtension (extension : String) : List Char :=
  (extension.toList.filter Char.isAlphanum).map Char.toLower

-- How many digits of an identifier a generated name has.
def randomDigits : Nat := 16

-- The name for an upload that came without one: the time to the millisecond and random digits,
-- then the extension if anything is left of it.
def generated (now : Instant) (random : Uuid) (extension : String) : String :=
  let stem := now.stamp ++ '-' :: random.digits.take randomDigits
  match cleanExtension extension with
  | [] => String.ofList stem
  | letters => String.ofList (stem ++ '.' :: letters)

end ImageName

-- The address of an upload, whose name is generated if it came without one.
def ImageAddress.forUpload (owner : Owner) (folder : Folder) (name : Option ImageName)
    (extension : String) (now : Instant) (random : Uuid) : Except ServiceError ImageAddress :=
  match name with
  | some name => .ok ⟨owner, folder, name⟩
  | none =>
    let generated := ImageName.generated now random extension
    match Segment.parse .name generated with
    | .ok name => .ok ⟨owner, folder, name⟩
    | .error e =>
      .error (.internal ("generated name " ++ Text.quoted generated ++ ": " ++ e.message))

end Gallery
