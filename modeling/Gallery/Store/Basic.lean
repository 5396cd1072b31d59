import Gallery.Address
import Gallery.Listing
import Gallery.ServiceError
import Gallery.Store.SystemError

-- What every store of images has in common: what is kept, and what may go wrong.

namespace Gallery

structure StoredImage where
  content : ByteArray
  contentType : String
  lastModified : Instant

inductive StoreError where
  | notFound (what : String)
  | invalidKey (reason : String)
  | corrupt (reason : String)
  | backend (reason : String)
  | system (cause : SystemError)
  | configuration (reason : String)
deriving DecidableEq, Repr

namespace StoreError

def message : StoreError → String
  | .notFound what => "Not found: " ++ what
  | .invalidKey reason => "Invalid storage key: " ++ reason
  | .corrupt reason => "Corrupt object: " ++ reason
  | .backend reason => "Storage backend error: " ++ reason
  | .system cause => "IO error: " ++ cause.message
  | .configuration reason => "Configuration error: " ++ reason

-- Whatever is wrong with the store itself makes it unavailable.
def toServiceError : StoreError → ServiceError
  | .notFound what => .notFound (what ++ " not found")
  | .invalidKey reason => .invalidPath reason
  | e => .storeUnavailable e.message

end StoreError

-- The listing of a folder that holds some images.
def FolderListing.ofEntries (folder : FolderAddress) (entries : List ListingEntry) :
    Except StoreError FolderListing :=
  if entries.isEmpty then .error (.notFound folder.keyStart)
  else .ok ⟨folder.owner.text, folder.folder.text, none, entries⟩

end Gallery
