import Gallery.Store.Basic
import Std.Data.ExtTreeMap

-- Images that are kept in memory, by their keys.

namespace Gallery

structure MemoryStore where
  images : Std.ExtTreeMap String StoredImage

namespace MemoryStore

def empty : MemoryStore := ⟨∅⟩

def size (s : MemoryStore) : Nat := s.images.size

def isEmpty (s : MemoryStore) : Bool := s.images.isEmpty

-- Keeps an image at an address, in the place of any other.
def put (s : MemoryStore) (address : ImageAddress) (content : ByteArray) (contentType : String)
    (now : Instant) : MemoryStore :=
  ⟨s.images.insert address.key ⟨content, contentType, now⟩⟩

def get (s : MemoryStore) (address : ImageAddress) : Except StoreError StoredImage :=
  match s.images[address.key]? with
  | some image => .ok image
  | none => .error (.notFound address.key)

def contains (s : MemoryStore) (address : ImageAddress) : Bool := s.images.contains address.key

-- What is left of a key after the start that all keys of a folder have.
def nameIn (folder : FolderAddress) (key : String) : Option String :=
  let start := folder.keyStart.toList
  if start.isPrefixOf key.toList then some (String.ofList (key.toList.drop start.length)) else none

-- The images of a folder. The keys come in their order, and so do the names.
def list (s : MemoryStore) (folder : FolderAddress) : Except StoreError FolderListing :=
  FolderListing.ofEntries folder (s.images.toList.filterMap fun (key, image) =>
    (nameIn folder key).map fun name =>
      ⟨name, image.content.size, image.contentType, image.lastModified, none⟩)

end MemoryStore

end Gallery
