import Gallery.Store.Files
import Gallery.Store.Memory
import Gallery.StorageBackend

-- The store that the service keeps its images in, of either kind.

namespace Gallery

inductive Store where
  | memory (store : MemoryStore)
  | files (store : FileStore)

namespace Store

def backend : Store → StorageBackend
  | .memory _ => .memory
  | .files _ => .files

-- Keeps an image at an address, in the place of any other.
def put (s : Store) (address : ImageAddress) (content : ByteArray) (contentType : String)
    (now : Instant) (random : Uuid) : Except StoreError Unit × Store :=
  match s with
  | .memory store => (.ok (), .memory (store.put address content contentType now))
  | .files store =>
    let (result, store) := store.put address content contentType now random
    (result, .files store)

def get : Store → ImageAddress → Except StoreError StoredImage
  | .memory store, address => store.get address
  | .files store, address => store.get address

def contains : Store → ImageAddress → Except StoreError Bool
  | .memory store, address => .ok (store.contains address)
  | .files store, address => store.contains address

def list : Store → FolderAddress → Except StoreError FolderListing
  | .memory store, folder => store.list folder
  | .files store, folder => store.list folder

-- The store can take images.
def checkHealth : Store → Except StoreError Unit
  | .memory _ => .ok ()
  | .files store => store.checkHealth

end Store

end Gallery
