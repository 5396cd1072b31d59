import Gallery.Access.ApiKeys
import Gallery.Address.Resolution
import Gallery.Http.Cors
import Gallery.ImageUrls
import Gallery.Store
import Gallery.Text.Charset
import Gallery.Upload.Codec

-- The image service: what it is set up with, and what it is asked to do. The store is no part of
-- it; whoever runs the service hands it the store for each request and keeps what comes back.

namespace Gallery

-- What the service has from elsewhere: the page that shows its document to people, and the tables
-- of character sets.
structure Libraries where
  documentPage : String
  readWide : Text.WideReader

structure Service where
  libraries : Libraries
  codec : ImageCodec
  urls : ImageUrls
  keys : Access.ApiKeys
  tokenSecret : String
  origins : Http.Origins
  maxBodyBytes : Nat
  inProduction : Bool

-- What a request meets with besides the service: the time, the random identifiers that are drawn
-- for it, and the number of the task that decodes what it uploads.
structure Moment where
  now : Instant
  nameId : Uuid
  fileId : Uuid
  requestId : Uuid
  task : Nat

structure StoredUpload where
  address : ImageAddress
  url : String
  contentType : String
  size : Nat
  dimensions : Option Dimensions
  completedAt : Instant

inductive Retrieved where
  | image (image : StoredImage)
  | listing (listing : FolderListing)

-- What can be asked of a store to read from it. The answers come in some monad, so what is made of
-- them is the same however the store is reached.
structure Reads (M : Type → Type) where
  get : ImageAddress → M (Except StoreError StoredImage)
  list : FolderAddress → M (Except StoreError FolderListing)

def Store.reads (store : Store) : Reads Id := ⟨store.get, store.list⟩

namespace Service

-- Stores one upload of an owner. Nothing reaches the store unless the content is an image of an
-- allowed type and its place is valid.
def upload (s : Service) (store : Store) (m : Moment) (owner : Owner) (form : UploadForm) :
    Except ServiceError StoredUpload × Store :=
  match s.codec.decode form with
  | .error e => (.error (e.toServiceError m.task), store)
  | .ok decoded =>
    let sniffed := decoded.image.sniffed
    match ImageAddress.forUpload owner decoded.folder decoded.name sniffed.extension m.now
        m.nameId with
    | .error e => (.error e, store)
    | .ok address =>
      match store.put address decoded.image.bytes sniffed.contentType m.now m.fileId with
      | (.error e, store) => (.error e.toServiceError, store)
      | (.ok (), store) =>
        (.ok ⟨address, s.urls.image address, sniffed.contentType, decoded.image.bytes.size,
          sniffed.dimensions, m.now⟩, store)

section Reads

variable {M : Type → Type} [Monad M] (reads : Reads M)

def imageVia (owner folder name : String) : M (Except ServiceError StoredImage) :=
  match ImageAddress.ofPath owner folder name with
  | .error e => pure (.error e)
  | .ok address => (·.mapError StoreError.toServiceError) <$> reads.get address

-- An entry of a folder, with the URL of its image.
def withUrl (s : Service) (folder : FolderAddress) (e : ListingEntry) : ListingEntry :=
  match Segment.parse .name e.name with
  | .ok name => { e with url := some (s.urls.image (folder.image name)) }
  | .error _ => e

def withUrls (s : Service) (folder : FolderAddress) (found : FolderListing) : FolderListing :=
  { found with
    url := some (s.urls.folder folder)
    entries := found.entries.map (s.withUrl folder) }

-- The listing of the folder that a request path names, with the URLs of the folder and its
-- images.
def listingVia (s : Service) (owner folder : String) : M (Except ServiceError FolderListing) :=
  match FolderAddress.ofPath owner folder with
  | .error e => pure (.error e)
  | .ok address =>
    (fun found => (found.mapError StoreError.toServiceError).map (s.withUrls address)) <$>
      reads.list address

-- An image by its name, or without a name the listing of the folder.
def retrieveVia (s : Service) (owner folder : String) (name : Option String) :
    M (Except ServiceError Retrieved) :=
  match name with
  | none | some "" => (·.map .listing) <$> s.listingVia reads owner folder
  | some name => (·.map .image) <$> imageVia reads owner folder name

end Reads

variable (s : Service) (store : Store)

def listing (owner folder : String) : Except ServiceError FolderListing :=
  Id.run (s.listingVia store.reads owner folder)

def retrieve (owner folder : String) (name : Option String) : Except ServiceError Retrieved :=
  Id.run (s.retrieveVia store.reads owner folder name)

end Service

end Gallery
