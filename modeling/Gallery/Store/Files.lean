import Gallery.Store.Basic
import Gallery.Store.Envelope
import Gallery.Store.FileTree
import Gallery.Uuid

-- Images that are kept as files below a directory: each in the directory of its folder, in the
-- directory of its owner. An image is written to a hidden file first and then moved into its
-- place, so that nobody ever sees a part of it.

namespace Gallery

-- A tree of files, and the path of the directory that the images are kept in.
structure FileStore where
  base : String
  tree : FileTree

namespace FileStore

-- A store in a directory, which is made if it is not there.
def create (base : String) (tree : FileTree) : Except StoreError FileStore :=
  match FileTree.makeDirectories (FilePath.ofString base) tree with
  | .ok _ tree => .ok ⟨base, tree⟩
  | .error e _ =>
    .error (.configuration
      ("Failed to create storage directory " ++ base ++ ": " ++ e.message))

-- The words of a key between its slashes.
def keyPieces (key : String) : List String :=
  ((key.toList.splitOn '/').map String.ofList).filter (!·.isEmpty)

-- The key goes nowhere but below the base.
def keyStaysInside (key : String) : Bool :=
  !Segment.hasTraversal key.toList && key.toList.head? ≠ some '/' && !key.toList.contains '\x00'

-- The pieces of a key that stays inside.
def locateKey (key : String) : Except StoreError (List String) :=
  if keyStaysInside key then .ok (keyPieces key)
  else .error (.invalidKey "Storage key contains invalid characters")

def path (s : FileStore) (pieces : List String) : FilePath :=
  FilePath.ofString s.base ++ pieces.map Text.utf8

-- A path with another below it. One that begins with a slash is below no other.
def joined (shown piece : String) : String :=
  if piece.toList.head? = some '/' then piece
  else if shown.isEmpty || shown.toList.getLast? = some '/' then shown ++ piece
  else shown ++ "/" ++ piece

def shownPath (s : FileStore) (pieces : List String) : String := pieces.foldl joined s.base

-- The name of the hidden file that an image is written to first.
def hiddenName (random : Uuid) : String := "." ++ String.ofList random.digits ++ ".tmp"

-- A change of the tree below, with the error that its failure becomes.
def change {α : Type} (s : FileStore) (c : FileTree.Change α)
    (onError : SystemError → StoreError) : Except StoreError α × FileStore :=
  match c s.tree with
  | .ok a tree => (.ok a, { s with tree })
  | .error e tree => (.error (onError e), { s with tree })

-- Writes a file at the hidden path and moves it into its place. When that fails the hidden file
-- is removed again, as far as possible.
def writeAndMove (s : FileStore) (pieces hidden : List String) (file : ByteArray)
    (now : Instant) : Except StoreError Unit × FileStore :=
  let written := s.change (FileTree.writeFile (s.path hidden) file now) fun e =>
    .backend ("Failed to create file " ++ s.shownPath hidden ++ ": " ++ e.message)
  let moved : Except StoreError Unit × FileStore := match written with
    | (.error e, s) => (.error e, s)
    | (.ok _, s) =>
      s.change (FileTree.move (s.path hidden) (s.path pieces)) fun e =>
        .backend ("Failed to move " ++ s.shownPath pieces ++ " into place: " ++ e.message)
  match moved with
  | (.ok _, s) => (.ok (), s)
  | (.error e, s) => (.error e, (s.change (FileTree.removeFile (s.path hidden)) .system).2)

-- Keeps an image at an address, in the place of any other.
def put (s : FileStore) (address : ImageAddress) (content : ByteArray) (contentType : String)
    (now : Instant) (random : Uuid) : Except StoreError Unit × FileStore :=
  match locateKey address.key with
  | .error e => (.error e, s)
  | .ok pieces =>
    match s.change (FileTree.makeDirectories (s.path pieces.dropLast)) .system with
    | (.error e, s) => (.error e, s)
    | (.ok _, s) =>
      match Envelope.encode contentType content with
      | none =>
        (.error (.backend ("Content type too long: " ++ toString contentType.utf8ByteSize)), s)
      | some file => s.writeAndMove pieces (pieces.dropLast ++ [hiddenName random]) file now

def corrupt (key : String) (fault : Envelope.Fault) : StoreError :=
  .corrupt (key ++ " " ++ fault.message)

-- The image at an address. A directory is no image.
def get (s : FileStore) (address : ImageAddress) : Except StoreError StoredImage := do
  let key := address.key
  let pieces ← locateKey key
  match s.tree.entryAt (s.path pieces) with
  | .error e => if e = .noEntry then .error (.notFound key) else .error (.system e)
  | .ok (.file content modified) =>
    match Envelope.decode content with
    | .ok (contentType, content) => .ok ⟨content, contentType, modified⟩
    | .error fault => .error (corrupt key fault)
  | .ok _ => .error (.notFound key)

-- There is something at an address.
def contains (s : FileStore) (address : ImageAddress) : Except StoreError Bool := do
  let pieces ← locateKey address.key
  match s.tree.entryAt (s.path pieces) with
  | .ok _ => .ok true
  | .error e => if e = .noEntry then .ok false else .error (.system e)

-- An entry of a directory, if it is an image. The hidden names of images that are being written
-- are no segments.
def listed (child : FileName × FileTree.Entry) : Option ListingEntry :=
  match Text.ofUtf8? ⟨child.1.toArray⟩, child.2 with
  | some name, .file content modified =>
    if (Segment.fault? name).isSome then none
    else match Envelope.readHeader content with
      | .ok (contentType, size) => some ⟨name, size, contentType, modified, none⟩
      | .error _ => none
  | _, _ => none

-- The images of a folder, in the order of their names.
def list (s : FileStore) (folder : FolderAddress) : Except StoreError FolderListing := do
  let pieces ← locateKey folder.keyStart
  match s.tree.readDirectory (s.path pieces) with
  | .error e =>
    if e = .noEntry then .error (.notFound folder.keyStart) else .error (.system e)
  | .ok children => FolderListing.ofEntries folder (children.filterMap listed)

-- The base is a directory that can be written to.
def checkHealth (s : FileStore) : Except StoreError Unit :=
  match s.tree.entryAt (FilePath.ofString s.base) with
  | .error e =>
    .error (.backend ("Storage directory " ++ s.base ++ " unavailable: " ++ e.message))
  | .ok (.directory mode) =>
    -- one of the three bits that allow writing
    if mode &&& 0o222 = 0 then .error (.backend (s.base ++ " is read-only")) else .ok ()
  | .ok _ => .error (.backend (s.base ++ " is not a directory"))

end FileStore

end Gallery
