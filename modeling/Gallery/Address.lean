import Gallery.Segment

-- Addresses of images and of folders, and the storage keys they are kept under.

namespace Gallery

structure FolderAddress where
  owner : Owner
  folder : Folder
deriving DecidableEq

structure ImageAddress where
  owner : Owner
  folder : Folder
  name : ImageName
deriving DecidableEq

namespace FolderAddress

-- What the keys of all images of the folder start with: `owner/folder/`.
def keyStart (a : FolderAddress) : String :=
  a.owner.text ++ "/" ++ a.folder.text ++ "/"

-- How the folder is shown: `owner/folder`.
def shown (a : FolderAddress) : String :=
  a.owner.text ++ "/" ++ a.folder.text

def image (a : FolderAddress) (name : ImageName) : ImageAddress :=
  ⟨a.owner, a.folder, name⟩

end FolderAddress

namespace ImageAddress

def parent (a : ImageAddress) : FolderAddress := ⟨a.owner, a.folder⟩

-- The storage key: `owner/folder/name`.
def key (a : ImageAddress) : String :=
  a.owner.text ++ "/" ++ a.folder.text ++ "/" ++ a.name.text

end ImageAddress

end Gallery
