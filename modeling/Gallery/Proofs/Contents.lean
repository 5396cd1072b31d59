import Gallery.Proofs.Segment
import Gallery.Store.Basic
import Mathlib.Data.List.Sort
import Mathlib.Logic.Function.Basic

namespace Gallery

namespace ListingEntry

-- The entry that an image has in the listing of its folder.
def ofImage (name : ImageName) (image : StoredImage) : ListingEntry :=
  ⟨name.text, image.content.size, image.contentType, image.lastModified, none⟩

-- Entries stand in the order of the bytes of their names.
def Before (a b : ListingEntry) : Prop := Text.utf8 a.name < Text.utf8 b.name

instance : Std.Irrefl Before := ⟨fun _ => List.lt_irrefl _⟩

instance : Std.Antisymm Before := ⟨fun _ _ h h' => absurd (List.lt_trans h h') (List.lt_irrefl _)⟩

end ListingEntry

-- What a store holds: at each address an image or none.
abbrev Contents := ImageAddress → Option StoredImage

namespace Contents

-- Nothing at all.
def empty : Contents := fun _ => none

-- What is found at an address.
def read (images : Contents) (a : ImageAddress) : Except StoreError StoredImage :=
  (images a).elim (.error (.notFound a.key)) .ok

-- The contents with an image at an address, in the place of any other.
def put (images : Contents) (a : ImageAddress) (image : StoredImage) : Contents :=
  Function.update images a (some image)

@[simp] theorem put_self (images : Contents) (a : ImageAddress) (image : StoredImage) :
    images.put a image a = some image := Function.update_self _ _ _

theorem put_of_ne (images : Contents) {a b : ImageAddress} (image : StoredImage) (h : b ≠ a) :
    images.put a image b = images b := Function.update_of_ne h _ _

end Contents

-- The entries are those of the images of a folder, each once and in order.
structure Contents.Lists (images : Contents) (folder : FolderAddress)
    (entries : List ListingEntry) : Prop where
  mem_iff : ∀ e, e ∈ entries ↔
    ∃ name image, images (folder.image name) = some image ∧ e = .ofImage name image
  sorted : entries.Pairwise ListingEntry.Before

namespace Contents.Lists

variable {images : Contents} {folder : FolderAddress} {entries entries' : List ListingEntry}

theorem unique (h : images.Lists folder entries) (h' : images.Lists folder entries') :
    entries = entries' :=
  h.sorted.eq_of_mem_iff h'.sorted fun e => by rw [h.mem_iff, h'.mem_iff]

end Contents.Lists

end Gallery
