import Gallery.Proofs.Address
import Gallery.Proofs.Address.Resolution
import Gallery.Proofs.Contents
import Gallery.Proofs.Store.Envelope
import Gallery.Service.Basic

namespace Gallery

-- The content types of all formats are short.
theorem SniffedImage.contentType_short (s : SniffedImage) :
    s.contentType.utf8ByteSize ≤ Envelope.maxContentType := by
  cases s with
  | mk format dimensions => cases format <;> exact Nat.le_of_ble_eq_true rfl

-- The address is one that the upload asks for: its owner is who makes the upload, its folder the
-- one that is given, and so is its name unless it is to be generated.
structure DecodedUpload.AsksFor (decoded : DecodedUpload) (owner : Owner) (a : ImageAddress) :
    Prop where
  owner : a.owner = owner
  folder : a.folder = decoded.folder
  name : ∀ name, decoded.name = some name → a.name = name

theorem DecodedUpload.asksFor_of_forUpload {decoded : DecodedUpload} {owner : Owner}
    {extension : String} {now : Instant} {random : Uuid} {a : ImageAddress}
    (h : ImageAddress.forUpload owner decoded.folder decoded.name extension now random = .ok a) :
    decoded.AsksFor owner a := by
  unfold ImageAddress.forUpload at h
  split at h
  · rename_i name hname
    cases h
    exact ⟨rfl, rfl, fun given hgiven => Option.some.inj (hname.symm.trans hgiven)⟩
  · rename_i hname
    simp only at h
    split at h
    · cases h
      refine ⟨rfl, rfl, fun given hgiven => ?_⟩
      rw [hname] at hgiven
      cases hgiven
    · cases h

theorem ImageAddress.internal_of_forUpload {owner : Owner} {folder : Folder}
    {name : Option ImageName} {extension : String} {now : Instant} {random : Uuid}
    {e : ServiceError} (h : forUpload owner folder name extension now random = .error e) :
    ∃ reason, e = .internal reason := by
  unfold forUpload at h
  split at h
  · cases h
  · simp only at h
    split at h
    · cases h
    · cases h
      exact ⟨_, rfl⟩

namespace Service

variable (s : Service) (store : Store)

-- What an upload leads to once it is in the store.
def stored (m : Moment) (a : ImageAddress) (image : DecodedImage) : StoredUpload :=
  ⟨a, s.urls.image a, image.sniffed.contentType, image.bytes.size, image.sniffed.dimensions, m.now⟩

-- The image that the store then holds.
def kept (m : Moment) (image : DecodedImage) : StoredImage :=
  ⟨image.bytes, image.sniffed.contentType, m.now⟩

-- Why an upload is not handed to the store: it is not decoded, or no name can be generated for it.
inductive Declines (m : Moment) (form : UploadForm) : ServiceError → Prop where
  | undecoded {e : CodecError} (hdecode : s.codec.decode form = .error e) :
      Declines m form (e.toServiceError m.task)
  | unnamed (reason : String) : Declines m form (.internal reason)

-- An upload is declined and leaves the store alone, or it is decoded and handed to the store.
theorem upload_cases (m : Moment) (owner : Owner) (form : UploadForm) :
    (∃ e, s.Declines m form e ∧ s.upload store m owner form = (.error e, store)) ∨
      ∃ decoded a, s.codec.decode form = .ok decoded ∧ decoded.AsksFor owner a ∧
        s.upload store m owner form =
          match store.put a decoded.image.bytes decoded.image.sniffed.contentType m.now
              m.fileId with
          | (.error e, store) => (.error e.toServiceError, store)
          | (.ok (), store) => (.ok (s.stored m a decoded.image), store) := by
  unfold upload
  cases hdecode : s.codec.decode form with
  | error e => exact Or.inl ⟨_, .undecoded hdecode, rfl⟩
  | ok decoded =>
      simp only
      cases haddress : ImageAddress.forUpload owner decoded.folder decoded.name
          decoded.image.sniffed.extension m.now m.nameId with
      | error e =>
          obtain ⟨reason, rfl⟩ := ImageAddress.internal_of_forUpload haddress
          exact Or.inl ⟨_, .unnamed reason, rfl⟩
      | ok a => exact Or.inr ⟨decoded, a, rfl, DecodedUpload.asksFor_of_forUpload haddress, rfl⟩

section Reads

variable {M : Type → Type} [Monad M] (reads : Reads M)

theorem imageVia_text (a : ImageAddress) :
    imageVia reads a.owner.text a.folder.text a.name.text =
      (·.mapError StoreError.toServiceError) <$> reads.get a := by
  rw [imageVia, ImageAddress.ofPath_text]

theorem listingVia_text (folder : FolderAddress) :
    s.listingVia reads folder.owner.text folder.folder.text =
      (fun found => (found.mapError StoreError.toServiceError).map (s.withUrls folder)) <$>
        reads.list folder := by
  rw [listingVia, FolderAddress.ofPath_text]

-- Without a name, or with an empty one, it is the folder that is read.
theorem retrieveVia_of_ne_empty (owner folder : String) {name : String} (h : name ≠ "") :
    s.retrieveVia reads owner folder (some name) =
      (·.map .image) <$> imageVia reads owner folder name := by
  unfold retrieveVia
  split
  · rename_i hnone
    cases hnone
  · rename_i hempty
    exact absurd (Option.some.inj hempty) h
  · rename_i other _ hsome
    cases hsome
    rfl

end Reads

theorem retrieve_image (a : ImageAddress) :
    s.retrieve store a.owner.text a.folder.text (some a.name.text) =
      ((store.get a).mapError StoreError.toServiceError).map .image := by
  rw [retrieve, retrieveVia_of_ne_empty _ _ _ _ a.name.text_ne_empty, imageVia_text]
  rfl

theorem withUrl_ofImage (folder : FolderAddress) (name : ImageName) (image : StoredImage) :
    s.withUrl folder (.ofImage name image) =
      { ListingEntry.ofImage name image with url := some (s.urls.image (folder.image name)) } := by
  unfold withUrl
  have hparse : Segment.parse .name (ListingEntry.ofImage name image).name = .ok name :=
    Segment.parse_text .name name
  rw [hparse]

theorem listing_text (folder : FolderAddress) :
    s.listing store folder.owner.text folder.folder.text =
      ((store.list folder).mapError StoreError.toServiceError).map fun found =>
        { found with
          url := some (s.urls.folder folder)
          entries := found.entries.map (s.withUrl folder) } := by
  rw [listing, listingVia_text]
  rfl

theorem retrieve_listing (folder : FolderAddress) :
    s.retrieve store folder.owner.text folder.folder.text none =
      ((store.list folder).mapError StoreError.toServiceError).map fun found =>
        .listing { found with
          url := some (s.urls.folder folder)
          entries := found.entries.map (s.withUrl folder) } := by
  have hlisting : s.retrieve store folder.owner.text folder.folder.text none =
      (s.listing store folder.owner.text folder.folder.text).map .listing := rfl
  rw [hlisting, listing_text]
  cases store.list folder <;> rfl

end Service

-- A service and a moment to show general statements at.
def Libraries.sample : Libraries := ⟨"<!doctype html>", fun _ _ => "\ufffd"⟩

def Service.sample : Service where
  libraries := .sample
  codec := ⟨ImageAddress.sample.folder, 1000, ["image/gif"]⟩
  urls := ⟨"http://localhost"⟩
  keys := .ofConfigured "key" []
  tokenSecret := "secret"
  origins := .any
  maxBodyBytes := 1000
  inProduction := true

def Moment.sample : Moment := ⟨.epoch, ⟨1, 2⟩, ⟨3, 4⟩, ⟨5, 6⟩, 7⟩

end Gallery
