import Gallery.Proofs.Http.Target
import Gallery.Proofs.ImageUrls
import Gallery.Proofs.Service.Reads
import Gallery.Proofs.Service.Retrieval

namespace Gallery

open Http

-- The characters of a segment are let through in the path of a request.
theorem Segment.isPathChar_of_allows {c : Char} (h : allows c = true) :
    Target.isPathChar c = true := by
  have hcodes : ∀ n < 128, allows (Char.ofNat n) = true →
      Target.isPathChar (Char.ofNat n) = true := by
    decide +kernel
  have hascii := UInt32.le_iff_toNat_le.mp (allows_val_le h)
  have h127 : (127 : UInt32).toNat = 127 := rfl
  have hval : c.toNat = c.val.toNat := rfl
  have hc := hcodes c.toNat (by omega)
  rw [Char.ofNat_toNat] at hc
  exact hc h

-- So is what is written of a few segments and slashes, which is not too long either.
theorem Route.target_below {rest : String} (hlength : rest.utf8ByteSize ≤ 3 * 256)
    (h : ∀ c ∈ rest.toList, c = '/' ∨ Segment.allows c = true) :
    Target.path (imageRoutes ++ "/" ++ rest) = .ok (imageRoutes ++ "/" ++ rest) := by
  have hstart : (imageRoutes ++ "/").toList.all Target.isPathChar = true := by decide +kernel
  have hroutes : (imageRoutes ++ "/").utf8ByteSize = 15 := by decide +kernel
  have htext : (imageRoutes ++ "/" ++ rest).toList =
      '/' :: ("api/v0/images/".toList ++ rest.toList) := by
    rw [String.toList_append]
    rfl
  refine Target.path_of_all htext ?_ ?_
  · rw [String.utf8ByteSize_append, hroutes]
    omega
  · intro c hc
    rw [String.toList_append, List.mem_append] at hc
    rcases hc with hc | hc
    · exact List.all_eq_true.mp hstart c hc
    · rcases h c hc with rfl | hallowed
      · decide
      · exact Segment.isPathChar_of_allows hallowed

theorem ImageAddress.target_path (a : ImageAddress) : Target.path a.path = .ok a.path := by
  refine Route.target_below ?_ fun c hc => ?_
  · have howner := a.owner.utf8ByteSize_le
    have hfolder := a.folder.utf8ByteSize_le
    have hname := a.name.utf8ByteSize_le
    have hslash : "/".utf8ByteSize = 1 := rfl
    rw [Segment.maxBytes] at howner hfolder hname
    simp only [key, String.utf8ByteSize_append, hslash]
    omega
  · simp only [toList_key, List.mem_append, List.mem_cons] at hc
    rcases hc with hc | hc | hc | hc | hc
    · exact Or.inr (a.owner.allows_of_mem hc)
    · exact Or.inl hc
    · exact Or.inr (a.folder.allows_of_mem hc)
    · exact Or.inl hc
    · exact Or.inr (a.name.allows_of_mem hc)

theorem FolderAddress.target_path (a : FolderAddress) : Target.path a.path = .ok a.path := by
  refine Route.target_below ?_ fun c hc => ?_
  · have howner := a.owner.utf8ByteSize_le
    have hfolder := a.folder.utf8ByteSize_le
    have hslash : "/".utf8ByteSize = 1 := rfl
    rw [Segment.maxBytes] at howner hfolder
    simp only [keyStart, String.utf8ByteSize_append, hslash]
    omega
  · simp only [toList_keyStart, List.mem_append, List.mem_cons, List.not_mem_nil, or_false] at hc
    rcases hc with hc | hc | hc | hc
    · exact Or.inr (a.owner.allows_of_mem hc)
    · exact Or.inl hc
    · exact Or.inr (a.folder.allows_of_mem hc)
    · exact Or.inl hc

-- Whoever asks for the path asks for the image: the path can stand in a request as it is, and its
-- route is that of an image, with words that stand for the address.
structure ImageAddress.FoundAt (a : ImageAddress) (path : String) : Prop where
  target : Target.path path = .ok path
  route : ∃ owner folder name, Route.ofPath path = some (.image owner folder name) ∧
    Route.decodeWords [("owner", owner), ("folder", folder), ("name", name)] =
      .ok [a.owner.text, a.folder.text, a.name.text]

-- Whoever asks for the path asks for the folder.
structure FolderAddress.FoundAt (a : FolderAddress) (path : String) : Prop where
  target : Target.path path = .ok path
  route : ∃ owner folder, Route.ofPath path = some (.folder owner folder) ∧
    Route.decodeWords [("owner", owner), ("folder", folder)] = .ok [a.owner.text, a.folder.text]

theorem ImageAddress.foundAt_path (a : ImageAddress) : a.FoundAt a.path :=
  ⟨a.target_path, _, _, _, Route.ofPath_image a, Route.decodeWords_image a⟩

theorem FolderAddress.foundAt_path (a : FolderAddress) : a.FoundAt a.path :=
  ⟨a.target_path, _, _, Route.ofPath_folder a, Route.decodeWords_folder a⟩

-- No store has URLs in its listings; they are the concern of the service.
theorem FolderListing.url_of_ofEntries {folder : FolderAddress} {entries : List ListingEntry}
    {found : FolderListing} (h : ofEntries folder entries = .ok found)
    (hurl : ∀ e ∈ entries, e.url = none) : ∀ e ∈ found.entries, e.url = none := by
  unfold ofEntries at h
  split at h
  · cases h
  · cases h
    exact hurl

theorem Store.url_of_list {store : Store} {folder : FolderAddress} {found : FolderListing}
    (h : store.list folder = .ok found) : ∀ e ∈ found.entries, e.url = none := by
  cases store with
  | memory s =>
      refine FolderListing.url_of_ofEntries h fun e he => ?_
      obtain ⟨name, image, _, rfl⟩ := (s.mem_entriesIn_iff folder e).mp he
      rfl
  | files s =>
      simp only [Store.list, FileStore.list, FileStore.locateKey_keyStart, bind, Except.bind] at h
      split at h
      · split at h <;> cases h
      · refine FolderListing.url_of_ofEntries h fun e he => ?_
        obtain ⟨child, _, hlisted⟩ := List.mem_filterMap.mp he
        obtain ⟨name, content, modified, contentType, size, _, _, rfl⟩ :=
          (FileStore.listed_eq_some_iff child e).mp hlisted
        rfl

namespace Service

-- A service gives out no URLs but those of what they are given out for: that of an image to who
-- uploads it, and those of a folder and of its images in a listing. Whoever asks for the part after
-- the root, with a key, gets what the store has there; right after an upload that is what was
-- uploaded.
structure GivesOut (s : Service) (urls : ImageUrls) (store : Store) : Prop where
  uploaded : ∀ m owner form stored after,
    s.upload store m owner form = (.ok stored, after) → stored.url = urls.image stored.address
  listed : ∀ owner folder listing, s.listing store owner folder = .ok listing →
    ∃ address : FolderAddress, address.owner.text = owner ∧ address.folder.text = folder ∧
      listing.url = some (urls.folder address) ∧
      ∀ e ∈ listing.entries, ∀ url, e.url = some url →
        ∃ name : ImageName, name.text = e.name ∧ url = urls.image (address.image name)
  image : ∀ (a : ImageAddress) path m r, urls.image a = urls.root ++ path →
    r.method = "GET" → r.path = path → s.checkKey r = .ok () → s.bodyAllowance r ≠ none →
    s.answer store m r = (finish m r (s.origins.mark r (s.imageReply (store.get a))), store)
  folder : ∀ (a : FolderAddress) path m r, urls.folder a = urls.root ++ path →
    r.method = "GET" → r.path = path → s.checkKey r = .ok () → s.bodyAllowance r ≠ none →
    s.answer store m r = (finish m r (s.origins.mark r
      (s.folderReply (s.listing store a.owner.text a.folder.text))), store)
  fresh : ∀ images, store.Holds images → ∀ m owner form stored after,
    s.upload store m owner form = (.ok stored, after) →
    ∃ decoded, s.codec.decode form = .ok decoded ∧
      after.get stored.address = .ok (kept m decoded.image)

variable (s : Service) (store : Store)

theorem url_of_upload {m : Moment} {owner : Owner} {form : UploadForm} {stored : StoredUpload}
    {after : Store} (h : s.upload store m owner form = (.ok stored, after)) :
    stored.url = s.urls.image stored.address := by
  rcases s.upload_cases store m owner form with ⟨e, _, hfail⟩ | ⟨decoded, a, _, _, hupload⟩
  · rw [hfail] at h
    cases h
  · rw [hupload] at h
    split at h
    · cases h
    · cases h
      rfl

theorem get_after_upload {images : Contents} (hholds : store.Holds images) {m : Moment}
    {owner : Owner} {form : UploadForm} {stored : StoredUpload} {after : Store}
    (h : s.upload store m owner form = (.ok stored, after)) :
    ∃ decoded, s.codec.decode form = .ok decoded ∧
      after.get stored.address = .ok (kept m decoded.image) := by
  rcases s.upload_of_holds hholds ⟨m, owner, form⟩ with
    ⟨e, hfail⟩ | ⟨decoded, a, store', hdecode, _, hok, hafter⟩
  · rw [hfail] at h
    cases h
  · rw [hok] at h
    cases h
    refine ⟨decoded, hdecode, ?_⟩
    rw [hafter.get, Contents.read]
    simp only [Service.stored, Contents.put_self, Option.elim_some]

-- The URL of an entry is that of the image with the name of the entry.
theorem url_of_withUrl {folder : FolderAddress} {e : ListingEntry} {url : String}
    (hnone : e.url = none) (h : (s.withUrl folder e).url = some url) :
    ∃ name : ImageName, name.text = e.name ∧ url = s.urls.image (folder.image name) := by
  unfold withUrl at h
  split at h
  · rename_i name hparse
    cases h
    exact ⟨name, Segment.text_of_parse hparse, rfl⟩
  · rw [hnone] at h
    cases h

-- Only what is the path of a folder is listed.
theorem exists_address_of_listing {owner folder : String} {listing : FolderListing}
    (h : s.listing store owner folder = .ok listing) :
    ∃ address, FolderAddress.ofPath owner folder = .ok address := by
  unfold Service.listing listingVia at h
  split at h
  · cases h
  · rename_i address haddress
    exact ⟨address, haddress⟩

theorem urls_of_listing {owner folder : String} {listing : FolderListing}
    (h : s.listing store owner folder = .ok listing) :
    ∃ address : FolderAddress, address.owner.text = owner ∧ address.folder.text = folder ∧
      listing.url = some (s.urls.folder address) ∧
      ∀ e ∈ listing.entries, ∀ url, e.url = some url →
        ∃ name : ImageName, name.text = e.name ∧ url = s.urls.image (address.image name) := by
  obtain ⟨address, haddress⟩ := s.exists_address_of_listing store h
  obtain ⟨howner, hfolder⟩ := FolderAddress.texts_of_ofPath haddress
  subst howner hfolder
  rw [listing_text] at h
  cases hlist : store.list address with
  | error e =>
      rw [hlist] at h
      cases h
  | ok found =>
      rw [hlist] at h
      cases h
      refine ⟨address, rfl, rfl, rfl, fun e he url hurl => ?_⟩
      obtain ⟨kept, hkept, rfl⟩ := List.mem_map.mp he
      rw [s.withUrl_name]
      exact s.url_of_withUrl (Store.url_of_list hlist kept hkept) hurl

theorem givesOut : s.GivesOut s.urls store := by
  refine ⟨?_, ?_, ?_, ?_, ?_⟩
  · exact fun m owner form stored after h => s.url_of_upload store h
  · exact fun owner folder listing h => s.urls_of_listing store h
  · intro a path m r hurl hget hpath hkey hlimit
    rw [ImageUrls.image_eq, String.append_right_inj] at hurl
    exact s.answer_get_image store m hget hkey hlimit (hpath.trans hurl.symm)
  · intro a path m r hurl hget hpath hkey hlimit
    rw [ImageUrls.folder_eq, String.append_right_inj] at hurl
    have hroute := Route.ofPath_folder a
    rw [hurl, ← hpath] at hroute
    exact s.answer_get_folder store m hget hkey hlimit hroute
  · exact fun images hholds m owner form stored after h => s.get_after_upload store hholds h

end Service

-- Below every base URL, the URL of an image is the root, the path of the image routes and the words
-- of its address, and what follows the root is a path to that image; likewise for folders. The root
-- has no slash at its end and begins no query or fragment, so the path is no part of one. Different
-- images and folders have different URLs, and a service gives out these URLs only.
theorem ImageUrls.urls_lead_to_images {written : String} {urls : ImageUrls}
    (h : ImageUrls.ofBase written = .ok urls) :
    (urls.root.toList.getLast? ≠ some '/' ∧ Url.Unmarked urls.root.toList) ∧
    (∀ a : ImageAddress,
      urls.image a = urls.root ++ imageRoutes ++ "/" ++ a.owner.text ++ "/" ++ a.folder.text ++
        "/" ++ a.name.text ∧
      ∀ path, urls.image a = urls.root ++ path → a.FoundAt path) ∧
    (∀ a : FolderAddress,
      urls.folder a = urls.root ++ imageRoutes ++ "/" ++ a.owner.text ++ "/" ++ a.folder.text ++
        "/" ∧
      ∀ path, urls.folder a = urls.root ++ path → a.FoundAt path) ∧
    (Function.Injective urls.image ∧ Function.Injective urls.folder ∧
      ∀ a b, urls.image a ≠ urls.folder b) ∧
    ∀ s : Service, s.urls = urls → ∀ store, s.GivesOut urls store := by
  refine ⟨⟨getLast?_root h, unmarked_root h⟩, fun a => ⟨?_, fun path hpath => ?_⟩,
    fun a => ⟨?_, fun path hpath => ?_⟩,
    ⟨urls.image_injective, urls.folder_injective, urls.image_ne_folder⟩,
    fun s hurls store => hurls ▸ s.givesOut store⟩
  · simp only [image, base, ImageAddress.key, String.append_assoc]
  · rw [image_eq, String.append_right_inj] at hpath
    exact hpath ▸ a.foundAt_path
  · simp only [folder, base, FolderAddress.keyStart, String.append_assoc]
  · rw [folder_eq, String.append_right_inj] at hpath
    exact hpath ▸ a.foundAt_path

theorem ImageUrls.url_leads_to_sample :
    ImageUrls.ofBase "http://[::1]/media/" = .ok ⟨"http://[::1]/media"⟩ ∧
      ImageAddress.sample.FoundAt "/api/v0/images/u1/avatars/a.png" := by
  have hbase : ImageUrls.ofBase "http://[::1]/media/" = .ok ⟨"http://[::1]/media"⟩ := rfl
  obtain ⟨_, himage, _⟩ := urls_lead_to_images hbase
  exact ⟨hbase, (himage ImageAddress.sample).2 _ rfl⟩

end Gallery
