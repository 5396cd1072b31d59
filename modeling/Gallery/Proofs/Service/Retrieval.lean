import Gallery.Proofs.Service.History

namespace Gallery.Service

open UploadRecord (lastAt?)

variable (s : Service) {store : Store}

-- What is found for an image is what the last upload to its address carried, whatever else has
-- been uploaded or refused.
theorem retrieve_image_after_uploads (hempty : store.IsEmpty) (calls : List UploadCall)
    (a : ImageAddress) :
    let (records, store) := s.uploads store calls
    let found := s.retrieve store a.owner.text a.folder.text (some a.name.text)
    match lastAt? a records with
    | some (call, _) => ∃ decoded, s.codec.decode call.form = .ok decoded ∧
        decoded.AsksFor call.owner a ∧
        found = .ok (.image ⟨decoded.image.bytes, decoded.image.sniffed.contentType,
          call.moment.now⟩)
    | none => found = .error (.notFound (a.key ++ " not found")) := by
  obtain ⟨images, hholds, hshows⟩ := s.uploads_hold hempty.holds calls
  have hget := hholds.get a
  have ha := hshows a
  simp only [retrieve_image, hget, Contents.read]
  generalize lastAt? a (s.uploads store calls).1 = last at ha
  generalize images a = found at ha
  cases ha with
  | untouched => rfl
  | uploaded hdecode hasks => exact ⟨_, hdecode, hasks, rfl⟩

-- The image that was replaced is found as it was uploaded last, and beside it one whose name begins
-- with its own.
theorem retrieve_image_after_replacement :
    Store.IsEmpty (.memory .empty) ∧
      let store := (sample.uploads (.memory .empty) UploadCall.samples).2
      sample.retrieve store "u1" "avatars" (some "a.png") =
          .ok (.image ⟨⟨#[71, 73, 70, 56, 57, 97, 0]⟩, "image/gif", ⟨1, 0, rfl⟩⟩) ∧
        sample.retrieve store "u1" "avatars" (some "a.png.gif") =
          .ok (.image ⟨⟨#[71, 73, 70, 56, 55, 97]⟩, "image/gif", .epoch⟩) ∧
        sample.retrieve store "u1" "avatars" (some "a.pn") =
          .error (.notFound "u1/avatars/a.pn not found") := by
  have hempty : Store.IsEmpty (.memory .empty) := rfl
  have hfound (name : ImageName) := sample.retrieve_image_after_uploads hempty UploadCall.samples
    { ImageAddress.sample with name }
  obtain ⟨replaced, hreplaced, _, hlast⟩ := hfound ⟨"a.png", by decide +kernel⟩
  obtain ⟨beside, hbeside, _, hlonger⟩ := hfound ⟨"a.png.gif", by decide +kernel⟩
  have hshorter := hfound ⟨"a.pn", by decide +kernel⟩
  cases hreplaced
  cases hbeside
  exact ⟨hempty, hlast, hlonger, hshorter⟩

theorem withUrl_name (folder : FolderAddress) (e : ListingEntry) :
    (s.withUrl folder e).name = e.name := by
  unfold withUrl
  split <;> rfl

-- What is found for a folder of a store, by what the store holds.
theorem retrieve_listing_of_holds {images : Contents} (h : store.Holds images)
    (folder : FolderAddress) :
    ∃ entries, images.Lists folder entries ∧
      s.retrieve store folder.owner.text folder.folder.text none =
        if entries = [] then .error (.notFound (folder.keyStart ++ " not found"))
        else .ok (.listing ⟨folder.owner.text, folder.folder.text, some (s.urls.folder folder),
          entries.map (s.withUrl folder)⟩) := by
  obtain ⟨entries, hlists, hlist⟩ := h.list folder
  refine ⟨entries, hlists, ?_⟩
  rw [retrieve_listing, hlist]
  cases entries <;> rfl

variable {images : Contents} {records : List UploadRecord} {folder : FolderAddress}
  {entries : List ListingEntry}

-- An image that is listed was brought there by some upload.
theorem exists_upload_of_mem (hlists : images.Lists folder entries)
    (hshows : ∀ a, s.Shows a none (lastAt? a records) (images a)) {e : ListingEntry}
    (he : e ∈ entries) :
    ∃ name call decoded, s.codec.decode call.form = .ok decoded ∧
      decoded.AsksFor call.owner (folder.image name) ∧
      lastAt? (folder.image name) records =
        some (call, s.stored call.moment (folder.image name) decoded.image) ∧
      e = .ofImage name (kept call.moment decoded.image) := by
  obtain ⟨name, image, himage, rfl⟩ := (hlists.mem_iff e).mp he
  have hshow := hshows (folder.image name)
  rw [himage] at hshow
  obtain ⟨call, decoded, hdecode, hasks, hlast, rfl⟩ := hshow.of_found
  exact ⟨name, call, decoded, hdecode, hasks, hlast, rfl⟩

-- The names in a listing are those that uploads brought into the folder.
theorem mem_names_iff (hlists : images.Lists folder entries)
    (hshows : ∀ a, s.Shows a none (lastAt? a records) (images a)) (n : String) :
    n ∈ entries.map (·.name) ↔ ∃ r ∈ records, ∃ stored, r.result = .ok stored ∧
      stored.address.parent = folder ∧ stored.address.name.text = n := by
  rw [List.mem_map]
  constructor
  · rintro ⟨e, he, rfl⟩
    obtain ⟨name, call, _, _, _, hlast, rfl⟩ := s.exists_upload_of_mem hlists hshows he
    obtain ⟨r, hr, stored, hresult, ha⟩ := (UploadRecord.exists_lastAt?_iff _ _).mp ⟨_, _, hlast⟩
    exact ⟨r, hr, stored, hresult, by rw [ha]; rfl, by rw [ha]; rfl⟩
  · rintro ⟨r, hr, stored, hresult, rfl, rfl⟩
    obtain ⟨call, other, hlast⟩ := (UploadRecord.exists_lastAt?_iff stored.address records).mpr
      ⟨r, hr, stored, hresult, rfl⟩
    have hsome := (hshows stored.address).isSome_eq
    rw [hlast] at hsome
    obtain ⟨image, himage⟩ := Option.isSome_iff_exists.mp hsome
    exact ⟨_, (hlists.mem_iff _).mpr ⟨stored.address.name, image, himage, rfl⟩, rfl⟩

-- A folder that nothing was brought to is not found. Any other is listed: each name that an upload
-- brought there once, in the order of their bytes, with what the last upload of that name said.
theorem retrieve_listing_after_uploads (hempty : store.IsEmpty) (calls : List UploadCall)
    (folder : FolderAddress) :
    let (records, store) := s.uploads store calls
    let found := s.retrieve store folder.owner.text folder.folder.text none
    ((∀ r ∈ records, ∀ stored, r.result = .ok stored → stored.address.parent ≠ folder) →
      found = .error (.notFound (folder.keyStart ++ " not found"))) ∧
    ((∃ r ∈ records, ∃ stored, r.result = .ok stored ∧ stored.address.parent = folder) →
      ∃ listing, found = .ok (.listing listing) ∧
        listing.owner = folder.owner.text ∧ listing.folder = folder.folder.text ∧
        listing.url = some (s.urls.folder folder) ∧
        listing.names.Pairwise (fun n n' => Text.utf8 n < Text.utf8 n') ∧
        (∀ n, n ∈ listing.names ↔ ∃ r ∈ records, ∃ stored, r.result = .ok stored ∧
          stored.address.parent = folder ∧ stored.address.name.text = n) ∧
        ∀ e ∈ listing.entries, ∃ name call decoded stored,
          s.codec.decode call.form = .ok decoded ∧
          decoded.AsksFor call.owner (folder.image name) ∧
          lastAt? (folder.image name) records = some (call, stored) ∧
          e = ⟨name.text, decoded.image.bytes.size, decoded.image.sniffed.contentType,
            call.moment.now, some stored.url⟩) := by
  obtain ⟨images, hholds, hshows⟩ := s.uploads_hold hempty.holds calls
  obtain ⟨entries, hlists, hfound⟩ := s.retrieve_listing_of_holds hholds folder
  simp only [hfound]
  generalize (s.uploads store calls).1 = records at hshows
  have hnames := s.mem_names_iff hlists hshows
  have hmapped : (entries.map (s.withUrl folder)).map (·.name) = entries.map (·.name) := by
    rw [List.map_map]
    exact List.map_congr_left fun e _ => s.withUrl_name folder e
  constructor
  · intro hnone
    rw [if_pos]
    rw [List.eq_nil_iff_forall_not_mem]
    intro e he
    obtain ⟨r, hr, stored, hresult, hparent, _⟩ := (hnames e.name).mp (List.mem_map_of_mem he)
    exact hnone r hr stored hresult hparent
  · rintro ⟨r, hr, stored, hresult, hparent⟩
    have hne : entries ≠ [] := by
      rintro rfl
      have hmem := (hnames stored.address.name.text).mpr ⟨r, hr, stored, hresult, hparent, rfl⟩
      cases hmem
    refine ⟨_, if_neg hne, rfl, rfl, rfl, ?_, ?_, ?_⟩
    · rw [FolderListing.names, hmapped]
      exact List.pairwise_map.mpr hlists.sorted
    · intro n
      rw [FolderListing.names, hmapped]
      exact hnames n
    · intro e he
      obtain ⟨kept, hkept, rfl⟩ := List.mem_map.mp he
      obtain ⟨name, call, decoded, hdecode, hasks, hlast, rfl⟩ :=
        s.exists_upload_of_mem hlists hshows hkept
      exact ⟨name, call, decoded, _, hdecode, hasks, hlast, s.withUrl_ofImage folder name _⟩

-- What replaced an image is listed in its place, beside the image whose name begins with its own;
-- what is in the folder whose name begins with that of this one is not listed.
theorem retrieve_listing_after_replacement :
    Store.IsEmpty (.memory .empty) ∧
      ∃ listing,
        sample.retrieve (sample.uploads (.memory .empty) UploadCall.samples).2 "u1" "avatars" none =
            .ok (.listing listing) ∧
          (∀ n, n ∈ listing.names ↔ n = "a.png" ∨ n = "a.png.gif") ∧
          ∀ e ∈ listing.entries, e.name = "a.png" → e.size = 7 ∧ e.lastModified = ⟨1, 0, rfl⟩ := by
  have hempty : Store.IsEmpty (.memory .empty) := rfl
  obtain ⟨_, hlisted⟩ :=
    sample.retrieve_listing_after_uploads hempty UploadCall.samples ImageAddress.sample.parent
  obtain ⟨listing, hfound, _, _, _, _, hnames, hentries⟩ :=
    hlisted ⟨_, List.mem_cons_self, _, rfl, rfl⟩
  refine ⟨hempty, listing, hfound, fun n => (hnames n).trans ?_, fun e he hname => ?_⟩
  · constructor
    · rintro ⟨r, hr, stored, hresult, hparent, rfl⟩
      change r ∈ [_, _, _, _, _] at hr
      simp only [List.mem_cons, List.not_mem_nil, or_false] at hr
      rcases hr with rfl | rfl | rfl | rfl | rfl
      all_goals cases hresult
      · exact Or.inl rfl
      · exact Or.inr rfl
      · exact absurd (congrArg (fun folder => folder.folder.text) hparent) (by decide)
      · exact Or.inl rfl
    · rintro (rfl | rfl)
      · exact ⟨_, .head _, _, rfl, rfl, rfl⟩
      · exact ⟨_, .tail _ (.head _), _, rfl, rfl, rfl⟩
  · obtain ⟨⟨text, _⟩, call, decoded, stored, hdecode, _, hlast, rfl⟩ := hentries e he
    obtain rfl : text = "a.png" := hname
    cases hlast
    cases hdecode
    exact ⟨rfl, rfl⟩

end Gallery.Service
