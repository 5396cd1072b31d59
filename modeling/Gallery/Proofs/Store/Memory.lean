import Gallery.Proofs.Address
import Gallery.Proofs.Contents
import Gallery.Store.Memory

namespace Gallery

namespace MemoryStore

theorem nameIn_eq_some_iff (folder : FolderAddress) (key name : String) :
    nameIn folder key = some name ↔ key = folder.keyStart ++ name := by
  unfold nameIn
  constructor
  · intro h
    simp only at h
    split at h
    · rename_i hstart
      obtain ⟨rest, hrest⟩ := List.isPrefixOf_iff_prefix.mp hstart
      rw [Option.some.injEq, ← hrest, List.drop_left] at h
      rw [← String.toList_inj, String.toList_append, ← hrest, ← h, String.toList_ofList]
    · cases h
  · rintro rfl
    have hstart : folder.keyStart.toList.isPrefixOf (folder.keyStart ++ name).toList = true := by
      rw [List.isPrefixOf_iff_prefix, String.toList_append]
      exact List.prefix_append _ _
    simp only
    rw [if_pos hstart, String.toList_append, List.drop_left, String.ofList_toList]

theorem getElem?_put (s : MemoryStore) (a : ImageAddress) (content : ByteArray)
    (contentType : String) (now : Instant) (key : String) :
    (s.put a content contentType now).images[key]? =
      if key = a.key then some ⟨content, contentType, now⟩ else s.images[key]? := by
  rw [put, Std.ExtTreeMap.getElem?_insert]
  simp only [Std.LawfulEqOrd.compare_eq_iff_eq, @eq_comm _ a.key key]

-- The images whose keys begin like those of a folder, in the order of the keys.
def entriesIn (s : MemoryStore) (folder : FolderAddress) : List ListingEntry :=
  s.images.toList.filterMap fun (key, image) =>
    (nameIn folder key).map fun name =>
      ⟨name, image.content.size, image.contentType, image.lastModified, none⟩

theorem list_eq (s : MemoryStore) (folder : FolderAddress) :
    s.list folder = FolderListing.ofEntries folder (s.entriesIn folder) := rfl

theorem mem_entriesIn_iff (s : MemoryStore) (folder : FolderAddress) (e : ListingEntry) :
    e ∈ s.entriesIn folder ↔ ∃ name image, s.images[folder.keyStart ++ name]? = some image ∧
      e = ⟨name, image.content.size, image.contentType, image.lastModified, none⟩ := by
  simp only [entriesIn, List.mem_filterMap, Option.map_eq_some_iff, Prod.exists,
    Std.ExtTreeMap.mem_toList_iff_getElem?_eq_some, nameIn_eq_some_iff]
  constructor
  · rintro ⟨key, image, himage, name, rfl, rfl⟩
    exact ⟨name, image, himage, rfl⟩
  · rintro ⟨name, image, himage, rfl⟩
    exact ⟨_, image, himage, name, rfl, rfl⟩

-- Texts that begin alike are in the order of what follows.
private theorem lt_of_append_lt {start s t : String} (h : start ++ s < start ++ t) : s < t := by
  rw [String.lt_iff, String.toList_append, String.toList_append] at h
  rw [String.lt_iff]
  generalize start.toList = common at h
  induction common with
  | nil => exact h
  | cons c rest ih =>
      rcases List.cons_lt_cons_iff.mp h with hlt | ⟨_, hrest⟩
      · exact absurd hlt (Char.lt_irrefl c)
      · exact ih hrest

-- The keys come in order, and since they begin alike so do the names.
theorem entriesIn_sorted (s : MemoryStore) (folder : FolderAddress) :
    (s.entriesIn folder).Pairwise fun a b => a.name < b.name := by
  refine List.Pairwise.filterMap _ ?_ (Std.ExtTreeMap.ordered_keys_toList (t := s.images))
  rintro ⟨key, image⟩ ⟨key', image'⟩ hlt e he e' he'
  obtain ⟨name, hname, rfl⟩ := Option.map_eq_some_iff.mp he
  obtain ⟨name', hname', rfl⟩ := Option.map_eq_some_iff.mp he'
  rw [nameIn_eq_some_iff] at hname hname'
  simp only [hname, hname'] at hlt
  exact lt_of_append_lt (compareOfLessAndEq_eq_lt.mp hlt)

-- What is listed under some names depends on the images under these names only.
theorem filter_entriesIn_congr {s s' : MemoryStore} {folder : FolderAddress} (p : String → Bool)
    (h : ∀ name, p name = true →
      s'.images[folder.keyStart ++ name]? = s.images[folder.keyStart ++ name]?) :
    (s'.entriesIn folder).filter (fun e => p e.name) =
      (s.entriesIn folder).filter (fun e => p e.name) := by
  have hirrefl : Std.Irrefl fun a b : ListingEntry => a.name < b.name := ⟨fun _ => String.lt_irrefl _⟩
  have hantisymm : Std.Antisymm fun a b : ListingEntry => a.name < b.name :=
    ⟨fun _ _ hab hba => absurd hba (String.lt_asymm hab)⟩
  refine List.Pairwise.eq_of_mem_iff ((s'.entriesIn_sorted folder).filter _)
    ((s.entriesIn_sorted folder).filter _) fun e => ?_
  rw [List.mem_filter, List.mem_filter, mem_entriesIn_iff, mem_entriesIn_iff]
  constructor
  · rintro ⟨⟨name, image, himage, rfl⟩, hp⟩
    exact ⟨⟨name, image, (h name hp).symm.trans himage, rfl⟩, hp⟩
  · rintro ⟨⟨name, image, himage, rfl⟩, hp⟩
    exact ⟨⟨name, image, (h name hp).trans himage, rfl⟩, hp⟩

section Put

variable (s : MemoryStore) (a : ImageAddress) (content : ByteArray) (contentType : String)
  (now : Instant)

theorem get_put_of_ne {b : ImageAddress} (hne : b ≠ a) :
    (s.put a content contentType now).get b = s.get b := by
  rw [get, get, getElem?_put, if_neg (mt ImageAddress.key_inj.mp hne)]

theorem contains_put_of_ne {b : ImageAddress} (hne : b ≠ a) :
    (s.put a content contentType now).contains b = s.contains b := by
  rw [contains, contains, Std.ExtTreeMap.contains_eq_isSome_getElem?,
    Std.ExtTreeMap.contains_eq_isSome_getElem?, getElem?_put,
    if_neg (mt ImageAddress.key_inj.mp hne)]

-- No other name of the folder is listed differently.
theorem filter_entriesIn_put (folder : FolderAddress) (p : String → Bool)
    (h : a.parent = folder → p a.name.text = false) :
    ((s.put a content contentType now).entriesIn folder).filter (fun e => p e.name) =
      (s.entriesIn folder).filter (fun e => p e.name) := by
  refine filter_entriesIn_congr p fun name hp => ?_
  rw [getElem?_put, if_neg]
  intro hkey
  obtain ⟨hparent, rfl⟩ := (ImageAddress.keyStart_append_eq_key_iff folder name a).mp hkey
  rw [h hparent] at hp
  cases hp

theorem list_put_of_ne {folder : FolderAddress} (hne : folder ≠ a.parent) :
    (s.put a content contentType now).list folder = s.list folder := by
  have hentries := s.filter_entriesIn_put a content contentType now folder (fun _ => true)
    fun h => absurd h.symm hne
  rw [List.filter_true, List.filter_true] at hentries
  rw [list_eq, list_eq, hentries]

end Put

end MemoryStore

-- A store in memory has an image under the key of each address that holds one, and no other keys.
structure MemoryStore.Holds (s : MemoryStore) (images : Contents) : Prop where
  image : ∀ a, s.images[a.key]? = images a
  keys : ∀ key image, s.images[key]? = some image → ∃ a : ImageAddress, key = a.key

namespace MemoryStore.Holds

variable {s : MemoryStore} {images : Contents}

theorem empty : MemoryStore.empty.Holds Contents.empty := by
  constructor
  · intro a
    exact Std.ExtTreeMap.getElem?_empty
  · intro key image himage
    rw [MemoryStore.empty, Std.ExtTreeMap.getElem?_empty] at himage
    cases himage

variable (h : s.Holds images)

include h

theorem get (a : ImageAddress) :
    s.get a = images.read a := by
  rw [MemoryStore.get, h.image, Contents.read]
  cases images a <;> rfl

theorem contains (a : ImageAddress) : s.contains a = (images a).isSome := by
  rw [MemoryStore.contains, ← h.image, Std.ExtTreeMap.contains_eq_isSome_getElem?]

theorem lists (folder : FolderAddress) : images.Lists folder (s.entriesIn folder) := by
  have hmem : ∀ e, e ∈ s.entriesIn folder ↔
      ∃ name image, images (folder.image name) = some image ∧ e = .ofImage name image := by
    intro e
    rw [mem_entriesIn_iff]
    constructor
    · rintro ⟨name, image, himage, rfl⟩
      obtain ⟨a, ha⟩ := h.keys _ image himage
      rw [ha, h.image] at himage
      obtain ⟨rfl, rfl⟩ := (ImageAddress.keyStart_append_eq_key_iff folder name a).mp ha
      exact ⟨a.name, image, himage, rfl⟩
    · rintro ⟨name, image, himage, rfl⟩
      rw [← h.image, ImageAddress.key_eq] at himage
      exact ⟨name.text, image, himage, rfl⟩
  refine ⟨hmem, (s.entriesIn_sorted folder).imp_of_mem ?_⟩
  intro e e' he he' hlt
  obtain ⟨name, image, _, rfl⟩ := (hmem e).mp he
  obtain ⟨name', image', _, rfl⟩ := (hmem e').mp he'
  exact Segment.utf8_lt_of_lt hlt

theorem put (a : ImageAddress) (content : ByteArray) (contentType : String) (now : Instant) :
    (s.put a content contentType now).Holds (images.put a ⟨content, contentType, now⟩) := by
  constructor
  · intro b
    rw [getElem?_put]
    by_cases hb : b = a
    · rw [hb, if_pos rfl, Contents.put_self]
    · rw [if_neg (mt ImageAddress.key_inj.mp hb), Contents.put_of_ne _ _ hb, h.image]
  · intro key image himage
    rw [getElem?_put] at himage
    split at himage
    · rename_i hkey
      exact ⟨a, hkey⟩
    · exact h.keys key image himage

end MemoryStore.Holds

end Gallery
