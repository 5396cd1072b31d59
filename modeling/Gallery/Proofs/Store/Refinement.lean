import Gallery.Proofs.Store.Holds

namespace Gallery

-- The time at which an image was kept is set by the store, and two stores have clocks of their own.
-- What follows is all but that time.
def StoredImage.timeless (image : StoredImage) : StoredImage :=
  { image with lastModified := .epoch }

def ListingEntry.timeless (e : ListingEntry) : ListingEntry := { e with lastModified := .epoch }

def FolderListing.timeless (l : FolderListing) : FolderListing :=
  { l with entries := l.entries.map ListingEntry.timeless }

namespace Contents

def timeless (images : Contents) : Contents := fun a => (images a).map StoredImage.timeless

theorem map_timeless_read (images : Contents) (a : ImageAddress) :
    (images.read a).map StoredImage.timeless = images.timeless.read a := by
  unfold read timeless
  cases images a <;> rfl

theorem timeless_put (images : Contents) (a : ImageAddress) (image : StoredImage) :
    (images.put a image).timeless = images.timeless.put a image.timeless := by
  funext b
  by_cases hb : b = a
  · rw [hb, put_self, timeless, put_self]
    rfl
  · rw [put_of_ne _ _ hb, timeless, put_of_ne _ _ hb]
    rfl

theorem Lists.timeless {images : Contents} {folder : FolderAddress} {entries : List ListingEntry}
    (h : images.Lists folder entries) :
    images.timeless.Lists folder (entries.map ListingEntry.timeless) := by
  refine ⟨fun e => ?_, List.pairwise_map.mpr h.sorted⟩
  rw [List.mem_map]
  constructor
  · rintro ⟨e, he, rfl⟩
    obtain ⟨name, image, himage, rfl⟩ := (h.mem_iff e).mp he
    refine ⟨name, image.timeless, ?_, rfl⟩
    rw [Contents.timeless, himage]
    rfl
  · rintro ⟨name, image, himage, rfl⟩
    obtain ⟨kept, hkept, rfl⟩ := Option.map_eq_some_iff.mp himage
    exact ⟨.ofImage name kept, (h.mem_iff _).mpr ⟨name, kept, hkept, rfl⟩, rfl⟩

end Contents

theorem FolderListing.map_timeless_ofEntries (folder : FolderAddress)
    (entries : List ListingEntry) :
    (FolderListing.ofEntries folder entries).map FolderListing.timeless =
      FolderListing.ofEntries folder (entries.map ListingEntry.timeless) := by
  cases entries <;> rfl

namespace Store

-- What a store can be asked for.
inductive Call where
  | put (a : ImageAddress) (content : ByteArray) (contentType : String)
  | get (a : ImageAddress)
  | list (folder : FolderAddress)
  | contains (a : ImageAddress)

-- The content type of what is to be kept can be counted in two bytes.
def Call.Countable : Call → Prop
  | .put _ _ contentType => contentType.utf8ByteSize ≤ Envelope.maxContentType
  | _ => True

inductive Answer where
  | put (result : Except StoreError Unit)
  | get (result : Except StoreError StoredImage)
  | list (result : Except StoreError FolderListing)
  | contains (result : Except StoreError Bool)

def Answer.timeless : Answer → Answer
  | .get result => .get (result.map StoredImage.timeless)
  | .list result => .list (result.map FolderListing.timeless)
  | answer => answer

-- A call, with the time at which it is made and the identifier that is drawn for it.
structure Step where
  call : Call
  now : Instant
  random : Uuid

def step (s : Store) (c : Step) : Answer × Store :=
  match c.call with
  | .put a content contentType =>
    let (result, s) := s.put a content contentType c.now c.random
    (.put result, s)
  | .get a => (.get (s.get a), s)
  | .list folder => (.list (s.list folder), s)
  | .contains a => (.contains (s.contains a), s)

-- The answers to one call after another.
def answers (s : Store) : List Step → List Answer
  | [] => []
  | c :: rest => (s.step c).1 :: (s.step c).2.answers rest

-- Two stores hold the same, but for the times.
def Alike (s s' : Store) : Prop :=
  ∃ images images' : Contents, s.Holds images ∧ s'.Holds images' ∧
    images.timeless = images'.timeless

namespace Alike

variable {s s' : Store} (h : s.Alike s')

include h

theorem get (a : ImageAddress) :
    (s.get a).map StoredImage.timeless = (s'.get a).map StoredImage.timeless := by
  obtain ⟨images, images', hs, hs', hsame⟩ := h
  rw [hs.get, hs'.get, Contents.map_timeless_read, Contents.map_timeless_read, hsame]

theorem contains (a : ImageAddress) : s.contains a = s'.contains a := by
  obtain ⟨images, images', hs, hs', hsame⟩ := h
  have ha : (images a).map StoredImage.timeless = (images' a).map StoredImage.timeless :=
    congrFun hsame a
  rw [hs.contains, hs'.contains, ← Option.isSome_map, ha, Option.isSome_map]

theorem list (folder : FolderAddress) :
    (s.list folder).map FolderListing.timeless = (s'.list folder).map FolderListing.timeless := by
  obtain ⟨images, images', hs, hs', hsame⟩ := h
  obtain ⟨entries, hlists, hlist⟩ := hs.list folder
  obtain ⟨entries', hlists', hlist'⟩ := hs'.list folder
  have htimeless := hlists'.timeless
  rw [← hsame] at htimeless
  rw [hlist, hlist', FolderListing.map_timeless_ofEntries, FolderListing.map_timeless_ofEntries,
    hlists.timeless.unique htimeless]

-- Each step gets the same answer from both, and leaves them alike.
theorem step {c c' : Step} (hcall : c.call = c'.call) (hcount : c.call.Countable) :
    (s.step c).1.timeless = (s'.step c').1.timeless ∧ (s.step c).2.Alike (s'.step c').2 := by
  unfold Store.step
  rw [← hcall]
  cases hc : c.call with
  | put a content contentType =>
      rw [hc] at hcount
      obtain ⟨images, images', hs, hs', hsame⟩ := h
      obtain ⟨t, hput, ht⟩ := hs.put a content c.now c.random hcount
      obtain ⟨t', hput', ht'⟩ := hs'.put a content c'.now c'.random hcount
      simp only [hput, hput']
      refine ⟨trivial, _, _, ht, ht', ?_⟩
      rw [Contents.timeless_put, Contents.timeless_put, hsame]
      rfl
  | get a => exact ⟨congrArg Answer.get (h.get a), h⟩
  | list folder => exact ⟨congrArg Answer.list (h.list folder), h⟩
  | contains a => exact ⟨congrArg Answer.contains (h.contains a), h⟩

theorem answers {steps steps' : List Step} (hcalls : steps.map Step.call = steps'.map Step.call)
    (hcount : ∀ c ∈ steps, c.call.Countable) :
    (s.answers steps).map Answer.timeless = (s'.answers steps').map Answer.timeless := by
  induction steps generalizing s s' steps' with
  | nil =>
      cases steps' with
      | nil => rfl
      | cons c' rest' => cases hcalls
  | cons c rest ih =>
      cases steps' with
      | nil => cases hcalls
      | cons c' rest' =>
          rw [List.map_cons, List.map_cons, List.cons.injEq] at hcalls
          obtain ⟨hcall, hrest⟩ := hcalls
          obtain ⟨hanswer, hnext⟩ := h.step hcall (hcount c (by simp))
          simp only [Store.answers, List.map_cons]
          rw [hanswer, ih hnext hrest fun d hd => hcount d (by simp [hd])]

end Alike

-- A new store of files and a new store in memory cannot be told apart by any sequence of calls,
-- unless by their clocks.
theorem answers_of_files_eq_of_memory {files : FileStore} {root : FilePath} (h : files.EmptyAt root)
    {steps steps' : List Step} (hcalls : steps.map Step.call = steps'.map Step.call)
    (hcount : ∀ c ∈ steps, c.call.Countable) :
    ((Store.files files).answers steps).map Answer.timeless =
      ((Store.memory .empty).answers steps').map Answer.timeless := by
  have hfiles : (Store.files files).Holds Contents.empty := ⟨root, h.holdsAt⟩
  have hmemory : (Store.memory .empty).Holds Contents.empty := MemoryStore.Holds.empty
  have halike : (Store.files files).Alike (Store.memory .empty) :=
    ⟨_, _, hfiles, hmemory, rfl⟩
  exact halike.answers hcalls hcount

-- Two runs of the same three calls, at different times.
theorem answers_of_new_directory :
    ∃ files, FileStore.create "images" FileTree.empty = .ok files ∧
      ((Store.files files).answers
        [⟨.put .sample ⟨#[71, 73, 70]⟩ "image/gif", .epoch, ⟨1, 2⟩⟩,
          ⟨.list ImageAddress.sample.parent, .epoch, ⟨1, 2⟩⟩,
          ⟨.get .sample, .epoch, ⟨1, 2⟩⟩]).map Answer.timeless =
      ((Store.memory .empty).answers
        [⟨.put .sample ⟨#[71, 73, 70]⟩ "image/gif", ⟨5, 0, by decide⟩, ⟨3, 4⟩⟩,
          ⟨.list ImageAddress.sample.parent, ⟨6, 0, by decide⟩, ⟨3, 4⟩⟩,
          ⟨.get .sample, ⟨7, 0, by decide⟩, ⟨3, 4⟩⟩]).map Answer.timeless := by
  obtain ⟨files, hcreate, hempty⟩ := FileStore.create_images
  refine ⟨files, hcreate, answers_of_files_eq_of_memory hempty rfl ?_⟩
  intro c hc
  simp only [List.mem_cons, List.not_mem_nil, or_false] at hc
  rcases hc with rfl | rfl | rfl
  · exact show "image/gif".utf8ByteSize ≤ Envelope.maxContentType by decide
  · trivial
  · trivial

end Store

end Gallery
