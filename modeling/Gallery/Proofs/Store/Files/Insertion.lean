import Gallery.Proofs.Store.Files.Listing
import Gallery.Proofs.Store.Frame

namespace Gallery

namespace ListingEntry

instance : DecidableRel Before :=
  fun a b => inferInstanceAs (Decidable (Text.utf8 a.name < Text.utf8 b.name))

theorem before_or_before_iff (a b : ListingEntry) :
    a.Before b ∨ b.Before a ↔ a.name ≠ b.name := by
  constructor
  · intro h hname
    simp only [Before, hname, or_self] at h
    exact List.lt_irrefl _ h
  · intro hname
    by_contra hneither
    obtain ⟨hnot, hnot'⟩ := not_or.mp hneither
    exact hname
      (Text.utf8_injective (List.le_antisymm (List.not_lt.mp hnot') (List.not_lt.mp hnot)))

-- Entries with one more at its place in the order of the names. An entry of its name makes way.
def placedIn (e : ListingEntry) (entries : List ListingEntry) : List ListingEntry :=
  entries.filter (·.Before e) ++ e :: entries.filter (e.Before ·)

theorem mem_placedIn_iff (e x : ListingEntry) (entries : List ListingEntry) :
    x ∈ e.placedIn entries ↔ x = e ∨ x ∈ entries ∧ x.name ≠ e.name := by
  rw [← before_or_before_iff, and_or_left]
  simp only [placedIn, List.mem_append, List.mem_cons, List.mem_filter, decide_eq_true_eq]
  tauto

theorem placedIn_sorted (e : ListingEntry) {entries : List ListingEntry}
    (h : entries.Pairwise Before) : (e.placedIn entries).Pairwise Before := by
  refine List.pairwise_append.mpr ⟨h.filter _, List.pairwise_cons.mpr ⟨?_, h.filter _⟩, ?_⟩
  · intro y hy
    simpa using (List.mem_filter.mp hy).2
  · intro x hx y hy
    have hxe : x.Before e := by simpa using (List.mem_filter.mp hx).2
    rcases List.mem_cons.mp hy with rfl | hy
    · exact hxe
    · have hey : e.Before y := by simpa using (List.mem_filter.mp hy).2
      exact List.lt_trans hxe hey

end ListingEntry

theorem FolderListing.ofEntries_placedIn (folder : FolderAddress) (e : ListingEntry)
    (entries : List ListingEntry) :
    ofEntries folder (e.placedIn entries) =
      .ok ⟨folder.owner.text, folder.folder.text, none, e.placedIn entries⟩ := by
  have hne : (e.placedIn entries).isEmpty = false := by simp [ListingEntry.placedIn]
  rw [ofEntries, hne]
  rfl

namespace FileStore

-- Of all names in a directory, that of a kept image is listed with this image.
theorem mem_entriesIn_and_name_iff {t : FileTree} {directory : FilePath} {name : ImageName}
    {image : StoredImage} (hshort : image.contentType.utf8ByteSize ≤ Envelope.maxContentType)
    (hfile : t.lookup (directory ++ [Text.utf8 name.text]) =
      some (.file (Envelope.fileOf image.contentType image.content) image.lastModified))
    (e : ListingEntry) :
    e ∈ entriesIn t directory ∧ e.name = name.text ↔ e = .ofImage name image := by
  rw [mem_entriesIn_iff]
  constructor
  · rintro ⟨⟨other, content, modified, contentType, size, hlookup, hheader, rfl⟩, hname⟩
    cases Segment.text_injective hname
    rw [hfile, Option.some.injEq, FileTree.Entry.file.injEq] at hlookup
    obtain ⟨rfl, rfl⟩ := hlookup
    rw [Envelope.readHeader_fileOf _ _ hshort] at hheader
    cases hheader
    rfl
  · rintro rfl
    exact ⟨⟨name, _, _, _, _, hfile, Envelope.readHeader_fileOf _ _ hshort, rfl⟩, rfl⟩

section Kept

variable {s : FileStore} {t' : FileTree} {root : FilePath} {a : ImageAddress} {random : Uuid}
  (image : StoredImage)
  (hattempt : Attempted s.tree t' (FilePath.ofString s.base) root a random)
  (hshort : image.contentType.utf8ByteSize ≤ Envelope.maxContentType)
  (hfile : t'.lookup (root ++ a.names) =
    some (.file (Envelope.fileOf image.contentType image.content) image.lastModified))

include hattempt hfile

theorem Attempted.entryAt_kept :
    t'.entryAt (FilePath.ofString s.base ++ a.names) =
      .ok (.file (Envelope.fileOf image.contentType image.content) image.lastModified) :=
  hattempt.rooted.entryAt_found a.properName hfile

theorem Attempted.contains_kept : FileStore.contains { s with tree := t' } a = .ok true := by
  rw [contains_of_entryAt, hattempt.entryAt_kept image hfile]

include hshort

theorem Attempted.get_kept : FileStore.get { s with tree := t' } a = .ok image := by
  rw [get_of_entryAt, hattempt.entryAt_kept image hfile]
  simp only [Envelope.decode_fileOf _ _ hshort]

theorem Attempted.entriesIn_kept :
    entriesIn t' (root ++ a.parent.names) =
      (ListingEntry.ofImage a.name image).placedIn
        (entriesIn s.tree (root ++ a.parent.names)) := by
  refine (entriesIn_sorted _ _).eq_of_mem_iff
    (ListingEntry.placedIn_sorted _ (entriesIn_sorted _ _)) fun e => ?_
  have hplace : e ∈ entriesIn t' (root ++ a.parent.names) ∧ e.name = a.name.text ↔
      e = .ofImage a.name image :=
    mem_entriesIn_and_name_iff hshort (by rw [List.append_assoc]; exact hfile) e
  have hothers : e ∈ entriesIn t' (root ++ a.parent.names) ∧ e.name ≠ a.name.text ↔
      e ∈ entriesIn s.tree (root ++ a.parent.names) ∧ e.name ≠ a.name.text := by
    simpa using congrArg (e ∈ ·) hattempt.filter_others
  rw [ListingEntry.mem_placedIn_iff, ← hplace]
  change _ ↔ _ ∨ _ ∧ e.name ≠ a.name.text
  rw [← hothers]
  tauto

end Kept

variable {s : FileStore} {root : FilePath} {a : ImageAddress} {content : ByteArray}
  {contentType : String} {now : Instant} {random : Uuid}

-- An image that is kept is what is read at its address from then on, and its folder lists it at its
-- place among the images that were listed before. Whatever else is in the tree, all other reads
-- have the results that they had, no other file has changed, and the hidden file is gone.
theorem put_changes_one_image (h : s.tree.Rooted (FilePath.ofString s.base) root)
    (hput : (s.put a content contentType now random).1 = .ok ()) :
    let after := (s.put a content contentType now random).2
    let image : StoredImage := ⟨content, contentType, now⟩
    after.get a = .ok image ∧ after.contains a = .ok true ∧
      (∀ b, b ≠ a → after.get b = s.get b ∧ after.contains b = s.contains b) ∧
      (∀ folder, folder ≠ a.parent → after.list folder = s.list folder) ∧
      (∃ entries, s.list a.parent = FolderListing.ofEntries a.parent entries ∧
        entries.Pairwise ListingEntry.Before ∧
        after.list a.parent = .ok ⟨a.owner.text, a.folder.text, none,
          (ListingEntry.ofImage a.name image).placedIn entries⟩) ∧
      after.tree.lookup (root ++ a.hiddenNames random) = none ∧
      ∀ path other modified, path ≠ root ++ a.names →
        after.tree.lookup path = some (.file other modified) →
        s.tree.lookup path = some (.file other modified) := by
  obtain ⟨t', hattempt, ⟨hrun, hshort, hfile, hgone⟩ | ⟨⟨e, hrun⟩, _⟩⟩ :=
    put_cases h a content contentType now random
  swap
  · rw [hrun] at hput
    cases hput
  rw [hrun]
  have hkept := hattempt.get_kept ⟨content, contentType, now⟩ hshort hfile
  have hbut := hattempt.sameReadsBut h
  refine ⟨hkept, hattempt.contains_kept ⟨content, contentType, now⟩ hfile,
    fun b hb => ⟨hbut.get b hb, hbut.contains b hb⟩, hbut.list, ?_, hgone, ?_⟩
  · have hway : ¬s.tree.Obstructed root a.names :=
      mt (hattempt.sameAbove.obstructed_iff (by simp)).mpr (hattempt.rooted.not_obstructed hfile)
    have hway' : ¬t'.Obstructed root a.names := hattempt.rooted.not_obstructed hfile
    have hentries := hattempt.entriesIn_kept ⟨content, contentType, now⟩ hshort hfile
    refine ⟨entriesIn s.tree (root ++ a.parent.names), list_free h _ hway, entriesIn_sorted _ _, ?_⟩
    rw [list_free (s := { s with tree := t' }) hattempt.rooted _ hway', hentries,
      FolderListing.ofEntries_placedIn]
    rfl
  · intro path other modified hp hother
    by_cases hhidden : path = root ++ a.hiddenNames random
    · rw [hhidden, hgone] at hother
      cases hother
    · rcases hattempt.elsewhere path hhidden hp with hsame | ⟨_, hdir, _⟩
      · exact hsame.symm.trans hother
      · exact absurd hdir (FileTree.not_hasDirectory_of_file hother)

theorem put_besideCut :
    (besideCut.put ImageAddress.sample ⟨#[137, 80]⟩ "image/png" .epoch ⟨1, 2⟩).1 = .ok () := by
  obtain ⟨_, _, ⟨hrun, _⟩ | ⟨_, _, hrefused⟩⟩ := put_cases besideCut_rooted ImageAddress.sample
    ⟨#[137, 80]⟩ "image/png" .epoch ⟨1, 2⟩
  · rw [hrun]
  · cases hrefused with
    | obstructed hway => exact absurd hway (besideCut_rooted.not_obstructed rfl)
    | occupied hdir => exact absurd hdir (FileTree.not_hasDirectory_of_file rfl)
    | hiddenOccupied hdir => exact absurd hdir (FileTree.not_hasDirectory_of_none rfl)
    | tooLong hlong => exact absurd hlong (by decide +kernel)

-- The one entry of the folder is replaced; the file that is cut off stays as it is.
theorem put_changes_one_image_beside_cut :
    besideCut.tree.Rooted (FilePath.ofString besideCut.base) [] ∧
      let run := besideCut.put ImageAddress.sample ⟨#[137, 80]⟩ "image/png" .epoch ⟨1, 2⟩
      run.1 = .ok () ∧
        run.2.get ImageAddress.sample = .ok ⟨⟨#[137, 80]⟩, "image/png", .epoch⟩ ∧
        run.2.get (ImageAddress.sample.parent.image cutName) =
          besideCut.get (ImageAddress.sample.parent.image cutName) := by
  have hput := put_besideCut
  obtain ⟨hget, _, hothers, _⟩ := put_changes_one_image besideCut_rooted hput
  refine ⟨besideCut_rooted, hput, hget, (hothers _ ?_).1⟩
  intro he
  have hname := congrArg (fun b : ImageAddress => b.name.text) he
  revert hname
  decide

end FileStore

end Gallery
