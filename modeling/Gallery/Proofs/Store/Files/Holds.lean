import Gallery.Proofs.Store.Files.Put

namespace Gallery

-- A store of files has the envelope of each image in its place below the root. The directories of
-- the owners and folders are above these, and there are no others.
structure FileStore.HoldsAt (s : FileStore) (root : FilePath) (images : Contents) : Prop where
  rooted : s.tree.Rooted (FilePath.ofString s.base) root
  image : ∀ a, s.tree.lookup (root ++ a.names) = (images a).map fun image =>
    .file (Envelope.fileOf image.contentType image.content) image.lastModified
  short : ∀ a image, images a = some image →
    image.contentType.utf8ByteSize ≤ Envelope.maxContentType
  above : ∀ names content modified, names.length < 3 →
    s.tree.lookup (root ++ names) ≠ some (.file content modified)
  below : ∀ names, 3 ≤ names.length → ¬s.tree.HasDirectory (root ++ names)

-- A store of files with nothing in it: its base leads to an empty directory.
structure FileStore.EmptyAt (s : FileStore) (root : FilePath) : Prop where
  leads : s.tree.locate (FilePath.ofString s.base) = .ok (.entry root)
  directory : s.tree.HasDirectory root
  nothing : ∀ names, names ≠ [] → s.tree.lookup (root ++ names) = none

theorem FileStore.EmptyAt.holdsAt {s : FileStore} {root : FilePath} (h : s.EmptyAt root) :
    s.HoldsAt root Contents.empty := by
  obtain ⟨mode, hmode⟩ := h.directory
  refine ⟨⟨h.leads, h.directory, ?_, ?_⟩, ?_, ?_, ?_, ?_⟩
  · intro path name e he
    rw [h.nothing _ (by simp)] at he
    cases he
  · intro path target
    by_cases hpath : path = []
    · rw [hpath, List.append_nil, hmode]
      simp
    · rw [h.nothing _ hpath]
      simp
  · intro a
    exact h.nothing _ (by simp [ImageAddress.names])
  · intro a image himage
    cases himage
  · intro names content modified _
    by_cases hnames : names = []
    · rw [hnames, List.append_nil, hmode]
      simp
    · rw [h.nothing _ hnames]
      simp
  · intro names hlength
    refine FileTree.not_hasDirectory_of_none (h.nothing _ ?_)
    rintro rfl
    simp at hlength

-- A store that is created where there was nothing has nothing in it.
theorem FileStore.create_emptyAt {base : String} {tree : FileTree} (h : tree.Rooted [] [])
    (hne : FilePath.ofString base ≠ [])
    (hnames : ∀ n ∈ FilePath.ofString base, FileTree.ProperName n)
    (hway : ¬tree.Obstructed [] (FilePath.ofString base))
    (hnothing : ∀ more, tree.lookup (FilePath.ofString base ++ more) = none) :
    ∃ s, create base tree = .ok s ∧ s.EmptyAt (FilePath.ofString base) := by
  have hfree : ¬tree.Obstructed [] (FilePath.ofString base ++ [[]]) := by
    intro ho
    obtain ⟨content, modified, hfile⟩ := FileTree.file_of_obstructed ho hway
    have hnone := hnothing []
    rw [List.append_nil] at hnone
    rw [List.nil_append, hnone] at hfile
    cases hfile
  obtain ⟨t', hmade, hrooted, hdir, hgrows⟩ := h.makeDirectories_free hne hnames hfree
  rw [List.nil_append] at hmade hdir
  have hlocate : t'.locate (FilePath.ofString base) = .ok (.entry (FilePath.ofString base)) := by
    obtain ⟨mode, hmode⟩ := hdir
    exact hrooted.locate_found hnames hmode
  refine ⟨⟨base, t'⟩, ?_, hlocate, hdir, ?_⟩
  · simp only [create, hmade]
  · intro names hpos
    have hdeep : (FilePath.ofString base).length < (FilePath.ofString base ++ names).length := by
      rw [List.length_append]
      have := List.length_pos_iff.mpr hpos
      omega
    exact (hgrows.lookup_eq hdeep).trans (hnothing names)

theorem FileStore.create_images :
    ∃ s, create "images" FileTree.empty = .ok s ∧ s.EmptyAt (FilePath.ofString "images") := by
  have hnames : FilePath.ofString "images" = [Text.utf8 "images"] := by decide +kernel
  have hne : FilePath.ofString "images" ≠ [] := by simp [hnames]
  refine create_emptyAt FileTree.rooted_empty hne ?_ ?_ ?_
  · rw [hnames]
    decide +kernel
  · rintro ⟨before, rest, content, modified, _, _, hfile⟩
    by_cases hbefore : before = []
    · rw [hbefore] at hfile
      cases hfile
    · rw [FileTree.lookup_empty (by simpa using hbefore)] at hfile
      cases hfile
  · intro more
    exact FileTree.lookup_empty (by simp [hnames])

namespace FileStore.HoldsAt

variable {s : FileStore} {root : FilePath} {images : Contents} (h : s.HoldsAt root images)

include h

theorem not_obstructed {names : FilePath} (hlength : names.length ≤ 3) :
    ¬s.tree.Obstructed root names := by
  rintro ⟨before, rest, content, modified, rfl, hrest, hfile⟩
  have hpos := List.length_pos_iff.mpr hrest
  rw [List.length_append] at hlength
  exact h.above before content modified (by omega) hfile

theorem entryAt (a : ImageAddress) :
    s.tree.entryAt (FilePath.ofString s.base ++ a.names) =
      (images a).elim (.error .noEntry) fun image =>
        .ok (.file (Envelope.fileOf image.contentType image.content) image.lastModified) := by
  have hplace := h.image a
  cases himage : images a with
  | none =>
      rw [himage] at hplace
      exact h.rooted.entryAt_missing a.properName hplace (h.not_obstructed (by simp))
  | some image =>
      rw [himage] at hplace
      exact h.rooted.entryAt_found a.properName hplace

theorem get (a : ImageAddress) :
    s.get a = images.read a := by
  rw [get_of_entryAt, h.entryAt, Contents.read]
  cases himage : images a with
  | none => rfl
  | some image =>
      simp only [Option.elim_some, Envelope.decode_fileOf _ _ (h.short a image himage)]

theorem contains (a : ImageAddress) : s.contains a = .ok (images a).isSome := by
  rw [contains_of_entryAt, h.entryAt]
  cases images a <;> rfl

theorem lists (folder : FolderAddress) :
    images.Lists folder (entriesIn s.tree (root ++ folder.names)) := by
  refine ⟨fun e => ?_, entriesIn_sorted _ _⟩
  have hplace : ∀ name : ImageName, s.tree.lookup (root ++ folder.names ++ [Text.utf8 name.text]) =
      (images (folder.image name)).map fun image =>
        .file (Envelope.fileOf image.contentType image.content) image.lastModified := by
    intro name
    rw [List.append_assoc]
    exact h.image (folder.image name)
  rw [mem_entriesIn_iff]
  constructor
  · rintro ⟨name, content, modified, contentType, size, hlookup, hheader, rfl⟩
    rw [hplace, Option.map_eq_some_iff] at hlookup
    obtain ⟨image, himage, hfile⟩ := hlookup
    cases hfile
    rw [Envelope.readHeader_fileOf _ _ (h.short _ image himage)] at hheader
    cases hheader
    exact ⟨name, image, himage, rfl⟩
  · rintro ⟨name, image, himage, rfl⟩
    refine ⟨name, _, _, _, _, ?_, Envelope.readHeader_fileOf _ _ (h.short _ image himage), rfl⟩
    rw [hplace, himage]
    rfl

theorem list (folder : FolderAddress) :
    s.list folder = FolderListing.ofEntries folder (entriesIn s.tree (root ++ folder.names)) :=
  list_free h.rooted [] (h.not_obstructed (by simp))

theorem put (a : ImageAddress) (content : ByteArray) {contentType : String} (now : Instant)
    (random : Uuid) (hshort : contentType.utf8ByteSize ≤ Envelope.maxContentType) :
    ∃ s', s.put a content contentType now random = (.ok (), s') ∧
      s'.HoldsAt root (images.put a ⟨content, contentType, now⟩) := by
  obtain ⟨t', hattempt, ⟨hput, _, hfile, _⟩ | ⟨_, _, hrefused⟩⟩ :=
    put_cases h.rooted a content contentType now random
  · refine ⟨{ s with tree := t' }, hput, hattempt.rooted, ?_, ?_, ?_, ?_⟩
    · intro b
      by_cases hb : b = a
      · rw [hb, Contents.put_self]
        exact hfile
      · rw [Contents.put_of_ne _ _ hb]
        exact (hattempt.lookup_of_ne hb).trans (h.image b)
    · intro b image himage
      by_cases hb : b = a
      · rw [hb, Contents.put_self] at himage
        cases himage
        exact hshort
      · rw [Contents.put_of_ne _ _ hb] at himage
        exact h.short b image himage
    · intro names other modified hlength hother
      rcases hattempt.sameAbove.above _ hlength with hsame | ⟨_, hdir⟩
      · exact h.above names other modified hlength (hsame.symm.trans hother)
      · exact FileTree.not_hasDirectory_of_file hother hdir
    · intro names hlength hdir
      by_cases hplace : names = a.names
      · rw [hplace] at hdir
        exact FileTree.not_hasDirectory_of_file hfile hdir
      · exact h.below names hlength (hattempt.hasDirectory_below hlength hplace hdir)
  · -- nothing that could stand in the way is there
    cases hrefused with
    | obstructed hway => exact absurd hway (h.not_obstructed (by simp))
    | occupied hdir => exact absurd hdir (h.below _ (by simp))
    | hiddenOccupied hdir => exact absurd hdir (h.below _ (by simp [ImageAddress.hiddenNames]))
    | tooLong hlong => exact absurd hshort (Nat.not_le.mpr hlong)

end FileStore.HoldsAt

end Gallery
