import Gallery.Proofs.Store.Files.Reads

namespace Gallery

namespace FileTree

variable {t : FileTree} {path directory : FilePath}

theorem readDirectory_eq_ok_iff (children : List (FileName × Entry)) :
    t.readDirectory path = .ok children ↔
      ∃ directory, t.locate path = .ok (.entry directory) ∧ t.HasDirectory directory ∧
        children = t.children directory := by
  unfold readDirectory
  constructor
  · intro h
    split at h
    · cases h
    · cases h
    · rename_i directory hlocate
      split at h
      · rename_i mode hmode
        cases h
        exact ⟨directory, hlocate, ⟨mode, hmode⟩, rfl⟩
      · cases h
      · cases h
  · rintro ⟨directory, hlocate, ⟨mode, hmode⟩, rfl⟩
    simp only [hlocate, hmode]

-- A file in a directory is what its name after the path of the directory stands for, however many
-- links that path goes along.
theorem entryAt_child (hlocate : t.locate path = .ok (.entry directory))
    (hd : t.HasDirectory directory) {name : FileName} (hname : ProperName name)
    {content : ByteArray} {modified : Instant}
    (hfile : t.lookup (directory ++ [name]) = some (.file content modified)) :
    t.entryAt (path ++ [name]) = .ok (.file content modified) := by
  obtain ⟨left, hleft⟩ := walk_append hlocate hd
  rw [entryAt, locate, hleft true [name] (by simp), walk_to_file _ _ _ _ hname hfile, if_pos rfl]
  simp only [hfile, Option.elim_some]

end FileTree

theorem FolderListing.ofEntries_eq_notFound_iff (folder : FolderAddress)
    (entries : List ListingEntry) :
    (∃ what, ofEntries folder entries = .error (.notFound what)) ↔ entries = [] := by
  cases entries with
  | nil => exact ⟨fun _ => rfl, fun _ => ⟨_, rfl⟩⟩
  | cons e rest =>
      constructor
      · rintro ⟨what, h⟩
        cases h
      · intro h
        cases h

namespace FileStore

variable {s : FileStore} {folder : FolderAddress}

-- The directory of a folder has a regular file under a name.
def HasFile (s : FileStore) (folder : FolderAddress) (name : ImageName) : Prop :=
  ∃ children content modified,
    s.tree.readDirectory (s.path [folder.owner.text, folder.folder.text]) = .ok children ∧
      (Text.utf8 name.text, FileTree.Entry.file content modified) ∈ children

section Read

variable {name : ImageName} {children : List (FileName × FileTree.Entry)} {content : ByteArray}
  {modified : Instant}
  (hread : s.tree.readDirectory (s.path [folder.owner.text, folder.folder.text]) = .ok children)

include hread

-- An image that has a regular file in the directory of its folder is read from that file.
theorem get_of_mem_children
    (hmem : (Text.utf8 name.text, FileTree.Entry.file content modified) ∈ children) :
    s.get (folder.image name) = match Envelope.decode content with
      | .ok (contentType, content) => .ok ⟨content, contentType, modified⟩
      | .error fault => .error (corrupt (folder.image name).key fault) := by
  obtain ⟨directory, hlocate, hd, rfl⟩ := (FileTree.readDirectory_eq_ok_iff _).mp hread
  have hfile := (s.tree.mem_children_iff _ _ _).mp hmem
  have hentry := FileTree.entryAt_child hlocate hd name.properName hfile
  have hpath : FilePath.ofString s.base ++ (folder.image name).names =
      s.path [folder.owner.text, folder.folder.text] ++ [Text.utf8 name.text] :=
    (List.append_assoc _ _ _).symm
  have hget := get_of_entryAt s (folder.image name)
  rw [hpath, hentry] at hget
  exact hget

theorem list_of_children :
    s.list folder = FolderListing.ofEntries folder (children.filterMap listed) := by
  rw [list_of_readDirectory]
  simp only [path, List.map] at hread
  simp only [FolderAddress.names, hread]

-- What is listed are the regular files that can be read as images, with what is read from them.
theorem mem_listed_iff (e : ListingEntry) :
    e ∈ children.filterMap listed ↔ ∃ (name : ImageName) (image : StoredImage),
      s.HasFile folder name ∧ s.get (folder.image name) = .ok image ∧ e = .ofImage name image := by
  rw [List.mem_filterMap]
  constructor
  · rintro ⟨child, hmem, hlisted⟩
    obtain ⟨name, content, modified, contentType, size, rfl, hheader, rfl⟩ :=
      (listed_eq_some_iff child e).mp hlisted
    obtain ⟨held, hdecode, rfl⟩ := (Envelope.readHeader_eq_ok_iff _ _ _).mp hheader
    refine ⟨name, ⟨held, contentType, modified⟩, ⟨children, content, modified, hread, hmem⟩, ?_,
      rfl⟩
    rw [get_of_mem_children hread hmem, hdecode]
  · rintro ⟨name, image, ⟨_, content, modified, hread', hmem⟩, hget, rfl⟩
    rw [hread, Except.ok.injEq] at hread'
    subst hread'
    rw [get_of_mem_children hread hmem] at hget
    split at hget
    · rename_i contentType held hdecode
      cases hget
      exact ⟨_, hmem, (listed_eq_some_iff _ _).mpr ⟨name, content, modified, contentType, held.size,
        rfl, (Envelope.readHeader_eq_ok_iff _ _ _).mpr ⟨held, hdecode, rfl⟩, rfl⟩⟩
    · cases hget

end Read

-- A regular file that cannot be read as an image is corrupt.
theorem HasFile.get_cases {name : ImageName} (h : s.HasFile folder name) :
    (∃ image, s.get (folder.image name) = .ok image) ∨
      ∃ fault, s.get (folder.image name) = .error (corrupt (folder.image name).key fault) := by
  obtain ⟨children, content, modified, hread, hmem⟩ := h
  rw [get_of_mem_children hread hmem]
  cases Envelope.decode content with
  | ok found => exact Or.inl ⟨_, rfl⟩
  | error fault => exact Or.inr ⟨fault, rfl⟩

-- The entries of a listing that meets no error of the system: exactly the regular files of the
-- folder that can be read as images, with what is read from them, in the order of their names.
structure ListsImages (s : FileStore) (folder : FolderAddress) (entries : List ListingEntry) :
    Prop where
  list_eq : s.list folder = FolderListing.ofEntries folder entries
  sorted : entries.Pairwise ListingEntry.Before
  mem_iff : ∀ e, e ∈ entries ↔ ∃ (name : ImageName) (image : StoredImage),
    s.HasFile folder name ∧ s.get (folder.image name) = .ok image ∧ e = .ofImage name image

theorem exists_listsImages (h : ∀ e, s.list folder ≠ .error (.system e)) :
    ∃ entries, s.ListsImages folder entries := by
  cases hread : s.tree.readDirectory (s.path [folder.owner.text, folder.folder.text]) with
  | error e =>
      have hlist := list_of_readDirectory s folder
      have hread' := hread
      simp only [path, List.map] at hread'
      simp only [FolderAddress.names, hread'] at hlist
      by_cases he : e = .noEntry
      · rw [if_pos he] at hlist
        refine ⟨[], hlist, List.Pairwise.nil,
          fun e => ⟨fun hmem => (List.not_mem_nil hmem).elim, ?_⟩⟩
        rintro ⟨_, _, ⟨_, _, _, hok, _⟩, _⟩
        rw [hread] at hok
        cases hok
      · rw [if_neg he] at hlist
        exact absurd hlist (h e)
  | ok children =>
      refine ⟨_, list_of_children hread, ?_, mem_listed_iff hread⟩
      obtain ⟨directory, _, _, rfl⟩ := (FileTree.readDirectory_eq_ok_iff _).mp hread
      exact entriesIn_sorted s.tree directory

-- A folder is listed without an error of the system only by the images that can be read from its
-- regular files: each of them once, in the order of the names, and with the content type, the size
-- and the time that reading it brings. Files that are corrupt are left out, and there is no listing
-- if nothing is left.
theorem list_agrees_with_get (h : ∀ e, s.list folder ≠ .error (.system e)) :
    ∃ entries, s.list folder = FolderListing.ofEntries folder entries ∧
      entries.Pairwise ListingEntry.Before ∧
      (∀ e, e ∈ entries ↔ ∃ (name : ImageName) (image : StoredImage),
        s.HasFile folder name ∧ s.get (folder.image name) = .ok image ∧
          e = .ofImage name image) ∧
      (∀ name, s.HasFile folder name →
        ((∃ e ∈ entries, e.name = name.text) ↔ ∃ image, s.get (folder.image name) = .ok image) ∧
        ((∃ image, s.get (folder.image name) = .ok image) ∨
          ∃ fault, s.get (folder.image name) = .error (corrupt (folder.image name).key fault))) ∧
      ((∃ what, s.list folder = .error (.notFound what)) ↔
        s.tree.readDirectory (s.path [folder.owner.text, folder.folder.text]) = .error .noEntry ∨
          ∀ name, s.HasFile folder name → ∀ image, s.get (folder.image name) ≠ .ok image) := by
  obtain ⟨entries, hlists⟩ := exists_listsImages h
  refine ⟨entries, hlists.list_eq, hlists.sorted, hlists.mem_iff,
    fun name hfile => ⟨?_, hfile.get_cases⟩, ?_⟩
  · constructor
    · rintro ⟨e, he, hname⟩
      obtain ⟨other, image, _, hget, rfl⟩ := (hlists.mem_iff e).mp he
      rw [← Segment.text_injective hname]
      exact ⟨image, hget⟩
    · rintro ⟨image, hget⟩
      exact ⟨_, (hlists.mem_iff _).mpr ⟨name, image, hfile, hget, rfl⟩, rfl⟩
  · rw [hlists.list_eq, FolderListing.ofEntries_eq_notFound_iff]
    constructor
    · rintro rfl
      right
      intro name hfile image hget
      exact List.not_mem_nil ((hlists.mem_iff _).mpr ⟨name, image, hfile, hget, rfl⟩)
    · intro hnone
      rw [List.eq_nil_iff_forall_not_mem]
      intro e he
      obtain ⟨name, image, hfile, hget, _⟩ := (hlists.mem_iff e).mp he
      rcases hnone with hmissing | hunread
      · obtain ⟨_, _, _, hread, _⟩ := hfile
        rw [hmissing] at hread
        cases hread
      · exact hunread name hfile image hget

-- A folder with an image in it, and beside that a file that is cut off in its header.
def besideCut : FileStore :=
  let directory := FileTree.Entry.directory FileTree.directoryMode
  let folder := ImageAddress.sample.parent.names
  ⟨"", (((FileTree.empty.put [Text.utf8 "u1"] directory).put folder directory).put
    ImageAddress.sample.names (.file (Envelope.fileOf "image/gif" ⟨#[71, 73, 70]⟩) .epoch)).put
    (folder ++ [Text.utf8 "cut.gif"]) (.file ⟨#[70, 79, 76]⟩ .epoch)⟩

def cutName : ImageName := ⟨"cut.gif", by decide +kernel⟩

theorem besideCut_rooted : besideCut.tree.Rooted (FilePath.ofString besideCut.base) [] := by
  have hbase : FilePath.ofString besideCut.base = [] := by decide
  rw [hbase]
  have howner := FileTree.rooted_empty.put_new [] (Text.utf8 "u1")
    (.directory FileTree.directoryMode) ⟨_, rfl⟩ rfl nofun
  have hfolder := howner.put_new [Text.utf8 "u1"] (Text.utf8 "avatars")
    (.directory FileTree.directoryMode) ⟨_, rfl⟩ rfl nofun
  have himage := hfolder.put_new ImageAddress.sample.parent.names (Text.utf8 "a.png")
    (.file (Envelope.fileOf "image/gif" ⟨#[71, 73, 70]⟩) .epoch) ⟨_, rfl⟩ rfl nofun
  exact himage.put_new ImageAddress.sample.parent.names (Text.utf8 "cut.gif")
    (.file ⟨#[70, 79, 76]⟩ .epoch) ⟨_, rfl⟩ rfl nofun

theorem readDirectory_besideCut :
    let folder := ImageAddress.sample.parent
    besideCut.tree.readDirectory (besideCut.path [folder.owner.text, folder.folder.text]) =
      .ok (besideCut.tree.children folder.names) :=
  besideCut_rooted.readDirectory_directory ImageAddress.sample.parent.properName ⟨_, rfl⟩

theorem list_agrees_with_get_beside_cut :
    (∀ e, besideCut.list ImageAddress.sample.parent ≠ .error (.system e)) ∧
      ∃ entries, besideCut.list ImageAddress.sample.parent =
          FolderListing.ofEntries ImageAddress.sample.parent entries ∧
        (∃ e ∈ entries, e.name = "a.png") ∧ ¬∃ e ∈ entries, e.name = "cut.gif" := by
  have hread := readDirectory_besideCut
  have hlist := list_of_children hread
  have h : ∀ e, besideCut.list ImageAddress.sample.parent ≠ .error (.system e) := by
    intro e
    rw [hlist]
    cases (besideCut.tree.children ImageAddress.sample.parent.names).filterMap listed <;> nofun
  refine ⟨h, ?_⟩
  have himage := (besideCut.tree.mem_children_iff ImageAddress.sample.parent.names
    (Text.utf8 ImageAddress.sample.name.text) _).mpr rfl
  have hcut := (besideCut.tree.mem_children_iff ImageAddress.sample.parent.names
    (Text.utf8 cutName.text) _).mpr rfl
  have hdecode := Envelope.decode_fileOf "image/gif" ⟨#[71, 73, 70]⟩ (by decide)
  have hget := get_of_mem_children hread himage
  rw [hdecode] at hget
  have hdecode' : Envelope.decode ⟨#[70, 79, 76]⟩ = .error .noHeader := by decide +kernel
  obtain ⟨entries, hentries, _, _, hfiles, _⟩ := list_agrees_with_get h
  refine ⟨entries, hentries,
    (hfiles ImageAddress.sample.name ⟨_, _, _, hread, himage⟩).1.mpr ⟨_, hget⟩, ?_⟩
  intro hlisted
  obtain ⟨image, hread_cut⟩ := (hfiles cutName ⟨_, _, _, hread, hcut⟩).1.mp hlisted
  rw [get_of_mem_children hread hcut, hdecode'] at hread_cut
  cases hread_cut

end FileStore

end Gallery
