import Gallery.Proofs.Contents
import Gallery.Proofs.Store.Envelope
import Gallery.Proofs.Store.Files.Paths

namespace Gallery.FileStore

open FileTree (ProperName)

-- The images in a directory, in the order in which it is read.
def entriesIn (t : FileTree) (directory : FilePath) : List ListingEntry :=
  (t.children directory).filterMap listed

theorem listed_eq_some_iff (child : FileName × FileTree.Entry) (e : ListingEntry) :
    listed child = some e ↔ ∃ (name : ImageName) (content : ByteArray) (modified : Instant)
      (contentType : String) (size : Nat),
      child = (Text.utf8 name.text, .file content modified) ∧
      Envelope.readHeader content = .ok (contentType, size) ∧
      e = ⟨name.text, size, contentType, modified, none⟩ := by
  obtain ⟨fileName, entry⟩ := child
  constructor
  · intro h
    unfold listed at h
    split at h
    · rename_i name content modified hname hentry
      split at h
      · cases h
      · rename_i hfault
        split at h
        · rename_i contentType size hheader
          cases h
          rw [Text.ofUtf8?_mk_eq_some_iff] at hname
          simp only at hname hentry
          exact ⟨⟨name, by simpa using hfault⟩, content, modified, contentType, size,
            by rw [hname, hentry], hheader, rfl⟩
        · cases h
    · cases h
  · rintro ⟨name, content, modified, contentType, size, hchild, hheader, rfl⟩
    cases hchild
    have hname := (Text.ofUtf8?_mk_eq_some_iff (Text.utf8 name.text) name.text).mpr rfl
    simp only [listed, hname, name.accepted, Option.isSome_none, Bool.false_eq_true, if_false,
      hheader]

theorem mem_entriesIn_iff (t : FileTree) (directory : FilePath) (e : ListingEntry) :
    e ∈ entriesIn t directory ↔ ∃ (name : ImageName) (content : ByteArray) (modified : Instant)
      (contentType : String) (size : Nat),
      t.lookup (directory ++ [Text.utf8 name.text]) = some (.file content modified) ∧
      Envelope.readHeader content = .ok (contentType, size) ∧
      e = ⟨name.text, size, contentType, modified, none⟩ := by
  rw [entriesIn, List.mem_filterMap]
  constructor
  · rintro ⟨child, hmem, hlisted⟩
    obtain ⟨name, content, modified, contentType, size, rfl, hheader, he⟩ :=
      (listed_eq_some_iff child e).mp hlisted
    exact ⟨name, content, modified, contentType, size, (t.mem_children_iff _ _ _).mp hmem,
      hheader, he⟩
  · rintro ⟨name, content, modified, contentType, size, hlookup, hheader, he⟩
    exact ⟨_, (t.mem_children_iff _ _ _).mpr hlookup, (listed_eq_some_iff _ e).mpr
      ⟨name, content, modified, contentType, size, rfl, hheader, he⟩⟩

theorem entriesIn_sorted (t : FileTree) (directory : FilePath) :
    (entriesIn t directory).Pairwise ListingEntry.Before := by
  refine List.Pairwise.filterMap _ ?_ (t.children_sorted directory)
  intro child child' hlt e he e' he'
  obtain ⟨name, _, _, _, _, rfl, _, rfl⟩ := (listed_eq_some_iff child e).mp he
  obtain ⟨name', _, _, _, _, rfl, _, rfl⟩ := (listed_eq_some_iff child' e').mp he'
  exact hlt

-- What is listed under some names depends on the files at these names only.
theorem filter_entriesIn_congr {t t' : FileTree} {directory : FilePath} (p : String → Bool)
    (h : ∀ name : ImageName, p name.text = true →
      t'.lookup (directory ++ [Text.utf8 name.text]) =
        t.lookup (directory ++ [Text.utf8 name.text])) :
    (entriesIn t' directory).filter (fun e => p e.name) =
      (entriesIn t directory).filter (fun e => p e.name) := by
  refine List.Pairwise.eq_of_mem_iff ((entriesIn_sorted t' directory).filter _)
    ((entriesIn_sorted t directory).filter _) fun e => ?_
  rw [List.mem_filter, List.mem_filter, mem_entriesIn_iff, mem_entriesIn_iff]
  constructor
  · rintro ⟨⟨name, content, modified, contentType, size, hlookup, hheader, rfl⟩, hp⟩
    exact ⟨⟨name, content, modified, contentType, size, (h name hp).symm.trans hlookup, hheader,
      rfl⟩, hp⟩
  · rintro ⟨⟨name, content, modified, contentType, size, hlookup, hheader, rfl⟩, hp⟩
    exact ⟨⟨name, content, modified, contentType, size, (h name hp).trans hlookup, hheader,
      rfl⟩, hp⟩

section Reads

variable {s : FileStore} {root : FilePath} (h : s.tree.Rooted (FilePath.ofString s.base) root)

theorem get_of_entryAt (s : FileStore) (a : ImageAddress) :
    s.get a = match s.tree.entryAt (FilePath.ofString s.base ++ a.names) with
      | .error e => if e = .noEntry then .error (.notFound a.key) else .error (.system e)
      | .ok (.file content modified) =>
        match Envelope.decode content with
        | .ok (contentType, content) => .ok ⟨content, contentType, modified⟩
        | .error fault => .error (corrupt a.key fault)
      | .ok _ => .error (.notFound a.key) := by
  rw [get, locateKey_key]
  rfl

theorem contains_of_entryAt (s : FileStore) (a : ImageAddress) :
    s.contains a = match s.tree.entryAt (FilePath.ofString s.base ++ a.names) with
      | .ok _ => .ok true
      | .error e => if e = .noEntry then .ok false else .error (.system e) := by
  rw [contains, locateKey_key]
  rfl

theorem list_of_readDirectory (s : FileStore) (folder : FolderAddress) :
    s.list folder = match s.tree.readDirectory (FilePath.ofString s.base ++ folder.names) with
      | .error e =>
        if e = .noEntry then .error (.notFound folder.keyStart) else .error (.system e)
      | .ok children => FolderListing.ofEntries folder (children.filterMap listed) := by
  rw [list, locateKey_keyStart]
  rfl

section Congr

variable {t' : FileTree} (h' : t'.Rooted (FilePath.ofString s.base) root)

include h h'

theorem get_congr {a : ImageAddress}
    (hlookup : t'.lookup (root ++ a.names) = s.tree.lookup (root ++ a.names))
    (hway : t'.Obstructed root a.names ↔ s.tree.Obstructed root a.names) :
    FileStore.get { s with tree := t' } a = s.get a := by
  rw [get_of_entryAt, get_of_entryAt, h.entryAt_congr a.properName h' hlookup hway]

theorem contains_congr {a : ImageAddress}
    (hlookup : t'.lookup (root ++ a.names) = s.tree.lookup (root ++ a.names))
    (hway : t'.Obstructed root a.names ↔ s.tree.Obstructed root a.names) :
    FileStore.contains { s with tree := t' } a = s.contains a := by
  rw [contains_of_entryAt, contains_of_entryAt, h.entryAt_congr a.properName h' hlookup hway]

end Congr

include h

-- A file in the place of a folder or of its owner makes the folder unreadable.
theorem list_obstructed {folder : FolderAddress} {last : FileName}
    (hway : s.tree.Obstructed root (folder.names ++ [last])) :
    s.list folder = .error (.system .notADirectory) := by
  rw [list_of_readDirectory]
  by_cases hinner : s.tree.Obstructed root folder.names
  · rw [h.readDirectory_obstructed folder.properName hinner]
    rfl
  · obtain ⟨content, modified, hfile⟩ := FileTree.file_of_obstructed hway hinner
    rw [h.readDirectory_file folder.properName hfile]
    rfl

-- A directory that is not there is as good as an empty one.
theorem list_free {folder : FolderAddress} (last : FileName)
    (hway : ¬s.tree.Obstructed root (folder.names ++ [last])) :
    s.list folder = FolderListing.ofEntries folder (entriesIn s.tree (root ++ folder.names)) := by
  have hinner : ¬s.tree.Obstructed root folder.names := fun ho => hway (ho.append [last])
  rw [list_of_readDirectory]
  rcases h.entry_cases folder.names with hnone | hdir | ⟨content, modified, hfile⟩
  · have hempty : entriesIn s.tree (root ++ folder.names) = [] := by
      rw [List.eq_nil_iff_forall_not_mem]
      intro e he
      obtain ⟨name, _, _, _, _, hlookup, _, _⟩ := (mem_entriesIn_iff _ _ _).mp he
      rw [List.append_assoc, h.lookup_below_none hnone] at hlookup
      cases hlookup
    rw [h.readDirectory_missing folder.properName hnone hinner, hempty]
    rfl
  · rw [h.readDirectory_directory folder.properName hdir]
    rfl
  · exact absurd ⟨folder.names, [last], content, modified, rfl, by simp, hfile⟩ hway

end Reads

end Gallery.FileStore
