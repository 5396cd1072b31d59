import Gallery.Proofs.Store.Holds

namespace Gallery

-- No file stands below the root but in the place of some image, so none is left of an upload that
-- was not finished.
def FileStore.TidyAt (s : FileStore) (root : FilePath) : Prop :=
  ∀ names content modified, s.tree.lookup (root ++ names) = some (.file content modified) →
    ∃ a : ImageAddress, names = a.names

namespace FileStore

variable {s : FileStore} {root : FilePath}

theorem EmptyAt.tidyAt (h : s.EmptyAt root) : s.TidyAt root := by
  intro names content modified hfile
  by_cases hnames : names = []
  · rw [hnames, List.append_nil] at hfile
    exact absurd h.directory (FileTree.not_hasDirectory_of_file hfile)
  · rw [h.nothing names hnames] at hfile
    cases hfile

-- What is left of keeping an image is that image at most: the hidden file is gone again.
theorem TidyAt.of_attempted (htidy : s.TidyAt root) {t' : FileTree} {base : FilePath}
    {a : ImageAddress} {random : Uuid} (h : Attempted s.tree t' base root a random) :
    FileStore.TidyAt { s with tree := t' } root := by
  intro names content modified hfile
  by_cases hplace : names = a.names
  · exact ⟨a, hplace⟩
  by_cases hhidden : names = a.hiddenNames random
  · rw [hhidden] at hfile ⊢
    rcases h.atHidden with hsame | hnone
    · exact htidy _ content modified (hsame.symm.trans hfile)
    · exact absurd (hfile.symm.trans hnone) nofun
  · rcases h.elsewhere _ (fun he => hhidden (List.append_cancel_left he))
      (fun he => hplace (List.append_cancel_left he)) with hsame | ⟨_, hdir, _⟩
    · exact htidy names content modified (hsame.symm.trans hfile)
    · exact absurd hdir (FileTree.not_hasDirectory_of_file hfile)

end FileStore

namespace Store

-- The files of a store are in the places of images; in memory the keys see to that.
def Tidy : Store → Prop
  | .memory _ => True
  | .files s => ∀ root, s.tree.locate (FilePath.ofString s.base) = .ok (.entry root) →
      s.TidyAt root

-- All that a store keeps, under whatever name, is an image with these properties: each key in
-- memory, and each file below the base, is that of an owner, a folder and a name.
inductive EachObject (p : String → String → String → StoredImage → Prop) : Store → Prop where
  | memory {s : MemoryStore} (h : ∀ key image, s.images[key]? = some image →
      ∃ owner folder name, key = owner ++ "/" ++ folder ++ "/" ++ name ∧ p owner folder name image) :
      EachObject p (.memory s)
  | files {s : FileStore} {root : FilePath}
      (hleads : s.tree.locate (FilePath.ofString s.base) = .ok (.entry root))
      (h : ∀ names file modified, s.tree.lookup (root ++ names) = some (.file file modified) →
        ∃ owner folder name contentType content,
          names = [Text.utf8 owner, Text.utf8 folder, Text.utf8 name] ∧
          Envelope.decode file = .ok (contentType, content) ∧
          p owner folder name ⟨content, contentType, modified⟩) :
      EachObject p (.files s)

theorem EachObject.imp {store : Store} {p q : String → String → String → StoredImage → Prop}
    (h : store.EachObject p) (hpq : ∀ owner folder name image, p owner folder name image →
      q owner folder name image) : store.EachObject q := by
  cases h with
  | memory h =>
      refine .memory fun key image himage => ?_
      obtain ⟨owner, folder, name, hkey, hp⟩ := h key image himage
      exact ⟨owner, folder, name, hkey, hpq _ _ _ _ hp⟩
  | files hleads h =>
      refine .files hleads fun names file modified hfile => ?_
      obtain ⟨owner, folder, name, contentType, content, hnames, hdecode, hp⟩ :=
        h names file modified hfile
      exact ⟨owner, folder, name, contentType, content, hnames, hdecode, hpq _ _ _ _ hp⟩

theorem IsEmpty.tidy {store : Store} (h : store.IsEmpty) : store.Tidy := by
  cases store with
  | memory s => trivial
  | files s =>
      obtain ⟨root, hempty⟩ := h
      intro other hother
      rw [hempty.leads] at hother
      cases hother
      exact hempty.tidyAt

-- Keeping an image leaves a store tidy, whether it succeeds or not.
theorem Tidy.put {store : Store} {images : Contents} (htidy : store.Tidy)
    (h : store.Holds images) (a : ImageAddress) (content : ByteArray) (contentType : String)
    (now : Instant) (random : Uuid) : (store.put a content contentType now random).2.Tidy := by
  cases store with
  | memory s => trivial
  | files s =>
      obtain ⟨root, hroot⟩ := h
      obtain ⟨t', hattempt, hcases⟩ :=
        FileStore.put_cases hroot.rooted a content contentType now random
      have hafter : (s.put a content contentType now random).2 = { s with tree := t' } := by
        rcases hcases with ⟨hput, _⟩ | ⟨⟨e, hput⟩, _⟩ <;> rw [hput]
      simp only [Store.put, hafter]
      intro other hother
      rw [hattempt.rooted.leads] at hother
      cases hother
      exact (htidy root hroot.rooted.leads).of_attempted hattempt

-- So what is known of the images that a store holds is known of all that is in it.
theorem Holds.eachObject {store : Store} {images : Contents} (h : store.Holds images)
    (htidy : store.Tidy) {p : String → String → String → StoredImage → Prop}
    (hp : ∀ a image, images a = some image → p a.owner.text a.folder.text a.name.text image) :
    store.EachObject p := by
  cases store with
  | memory s =>
      refine .memory fun key image himage => ?_
      obtain ⟨a, rfl⟩ := MemoryStore.Holds.keys h key image himage
      rw [MemoryStore.Holds.image h] at himage
      exact ⟨_, _, _, rfl, hp a image himage⟩
  | files s =>
      obtain ⟨root, hroot⟩ := h
      have hleads := hroot.rooted.leads
      refine .files hleads fun names file modified hfile => ?_
      obtain ⟨a, rfl⟩ := htidy root hleads names file modified hfile
      rw [hroot.image, Option.map_eq_some_iff] at hfile
      obtain ⟨image, himage, hentry⟩ := hfile
      cases hentry
      exact ⟨_, _, _, _, _, rfl, Envelope.decode_fileOf _ _ (hroot.short a image himage),
        hp a image himage⟩

end Store

end Gallery
