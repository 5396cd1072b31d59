import Gallery.Proofs.Store.Files.Above

namespace Gallery

open FileTree (ProperName)

namespace FileStore

-- What is left of a tree after a file was to be written at a hidden path and moved from there: the
-- hidden path is as before or free, and nothing but the target of the move has changed.
structure Replaced (t t' : FileTree) (hidden target : FilePath) : Prop where
  atHidden : t'.lookup hidden = t.lookup hidden ∨ t'.lookup hidden = none
  elsewhere : ∀ path, path ≠ hidden → path ≠ target → t'.lookup path = t.lookup path

theorem Replaced.refl (t : FileTree) (hidden target : FilePath) : Replaced t t hidden target :=
  ⟨Or.inl rfl, fun _ _ _ => rfl⟩

theorem path_of_tree (s : FileStore) (tree : FileTree) (pieces : List String) :
    FileStore.path { s with tree } pieces = s.path pieces := rfl

section WriteAndMove

variable {s : FileStore} {root before : FilePath} {hidden target : FileName}
  (pieces hiddenPieces : List String)
  (h : s.tree.Rooted (FilePath.ofString s.base) root)
  (hbefore : ∀ n ∈ before, ProperName n) (hhidden : ProperName hidden) (htarget : ProperName target)
  (hne : target ≠ hidden)
  (hpath : s.path pieces = FilePath.ofString s.base ++ (before ++ [target]))
  (hhiddenPath : s.path hiddenPieces = FilePath.ofString s.base ++ (before ++ [hidden]))
  (file : ByteArray) (now : Instant)

include h hbefore hhidden hhiddenPath

-- A directory at the hidden path stops the write at once.
theorem writeAndMove_blocked (hdir : s.tree.HasDirectory (root ++ (before ++ [hidden]))) :
    s.writeAndMove pieces hiddenPieces file now =
      (.error (.backend ("Failed to create file " ++ s.shownPath hiddenPieces ++ ": " ++
        SystemError.isADirectory.message)), s) := by
  simp only [writeAndMove, change, hhiddenPath,
    h.writeFile_directory hbefore hhidden hdir file now,
    h.removeFile_directory hbefore hhidden hdir]

include htarget hne hpath

-- A directory at the target stops the move, and the hidden file is taken away again.
theorem writeAndMove_undone (hd : s.tree.HasDirectory (root ++ before))
    (hfree : ¬s.tree.HasDirectory (root ++ (before ++ [hidden])))
    (hdir : s.tree.HasDirectory (root ++ (before ++ [target]))) :
    ∃ t', s.writeAndMove pieces hiddenPieces file now =
        (.error (.backend ("Failed to move " ++ s.shownPath pieces ++ " into place: " ++
          SystemError.isADirectory.message)), { s with tree := t' }) ∧
      t'.Rooted (FilePath.ofString s.base) root ∧
      Replaced s.tree t' (root ++ (before ++ [hidden])) (root ++ (before ++ [target])) ∧
      t'.lookup (root ++ (before ++ [target])) = s.tree.lookup (root ++ (before ++ [target])) := by
  have hpne := FileTree.below_ne_nil root before hidden
  have hother : root ++ (before ++ [target]) ≠ root ++ (before ++ [hidden]) := by
    simpa using hne
  have hwritten := h.put hd hfree (e := .file file now) (fun _ he => by cases he)
  have hself := FileTree.lookup_put_self s.tree hpne (.file file now)
  have hdir' := (FileTree.hasDirectory_congr
    (FileTree.lookup_put_of_ne s.tree hpne (.file file now) hother)).mpr hdir
  refine ⟨_, ?_, hwritten.erase (FileTree.not_hasDirectory_of_file hself),
    ⟨Or.inr (FileTree.lookup_erase_self _ hpne),
      fun path hp _ => FileTree.lookup_erase_put_of_ne _ hpne _ hp⟩,
    FileTree.lookup_erase_put_of_ne _ hpne _ hother⟩
  simp only [writeAndMove, change, path_of_tree, hhiddenPath, hpath,
    h.writeFile_free hbefore hhidden hd hfree file now,
    hwritten.move_directory hbefore hhidden htarget hself hdir',
    hwritten.removeFile_file hbefore hhidden hself]
  rfl

-- With no directory in its place the file gets there.
theorem writeAndMove_done (hd : s.tree.HasDirectory (root ++ before))
    (hfree : ¬s.tree.HasDirectory (root ++ (before ++ [hidden])))
    (hplace : ¬s.tree.HasDirectory (root ++ (before ++ [target]))) :
    ∃ t', s.writeAndMove pieces hiddenPieces file now = (.ok (), { s with tree := t' }) ∧
      t'.Rooted (FilePath.ofString s.base) root ∧
      Replaced s.tree t' (root ++ (before ++ [hidden])) (root ++ (before ++ [target])) ∧
      t'.lookup (root ++ (before ++ [target])) = some (.file file now) ∧
      t'.lookup (root ++ (before ++ [hidden])) = none := by
  have hpne := FileTree.below_ne_nil root before hidden
  have htne := FileTree.below_ne_nil root before target
  have hother : root ++ (before ++ [target]) ≠ root ++ (before ++ [hidden]) := by
    simpa using hne
  have hbelow : root ++ before ≠ root ++ (before ++ [hidden]) := by simp
  have hwritten := h.put hd hfree (e := .file file now) (fun _ he => by cases he)
  have hself := FileTree.lookup_put_self s.tree hpne (.file file now)
  have herased := hwritten.erase (FileTree.not_hasDirectory_of_file hself)
  have hkept : ∀ path, path ≠ root ++ (before ++ [hidden]) →
      ((s.tree.put (root ++ (before ++ [hidden])) (.file file now)).erase
        (root ++ (before ++ [hidden]))).lookup path = s.tree.lookup path :=
    fun path hp => FileTree.lookup_erase_put_of_ne _ hpne _ hp
  have hplace' := mt (FileTree.hasDirectory_congr
    (FileTree.lookup_put_of_ne s.tree hpne (.file file now) hother)).mp hplace
  have hmoved := herased.put (e := .file file now)
    ((FileTree.hasDirectory_congr (hkept _ hbelow)).mpr hd)
    (mt (FileTree.hasDirectory_congr (hkept _ hother)).mp hplace) (fun _ he => by cases he)
  have hgone : (((s.tree.put (root ++ (before ++ [hidden])) (.file file now)).erase
      (root ++ (before ++ [hidden]))).put (root ++ (before ++ [target]))
      (.file file now)).lookup (root ++ (before ++ [hidden])) = none := by
    rw [FileTree.lookup_put_of_ne _ htne _ hother.symm, FileTree.lookup_erase_self _ hpne]
  refine ⟨_, ?_, hmoved, ⟨Or.inr hgone, fun path hp ht => ?_⟩, FileTree.lookup_put_self _ htne _,
    hgone⟩
  · simp only [writeAndMove, change, path_of_tree, hhiddenPath, hpath,
      h.writeFile_free hbefore hhidden hd hfree file now,
      hwritten.move_free hbefore hhidden htarget hself hplace']
  · rw [FileTree.lookup_put_of_ne _ htne _ ht, hkept path hp]

-- All that can come of it.
theorem writeAndMove_cases (hd : s.tree.HasDirectory (root ++ before)) :
    ∃ t', t'.Rooted (FilePath.ofString s.base) root ∧
      Replaced s.tree t' (root ++ (before ++ [hidden])) (root ++ (before ++ [target])) ∧
      (s.writeAndMove pieces hiddenPieces file now = (.ok (), { s with tree := t' }) ∧
          t'.lookup (root ++ (before ++ [target])) = some (.file file now) ∧
          t'.lookup (root ++ (before ++ [hidden])) = none ∨
        (∃ e, s.writeAndMove pieces hiddenPieces file now = (.error e, { s with tree := t' })) ∧
          t'.lookup (root ++ (before ++ [target])) =
            s.tree.lookup (root ++ (before ++ [target])) ∧
          (s.tree.HasDirectory (root ++ (before ++ [target])) ∨
            s.tree.HasDirectory (root ++ (before ++ [hidden])))) := by
  by_cases hblocked : s.tree.HasDirectory (root ++ (before ++ [hidden]))
  · have hrun := writeAndMove_blocked pieces hiddenPieces h hbefore hhidden hhiddenPath file now
      hblocked
    exact ⟨s.tree, h, .refl _ _ _, Or.inr ⟨⟨_, hrun⟩, rfl, Or.inr hblocked⟩⟩
  by_cases hoccupied : s.tree.HasDirectory (root ++ (before ++ [target]))
  · obtain ⟨t', hrun, hrooted, hreplaced, hkept⟩ := writeAndMove_undone pieces hiddenPieces h
      hbefore hhidden htarget hne hpath hhiddenPath file now hd hblocked hoccupied
    exact ⟨t', hrooted, hreplaced, Or.inr ⟨⟨_, hrun⟩, hkept, Or.inl hoccupied⟩⟩
  · obtain ⟨t', hrun, hrooted, hreplaced, hplaced⟩ := writeAndMove_done pieces hiddenPieces h
      hbefore hhidden htarget hne hpath hhiddenPath file now hd hblocked hoccupied
    exact ⟨t', hrooted, hreplaced, Or.inl ⟨hrun, hplaced⟩⟩

end WriteAndMove

end FileStore

-- The names on the way to the hidden file that an image is written to first.
def ImageAddress.hiddenNames (a : ImageAddress) (random : Uuid) : FilePath :=
  a.parent.names ++ [Text.utf8 (FileStore.hiddenName random)]

theorem ImageAddress.names_ne_hiddenNames (a b : ImageAddress) (random : Uuid) :
    a.names ≠ b.hiddenNames random :=
  a.names_ne_of_hidden b.parent (FileStore.head?_utf8_hiddenName random)

namespace FileStore

-- What is left of a tree after an image was to be kept in it, whether that succeeded or not. The
-- directories on the way may be new; all else is as before, but for the image itself.
structure Attempted (t t' : FileTree) (base root : FilePath) (a : ImageAddress)
    (random : Uuid) : Prop where
  rooted : t'.Rooted base root
  atHidden : t'.lookup (root ++ a.hiddenNames random) = t.lookup (root ++ a.hiddenNames random) ∨
    t'.lookup (root ++ a.hiddenNames random) = none
  elsewhere : ∀ path, path ≠ root ++ a.hiddenNames random → path ≠ root ++ a.names →
    t'.lookup path = t.lookup path ∨ t.lookup path = none ∧ t'.HasDirectory path ∧
      ∃ before rest, a.parent.names = before ++ rest ∧ path = root ++ before

theorem Attempted.of_grows {t grown t' : FileTree} {base root : FilePath} {a : ImageAddress}
    {random : Uuid} (hgrows : t.Grows grown root a.parent.names) (h : t'.Rooted base root)
    (hreplaced : Replaced grown t' (root ++ a.hiddenNames random) (root ++ a.names)) :
    Attempted t t' base root a random := by
  have hhidden : grown.lookup (root ++ a.hiddenNames random) =
      t.lookup (root ++ a.hiddenNames random) := hgrows.lookup_eq (by simp [ImageAddress.hiddenNames])
  refine ⟨h, ?_, fun path hp ht => ?_⟩
  · rw [← hhidden]
    exact hreplaced.atHidden
  · have hsame := hreplaced.elsewhere path hp ht
    rcases hgrows path with hkept | ⟨hnone, hdir, hway⟩
    · exact Or.inl (hsame.trans hkept)
    · exact Or.inr ⟨hnone, (FileTree.hasDirectory_congr hsame).mpr hdir, hway⟩

namespace Attempted

variable {t t' : FileTree} {base root : FilePath} {a : ImageAddress} {random : Uuid}
  (h : Attempted t t' base root a random)

include h

-- No other image has changed.
theorem lookup_of_ne {b : ImageAddress} (hne : b ≠ a) :
    t'.lookup (root ++ b.names) = t.lookup (root ++ b.names) := by
  have hhidden : root ++ b.names ≠ root ++ a.hiddenNames random :=
    fun hp => b.names_ne_hiddenNames a random (List.append_cancel_left hp)
  have hplace : root ++ b.names ≠ root ++ a.names :=
    fun hp => hne (ImageAddress.names_injective (List.append_cancel_left hp))
  rcases h.elsewhere _ hhidden hplace with hsame | ⟨_, _, before, rest, hsplit, hpath⟩
  · exact hsame
  · have hlength := congrArg List.length hsplit
    rw [← List.append_cancel_left hpath, List.length_append, b.length_names,
      a.parent.length_names] at hlength
    omega

-- Above the images at most a directory is new.
theorem sameAbove : SameAbove t t' base root := by
  refine ⟨h.rooted, fun names hshort => ?_⟩
  have hne : ∀ other : FilePath, other.length = 3 → root ++ names ≠ root ++ other := by
    intro other hlength hp
    rw [List.append_cancel_left hp] at hshort
    omega
  rcases h.elsewhere _ (hne (a.hiddenNames random) rfl) (hne a.names rfl) with
    hsame | ⟨hnone, hdir, _⟩
  · exact Or.inl hsame
  · exact Or.inr ⟨hnone, hdir⟩

-- Below the images no directory is new.
theorem hasDirectory_below {names : FilePath} (hlong : 3 ≤ names.length)
    (hne : names ≠ a.names) (hdir : t'.HasDirectory (root ++ names)) :
    t.HasDirectory (root ++ names) := by
  by_cases hp : names = a.hiddenNames random
  · rw [hp] at hdir ⊢
    rcases h.atHidden with hsame | hnone
    · exact (FileTree.hasDirectory_congr hsame).mp hdir
    · exact absurd hdir (FileTree.not_hasDirectory_of_none hnone)
  · rcases h.elsewhere _ (fun he => hp (List.append_cancel_left he))
      (fun he => hne (List.append_cancel_left he)) with
      hsame | ⟨_, _, before, rest, hsplit, hpath⟩
    · exact (FileTree.hasDirectory_congr hsame).mp hdir
    · have hlength := congrArg List.length hsplit
      rw [← List.append_cancel_left hpath, List.length_append, a.parent.length_names] at hlength
      omega

end Attempted

-- Why an image cannot be kept: a file is in the way, a directory is in its place or in that of the
-- hidden file, or its content type is too long.
inductive Refusal (t : FileTree) (root : FilePath) (a : ImageAddress) (random : Uuid)
    (contentType : String) : Prop where
  | obstructed (h : t.Obstructed root a.names)
  | occupied (h : t.HasDirectory (root ++ a.names))
  | hiddenOccupied (h : t.HasDirectory (root ++ a.hiddenNames random))
  | tooLong (h : Envelope.maxContentType < contentType.utf8ByteSize)

section Put

variable {s : FileStore} (a : ImageAddress) (content : ByteArray) {contentType : String}
  (now : Instant) (random : Uuid)

theorem put_of_unmade {t' : FileTree} {e : SystemError}
    (h : FileTree.makeDirectories (FilePath.ofString s.base ++ a.parent.names) s.tree = .error e t') :
    s.put a content contentType now random = (.error (.system e), { s with tree := t' }) := by
  simp only [put, locateKey_key, List.dropLast, change, path_parent, h]

variable {grown : FileTree}
  (hgrown : FileTree.makeDirectories (FilePath.ofString s.base ++ a.parent.names) s.tree =
    .ok () grown)

include hgrown

theorem put_of_long (hlong : Envelope.maxContentType < contentType.utf8ByteSize) :
    s.put a content contentType now random =
      (.error (.backend ("Content type too long: " ++ toString contentType.utf8ByteSize)),
        { s with tree := grown }) := by
  simp only [put, locateKey_key, List.dropLast, change, path_parent, hgrown, Envelope.encode, hlong,
    if_true]

theorem put_of_short (hshort : contentType.utf8ByteSize ≤ Envelope.maxContentType) :
    s.put a content contentType now random =
      FileStore.writeAndMove { s with tree := grown } [a.owner.text, a.folder.text, a.name.text]
        [a.owner.text, a.folder.text, hiddenName random]
        (Envelope.fileOf contentType content) now := by
  simp only [put, locateKey_key, List.dropLast, change, path_parent, hgrown,
    Envelope.encode_of_le hshort]
  rfl

end Put

-- All that can come of keeping an image.
theorem put_cases {s : FileStore} {root : FilePath}
    (h : s.tree.Rooted (FilePath.ofString s.base) root) (a : ImageAddress) (content : ByteArray)
    (contentType : String) (now : Instant) (random : Uuid) :
    ∃ t', Attempted s.tree t' (FilePath.ofString s.base) root a random ∧
      (s.put a content contentType now random = (.ok (), { s with tree := t' }) ∧
          contentType.utf8ByteSize ≤ Envelope.maxContentType ∧
          t'.lookup (root ++ a.names) = some (.file (Envelope.fileOf contentType content) now) ∧
          t'.lookup (root ++ a.hiddenNames random) = none ∨
        (∃ e, s.put a content contentType now random = (.error e, { s with tree := t' })) ∧
          t'.lookup (root ++ a.names) = s.tree.lookup (root ++ a.names) ∧
          Refusal s.tree root a random contentType) := by
  have hparent := a.parent.properName
  by_cases hway : s.tree.Obstructed root a.names
  · obtain ⟨e, he⟩ := h.makeDirectories_obstructed hparent hway
    exact ⟨s.tree, Attempted.of_grows (FileTree.Grows.refl _ _ _) h (Replaced.refl _ _ _),
      Or.inr ⟨⟨_, put_of_unmade a content now random he⟩, rfl, .obstructed hway⟩⟩
  obtain ⟨grown, hgrown, hrooted, hd, hgrows⟩ :=
    h.makeDirectories_free (by simp [FolderAddress.names]) hparent hway
  have hplace : grown.lookup (root ++ a.names) = s.tree.lookup (root ++ a.names) :=
    hgrows.lookup_eq (by simp)
  have hhidden : grown.lookup (root ++ a.hiddenNames random) =
      s.tree.lookup (root ++ a.hiddenNames random) :=
    hgrows.lookup_eq (by simp [ImageAddress.hiddenNames])
  by_cases hlong : Envelope.maxContentType < contentType.utf8ByteSize
  · exact ⟨grown, Attempted.of_grows hgrows hrooted (Replaced.refl _ _ _),
      Or.inr ⟨⟨_, put_of_long a content now random hgrown hlong⟩, hplace, .tooLong hlong⟩⟩
  have hshort := Nat.le_of_not_lt hlong
  have hrun := put_of_short a content now random hgrown hshort
  obtain ⟨t', hrooted', hreplaced, hcases⟩ := writeAndMove_cases (s := { s with tree := grown })
    [a.owner.text, a.folder.text, a.name.text] [a.owner.text, a.folder.text, hiddenName random]
    hrooted hparent (properName_hiddenName random) a.name.properName
    (utf8_name_ne_hiddenName a.name random) rfl rfl (Envelope.fileOf contentType content) now hd
  refine ⟨t', Attempted.of_grows hgrows hrooted' hreplaced, ?_⟩
  rcases hcases with ⟨hwritten, hplaced⟩ | ⟨⟨e, hwritten⟩, hkept, hoccupied | hblocked⟩
  · exact Or.inl ⟨hrun.trans hwritten, hshort, hplaced⟩
  · exact Or.inr ⟨⟨e, hrun.trans hwritten⟩, hkept.trans hplace,
      .occupied ((FileTree.hasDirectory_congr hplace).mp hoccupied)⟩
  · exact Or.inr ⟨⟨e, hrun.trans hwritten⟩, hkept.trans hplace,
      .hiddenOccupied ((FileTree.hasDirectory_congr hhidden).mp hblocked)⟩

end FileStore

end Gallery
