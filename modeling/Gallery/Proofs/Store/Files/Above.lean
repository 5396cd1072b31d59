import Gallery.Proofs.Store.Files.Reads

namespace Gallery.FileStore

-- The files above the images are the same in both trees. The second may have directories there that
-- the first lacks.
structure SameAbove (t t' : FileTree) (base root : FilePath) : Prop where
  rooted : t'.Rooted base root
  above : ∀ names : FilePath, names.length < 3 →
    t'.lookup (root ++ names) = t.lookup (root ++ names) ∨
      t.lookup (root ++ names) = none ∧ t'.HasDirectory (root ++ names)

namespace SameAbove

section Trees

variable {t t' t'' : FileTree} {base root : FilePath}

theorem refl (h : t.Rooted base root) : SameAbove t t base root := ⟨h, fun _ _ => Or.inl rfl⟩

theorem trans (h : SameAbove t t' base root) (h' : SameAbove t' t'' base root) :
    SameAbove t t'' base root := by
  refine ⟨h'.rooted, fun names hshort => ?_⟩
  rcases h.above names hshort with hsame | ⟨hnone, hdir⟩
  · rcases h'.above names hshort with hsame' | ⟨hnone', hdir'⟩
    · exact Or.inl (hsame'.trans hsame)
    · exact Or.inr ⟨hsame.symm.trans hnone', hdir'⟩
  · refine Or.inr ⟨hnone, ?_⟩
    rcases h'.above names hshort with hsame' | ⟨_, hdir'⟩
    · exact (FileTree.hasDirectory_congr hsame').mpr hdir
    · exact hdir'

-- Directories that were missing may be made.
theorem of_grows (h : t'.Rooted base root) {names : FilePath} (hgrows : t.Grows t' root names) :
    SameAbove t t' base root := by
  refine ⟨h, fun above _ => ?_⟩
  rcases hgrows (root ++ above) with hsame | ⟨hnone, hdir, _⟩
  · exact Or.inl hsame
  · exact Or.inr ⟨hnone, hdir⟩

-- What is put further down makes no difference.
theorem put (h : SameAbove t t' base root) {names : FilePath} {e : FileTree.Entry}
    (hdeep : 3 ≤ names.length) (hput : (t'.put (root ++ names) e).Rooted base root) :
    SameAbove t (t'.put (root ++ names) e) base root := by
  have hne : ∀ above : FilePath, above.length < 3 → above ≠ names := by
    rintro above hshort rfl
    omega
  refine ⟨hput, fun above hshort => ?_⟩
  have hpath : root ++ names ≠ [] := by
    intro hnil
    rw [(List.append_eq_nil_iff.mp hnil).2] at hdeep
    exact absurd hdeep (by decide)
  have hsame := t'.lookup_put_of_ne hpath e
    (fun he => hne above hshort (List.append_cancel_left he))
  rw [FileTree.hasDirectory_congr hsame, hsame]
  exact h.above above hshort

-- So the same files stand in the way.
theorem obstructed_iff (h : SameAbove t t' base root) {names : FilePath}
    (hlength : names.length ≤ 3) : t'.Obstructed root names ↔ t.Obstructed root names := by
  have hshort : ∀ before rest : FilePath, names = before ++ rest → rest ≠ [] →
      before.length < 3 := by
    intro before rest hsplit hrest
    have hpos := List.length_pos_iff.mpr hrest
    rw [hsplit, List.length_append] at hlength
    omega
  constructor
  · rintro ⟨before, rest, content, modified, hsplit, hrest, hfile⟩
    rcases h.above before (hshort before rest hsplit hrest) with hsame | ⟨_, hdir⟩
    · exact ⟨before, rest, content, modified, hsplit, hrest, hsame.symm.trans hfile⟩
    · exact absurd hdir (FileTree.not_hasDirectory_of_file hfile)
  · rintro ⟨before, rest, content, modified, hsplit, hrest, hfile⟩
    rcases h.above before (hshort before rest hsplit hrest) with hsame | ⟨hnone, _⟩
    · exact ⟨before, rest, content, modified, hsplit, hrest, hsame.trans hfile⟩
    · rw [hnone] at hfile
      cases hfile

end Trees

variable {s : FileStore} {t' : FileTree} {root : FilePath}
  (habove : SameAbove s.tree t' (FilePath.ofString s.base) root)
  (h : s.tree.Rooted (FilePath.ofString s.base) root)

include habove h

-- An image is read as before if its place is as before.
theorem get_eq {a : ImageAddress}
    (hplace : t'.lookup (root ++ a.names) = s.tree.lookup (root ++ a.names)) :
    FileStore.get { s with tree := t' } a = s.get a :=
  get_congr h habove.rooted hplace (habove.obstructed_iff (by simp))

theorem contains_eq {a : ImageAddress}
    (hplace : t'.lookup (root ++ a.names) = s.tree.lookup (root ++ a.names)) :
    FileStore.contains { s with tree := t' } a = s.contains a :=
  contains_congr h habove.rooted hplace (habove.obstructed_iff (by simp))

-- A listing is stopped by a file in the way, before and after, or brings the images in the folder.
theorem list_cases (folder : FolderAddress) :
    FileStore.list { s with tree := t' } folder = s.list folder ∨
      s.list folder = FolderListing.ofEntries folder (entriesIn s.tree (root ++ folder.names)) ∧
        FileStore.list { s with tree := t' } folder =
          FolderListing.ofEntries folder (entriesIn t' (root ++ folder.names)) := by
  have hiff : t'.Obstructed root (folder.names ++ [[]]) ↔
      s.tree.Obstructed root (folder.names ++ [[]]) := habove.obstructed_iff (by simp)
  by_cases hway : s.tree.Obstructed root (folder.names ++ [[]])
  · left
    rw [list_obstructed h hway, list_obstructed (s := { s with tree := t' }) habove.rooted
      (hiff.mpr hway)]
  · right
    exact ⟨list_free h [] hway, list_free (s := { s with tree := t' }) habove.rooted []
      (mt hiff.mp hway)⟩

-- A folder is listed as before if the places of its images are as before.
theorem list_eq {folder : FolderAddress}
    (hplaces : ∀ name : ImageName, t'.lookup (root ++ (folder.image name).names) =
      s.tree.lookup (root ++ (folder.image name).names)) :
    FileStore.list { s with tree := t' } folder = s.list folder := by
  rcases habove.list_cases h folder with hsame | ⟨hbefore, hafter⟩
  · exact hsame
  · have hentries : (entriesIn t' (root ++ folder.names)).filter (fun _ => true) =
        (entriesIn s.tree (root ++ folder.names)).filter (fun _ => true) := by
      refine filter_entriesIn_congr (fun _ => true) fun name _ => ?_
      rw [List.append_assoc]
      exact hplaces name
    rw [List.filter_true, List.filter_true] at hentries
    rw [hbefore, hafter, hentries]

end SameAbove

end Gallery.FileStore
