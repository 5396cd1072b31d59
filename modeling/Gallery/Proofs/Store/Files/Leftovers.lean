import Gallery.Proofs.Store.Files.Listing
import Gallery.Proofs.Store.Frame

-- Hidden files in the directories of folders, such as are left of images that were never moved
-- into their places, are not seen by any read.

namespace Gallery

open FileTree (ProperName)

namespace FileStore

-- A hidden file in the directory of a folder.
structure Leftover where
  folder : FolderAddress
  name : FileName
  hidden : name.head? = some 46
  proper : ProperName name
  content : ByteArray
  modified : Instant

namespace Leftover

-- The names on the way to the file.
def names (l : Leftover) : FilePath := l.folder.names ++ [l.name]

@[simp] theorem length_names (l : Leftover) : l.names.length = 3 := rfl

-- What is left of an image that was to be kept, whatever got into its hidden file.
def ofPut (a : ImageAddress) (random : Uuid) (content : ByteArray) (modified : Instant) :
    Leftover :=
  ⟨a.parent, Text.utf8 (hiddenName random), head?_utf8_hiddenName random,
    properName_hiddenName random, content, modified⟩

-- The file is left in the directory of its folder, which is made if it is missing.
def leave (base : FilePath) (t : FileTree) (l : Leftover) : FileTree :=
  match FileTree.makeDirectories (base ++ l.folder.names) t with
  | .error _ t => t
  | .ok _ t =>
    match FileTree.writeFile (base ++ l.names) l.content l.modified t with
    | .error _ t => t
    | .ok _ t => t

def leaveAll (base : FilePath) (t : FileTree) (leftovers : List Leftover) : FileTree :=
  leftovers.foldl (leave base) t

section Leave

variable {t : FileTree} {base root : FilePath} (h : t.Rooted base root) (l : Leftover)

include h

-- All that can come of it: nothing, if a file is in the way, and else the directories, with the
-- file in them unless there is a directory in its place.
theorem leave_cases :
    (t.Obstructed root l.names ∧ leave base t l = t) ∨
      ¬t.Obstructed root l.names ∧ ∃ grown, grown.Rooted base root ∧
        t.Grows grown root l.folder.names ∧ grown.HasDirectory (root ++ l.folder.names) ∧
        (t.HasDirectory (root ++ l.names) ∧ leave base t l = grown ∨
          ¬t.HasDirectory (root ++ l.names) ∧
            leave base t l = grown.put (root ++ l.names) (.file l.content l.modified)) := by
  have hfolder := l.folder.properName
  by_cases hway : t.Obstructed root l.names
  · obtain ⟨e, he⟩ := h.makeDirectories_obstructed hfolder hway
    exact Or.inl ⟨hway, by rw [leave, he]⟩
  · obtain ⟨grown, hgrown, hrooted, hd, hgrows⟩ :=
      h.makeDirectories_free (by simp [FolderAddress.names]) hfolder hway
    have hplace : grown.lookup (root ++ l.names) = t.lookup (root ++ l.names) :=
      hgrows.lookup_eq (by simp)
    have hiff := FileTree.hasDirectory_congr hplace
    refine Or.inr ⟨hway, grown, hrooted, hgrows, hd, ?_⟩
    by_cases hdir : t.HasDirectory (root ++ l.names)
    · refine Or.inl ⟨hdir, ?_⟩
      rw [leave, hgrown]
      simp only [names, hrooted.writeFile_directory hfolder l.proper (hiff.mpr hdir)]
    · refine Or.inr ⟨hdir, ?_⟩
      rw [leave, hgrown]
      simp only [names, hrooted.writeFile_free hfolder l.proper hd (mt hiff.mp hdir)]

theorem leave_sameAbove : SameAbove t (leave base t l) base root := by
  rcases leave_cases h l with ⟨_, hleave⟩ | ⟨_, grown, hrooted, hgrows, hd, hcases⟩
  · rw [hleave]
    exact .refl h
  · have habove := SameAbove.of_grows hrooted hgrows
    rcases hcases with ⟨_, hleave⟩ | ⟨hfree, hleave⟩
    · rw [hleave]
      exact habove
    · have hplace : grown.lookup (root ++ l.names) = t.lookup (root ++ l.names) :=
        hgrows.lookup_eq (by simp)
      rw [hleave]
      refine habove.put (by simp) (hrooted.put hd ?_ fun _ he => by cases he)
      exact mt (FileTree.hasDirectory_congr hplace).mp hfree

-- At the depth of images nothing changes but the place of the file.
theorem lookup_leave_of_ne {names : FilePath} (hdeep : names.length = 3) (hne : names ≠ l.names) :
    (leave base t l).lookup (root ++ names) = t.lookup (root ++ names) := by
  rcases leave_cases h l with ⟨_, hleave⟩ | ⟨_, grown, _, hgrows, _, hcases⟩
  · rw [hleave]
  · have hkept : grown.lookup (root ++ names) = t.lookup (root ++ names) :=
      hgrows.lookup_eq (by simp [hdeep])
    rcases hcases with ⟨_, hleave⟩ | ⟨_, hleave⟩
    · rw [hleave, hkept]
    · have hother : root ++ names ≠ root ++ l.names := fun he => hne (List.append_cancel_left he)
      have hpne : root ++ l.names ≠ [] := FileTree.below_ne_nil _ _ _
      rw [hleave, FileTree.lookup_put_of_ne _ hpne _ hother, hkept]

-- And there the file is, if it can be.
theorem lookup_leave_self (hway : ¬t.Obstructed root l.names)
    (hfree : ¬t.HasDirectory (root ++ l.names)) :
    (leave base t l).lookup (root ++ l.names) = some (.file l.content l.modified) := by
  rcases leave_cases h l with ⟨hblocked, _⟩ | ⟨_, grown, _, _, _, ⟨hdir, _⟩ | ⟨_, hleave⟩⟩
  · exact absurd hblocked hway
  · exact absurd hdir hfree
  · rw [hleave]
    exact FileTree.lookup_put_self _ (FileTree.below_ne_nil _ _ _) _

end Leave

section LeaveAll

variable {t : FileTree} {base root : FilePath} (h : t.Rooted base root) (leftovers : List Leftover)

include h

theorem leaveAll_sameAbove : SameAbove t (leaveAll base t leftovers) base root := by
  induction leftovers generalizing t with
  | nil => exact .refl h
  | cons l rest ih =>
      have hfirst := leave_sameAbove h l
      exact hfirst.trans (ih hfirst.rooted)

theorem lookup_leaveAll_of_ne {names : FilePath} (hdeep : names.length = 3)
    (hne : ∀ l ∈ leftovers, names ≠ l.names) :
    (leaveAll base t leftovers).lookup (root ++ names) = t.lookup (root ++ names) := by
  induction leftovers generalizing t with
  | nil => rfl
  | cons l rest ih =>
      obtain ⟨hl, hrest⟩ := List.forall_mem_cons.mp hne
      have hfirst := lookup_leave_of_ne h l hdeep hl
      exact (ih (leave_sameAbove h l).rooted hrest).trans hfirst

-- Every file that can be there is there in the end, unless another has taken its place.
theorem lookup_leaveAll (hapart : leftovers.Pairwise fun l l' => l.names ≠ l'.names) {l : Leftover}
    (hl : l ∈ leftovers) (hway : ¬t.Obstructed root l.names)
    (hfree : ¬t.HasDirectory (root ++ l.names)) :
    (leaveAll base t leftovers).lookup (root ++ l.names) = some (.file l.content l.modified) := by
  induction leftovers generalizing t with
  | nil => cases hl
  | cons first rest ih =>
      obtain ⟨hfirst, hrest⟩ := List.pairwise_cons.mp hapart
      have habove := leave_sameAbove h first
      rcases List.mem_cons.mp hl with rfl | hlater
      · have hleft := lookup_leave_self h l hway hfree
        exact (lookup_leaveAll_of_ne habove.rooted rest rfl hfirst).trans hleft
      · have hkept := lookup_leave_of_ne h first l.length_names (hfirst l hlater).symm
        exact ih habove.rooted hrest hlater (mt (habove.obstructed_iff (by simp)).mp hway)
          (mt (FileTree.hasDirectory_congr hkept).mp hfree)

end LeaveAll

end Leftover

-- However many hidden files are left in the directories of folders, which are made where they are
-- missing, everything is read as before. What an image is written to before it has its place is
-- such a file, and is never in the place of an image.
theorem leftovers_are_not_seen {s : FileStore} {root : FilePath}
    (h : s.tree.Rooted (FilePath.ofString s.base) root) (leftovers : List Leftover) :
    Store.SameReads (.files s)
        (.files { s with tree := Leftover.leaveAll (FilePath.ofString s.base) s.tree leftovers }) ∧
      (leftovers.Pairwise (fun l l' => l.names ≠ l'.names) → ∀ l ∈ leftovers,
        ¬s.tree.Obstructed root l.names → ¬s.tree.HasDirectory (root ++ l.names) →
        (Leftover.leaveAll (FilePath.ofString s.base) s.tree leftovers).lookup (root ++ l.names) =
          some (.file l.content l.modified)) ∧
      ∀ (a b : ImageAddress) (random : Uuid) (pieces others : List String),
        locateKey a.key = .ok pieces → locateKey b.key = .ok others →
        s.path (pieces.dropLast ++ [hiddenName random]) ≠ s.path others ∧
        ∀ content modified, s.path (pieces.dropLast ++ [hiddenName random]) =
          FilePath.ofString s.base ++ (Leftover.ofPut a random content modified).names := by
  refine ⟨?_, fun hapart l hl => Leftover.lookup_leaveAll h leftovers hapart hl,
    fun a b random pieces others hpieces hothers => ?_⟩
  · refine (Leftover.leaveAll_sameAbove h leftovers).sameReads h fun a => ?_
    exact Leftover.lookup_leaveAll_of_ne h leftovers a.length_names
      fun l _ => a.names_ne_of_hidden l.folder l.hidden
  · rw [locateKey_key, Except.ok.injEq] at hpieces hothers
    subst hpieces hothers
    exact ⟨fun hpath => b.names_ne_hiddenNames a random (List.append_cancel_left hpath).symm,
      fun _ _ => rfl⟩

-- A folder that is not in that tree, and what is left of two images, one of them in that folder.
def newFolder : FolderAddress := ⟨ImageAddress.sample.owner, ⟨"new", by decide +kernel⟩⟩

def cutOff : List Leftover :=
  [.ofPut ImageAddress.sample ⟨1, 2⟩ ⟨#[70, 79]⟩ .epoch,
    .ofPut (newFolder.image cutName) ⟨3, 4⟩ ⟨#[]⟩ .epoch]

-- The folder is made for its file, and still nothing is found in it.
theorem leftovers_are_not_seen_beside_cut :
    besideCut.tree.Rooted (FilePath.ofString besideCut.base) [] ∧
      let tree := Leftover.leaveAll (FilePath.ofString besideCut.base) besideCut.tree cutOff
      (∃ content, tree.lookup ((newFolder.image cutName).hiddenNames ⟨3, 4⟩) =
        some (.file content .epoch)) ∧
      FileStore.list { besideCut with tree } newFolder = .error (.notFound "u1/new/") := by
  obtain ⟨hreads, hleft, _⟩ := leftovers_are_not_seen besideCut_rooted cutOff
  have howner : besideCut.tree.HasDirectory [Text.utf8 "u1"] := ⟨_, rfl⟩
  have hnone : besideCut.tree.lookup newFolder.names = none := rfl
  have hfree : besideCut.tree.lookup ((newFolder.image cutName).hiddenNames ⟨3, 4⟩) = none := rfl
  have hinner : ¬besideCut.tree.Obstructed [] newFolder.names := fun hway => by
    have hthere : ¬besideCut.tree.Obstructed [] [Text.utf8 "u1"] :=
      besideCut_rooted.not_obstructed rfl
    obtain ⟨_, _, hfile⟩ := FileTree.file_of_obstructed hway hthere
    exact FileTree.not_hasDirectory_of_file hfile howner
  have hway : ¬besideCut.tree.Obstructed [] ((newFolder.image cutName).hiddenNames ⟨3, 4⟩) :=
    fun hway => by
      obtain ⟨_, _, hfile⟩ := FileTree.file_of_obstructed hway hinner
      have hnofile := hnone.symm.trans hfile
      cases hnofile
  have hapart : cutOff.Pairwise fun l l' => l.names ≠ l'.names :=
    List.pairwise_pair.mpr (by decide +kernel)
  refine ⟨besideCut_rooted, ⟨_, hleft hapart _
    (List.mem_cons_of_mem _ (List.mem_singleton_self _)) hway
    (FileTree.not_hasDirectory_of_none hfree)⟩, ?_⟩
  have hlist : besideCut.list newFolder = .error (.notFound "u1/new/") := by
    rw [list_of_readDirectory,
      besideCut_rooted.readDirectory_missing newFolder.properName hnone hinner]
    rfl
  exact (hreads.list newFolder).trans hlist

end FileStore

end Gallery
