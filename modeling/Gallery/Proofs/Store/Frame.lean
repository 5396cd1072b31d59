import Gallery.Proofs.Store.Files.Put
import Gallery.Proofs.Store.Memory
import Gallery.Store

namespace Gallery

-- The entries that a listing brought, none if it failed.
def FolderListing.entriesOf : Except StoreError FolderListing → List ListingEntry
  | .ok l => l.entries
  | .error _ => []

@[simp] theorem FolderListing.entriesOf_ofEntries (folder : FolderAddress)
    (entries : List ListingEntry) :
    entriesOf (FolderListing.ofEntries folder entries) = entries := by
  cases entries <;> rfl

namespace Store

-- A store whose base leads to a directory without links in it.
def LinkFree : Store → Prop
  | .memory _ => True
  | .files s => ∃ root, s.tree.Rooted (FilePath.ofString s.base) root

-- All reads of the one store have the same results as those of the other.
structure SameReads (s after : Store) : Prop where
  get : ∀ a, after.get a = s.get a
  contains : ∀ a, after.contains a = s.contains a
  list : ∀ folder, after.list folder = s.list folder

-- All reads have the same results but those that are about one image.
structure SameReadsBut (a : ImageAddress) (s after : Store) : Prop where
  get : ∀ b, b ≠ a → after.get b = s.get b
  contains : ∀ b, b ≠ a → after.contains b = s.contains b
  list : ∀ folder, folder ≠ a.parent → after.list folder = s.list folder
  others : (FolderListing.entriesOf (after.list a.parent)).filter (fun e => e.name ≠ a.name.text) =
    (FolderListing.entriesOf (s.list a.parent)).filter (fun e => e.name ≠ a.name.text)

-- All reads have the same results but those that are about images of one owner.
structure SameReadsOutside (owner : Owner) (s after : Store) : Prop where
  get : ∀ a, a.owner ≠ owner → after.get a = s.get a
  contains : ∀ a, a.owner ≠ owner → after.contains a = s.contains a
  list : ∀ folder, folder.owner ≠ owner → after.list folder = s.list folder

theorem SameReads.refl (s : Store) : s.SameReads s := ⟨fun _ => rfl, fun _ => rfl, fun _ => rfl⟩

variable {owner : Owner} {s after last : Store}

theorem SameReadsOutside.refl (owner : Owner) (s : Store) : SameReadsOutside owner s s :=
  ⟨fun _ _ => rfl, fun _ _ => rfl, fun _ _ => rfl⟩

theorem SameReadsOutside.trans (h : SameReadsOutside owner s after)
    (h' : SameReadsOutside owner after last) : SameReadsOutside owner s last :=
  ⟨fun a ha => (h'.get a ha).trans (h.get a ha),
    fun a ha => (h'.contains a ha).trans (h.contains a ha),
    fun folder hf => (h'.list folder hf).trans (h.list folder hf)⟩

theorem SameReads.outside (h : s.SameReads after) (owner : Owner) :
    SameReadsOutside owner s after :=
  ⟨fun a _ => h.get a, fun a _ => h.contains a, fun folder _ => h.list folder⟩

theorem SameReadsBut.outside {a : ImageAddress} (h : SameReadsBut a s after) :
    SameReadsOutside a.owner s after :=
  ⟨fun b hb => h.get b fun he => hb (he ▸ rfl), fun b hb => h.contains b fun he => hb (he ▸ rfl),
    fun folder hf => h.list folder fun he => hf (he ▸ rfl)⟩

end Store

namespace FileStore

-- Trees that differ in directories above the images only, and in things that are no images, are read
-- alike.
theorem SameAbove.sameReads {s : FileStore} {t' : FileTree} {root : FilePath}
    (habove : SameAbove s.tree t' (FilePath.ofString s.base) root)
    (h : s.tree.Rooted (FilePath.ofString s.base) root)
    (hplaces : ∀ a : ImageAddress, t'.lookup (root ++ a.names) = s.tree.lookup (root ++ a.names)) :
    Store.SameReads (.files s) (.files { s with tree := t' }) :=
  ⟨fun a => habove.get_eq h (hplaces a), fun a => habove.contains_eq h (hplaces a),
    fun folder => habove.list_eq h fun name => hplaces (folder.image name)⟩

namespace Attempted

variable {s : FileStore} {t' : FileTree} {root : FilePath} {a : ImageAddress} {random : Uuid}
  (hattempt : Attempted s.tree t' (FilePath.ofString s.base) root a random)

include hattempt

-- The other images of the folder are still listed, and no more than these.
theorem filter_others :
    (entriesIn t' (root ++ a.parent.names)).filter (fun e => e.name ≠ a.name.text) =
      (entriesIn s.tree (root ++ a.parent.names)).filter (fun e => e.name ≠ a.name.text) := by
  refine filter_entriesIn_congr (fun name => decide (name ≠ a.name.text)) fun name hname => ?_
  have hne : a.parent.image name ≠ a := by
    intro ha
    rw [← ha] at hname
    simp [FolderAddress.image] at hname
  rw [List.append_assoc]
  exact hattempt.lookup_of_ne hne

variable (h : s.tree.Rooted (FilePath.ofString s.base) root)

include h

theorem others_eq :
    (FolderListing.entriesOf (FileStore.list { s with tree := t' } a.parent)).filter
        (fun e => e.name ≠ a.name.text) =
      (FolderListing.entriesOf (s.list a.parent)).filter (fun e => e.name ≠ a.name.text) := by
  rcases hattempt.sameAbove.list_cases h a.parent with hsame | ⟨hbefore, hafter⟩
  · rw [hsame]
  · rw [hbefore, hafter, FolderListing.entriesOf_ofEntries, FolderListing.entriesOf_ofEntries]
    exact hattempt.filter_others

theorem sameReadsBut : Store.SameReadsBut a (.files s) (.files { s with tree := t' }) := by
  refine ⟨?_, ?_, ?_, hattempt.others_eq h⟩
  · exact fun b hb => hattempt.sameAbove.get_eq h (hattempt.lookup_of_ne hb)
  · exact fun b hb => hattempt.sameAbove.contains_eq h (hattempt.lookup_of_ne hb)
  · refine fun folder hfolder => hattempt.sameAbove.list_eq h fun name => hattempt.lookup_of_ne ?_
    rintro rfl
    exact hfolder rfl

-- If the place of the image is as it was, so is all that is read.
theorem sameReads (hplace : t'.lookup (root ++ a.names) = s.tree.lookup (root ++ a.names)) :
    Store.SameReads (.files s) (.files { s with tree := t' }) := by
  refine hattempt.sameAbove.sameReads h fun b => ?_
  by_cases hb : b = a
  · rw [hb, hplace]
  · exact hattempt.lookup_of_ne hb

end Attempted

end FileStore

theorem MemoryStore.put_sameReadsBut (s : MemoryStore) (a : ImageAddress) (content : ByteArray)
    (contentType : String) (now : Instant) :
    Store.SameReadsBut a (.memory s) (.memory (s.put a content contentType now)) := by
  refine ⟨?_, ?_, ?_, ?_⟩
  · exact fun b hb => s.get_put_of_ne a content contentType now hb
  · exact fun b hb => congrArg Except.ok (s.contains_put_of_ne a content contentType now hb)
  · exact fun folder hfolder => s.list_put_of_ne a content contentType now hfolder
  · simp only [Store.list, MemoryStore.list_eq, FolderListing.entriesOf_ofEntries]
    exact s.filter_entriesIn_put a content contentType now a.parent
      (fun name => decide (name ≠ a.name.text)) (by simp)

namespace Store

-- Keeping an image changes no read of any other. If it fails no read at all is changed.
theorem put_frame {s : Store} (h : s.LinkFree) (a : ImageAddress) (content : ByteArray)
    (contentType : String) (now : Instant) (random : Uuid) :
    ∃ result after, s.put a content contentType now random = (result, after) ∧ after.LinkFree ∧
      SameReadsBut a s after ∧ ∀ e, result = .error e → s.SameReads after := by
  cases s with
  | memory s =>
      exact ⟨_, _, rfl, trivial, s.put_sameReadsBut a content contentType now,
        fun e he => by cases he⟩
  | files s =>
      obtain ⟨root, hrooted⟩ := h
      obtain ⟨t', hattempt, hcases⟩ :=
        FileStore.put_cases hrooted a content contentType now random
      have hfree : LinkFree (.files { s with tree := t' }) := ⟨root, hattempt.rooted⟩
      have hbut := hattempt.sameReadsBut hrooted
      rcases hcases with ⟨hput, _, _⟩ | ⟨⟨e, hput⟩, hplace, _⟩
      · refine ⟨.ok (), .files { s with tree := t' }, ?_, hfree, hbut, fun e he => by cases he⟩
        simp only [put, hput]
      · refine ⟨.error e, .files { s with tree := t' }, ?_, hfree, hbut,
          fun _ _ => hattempt.sameReads hrooted hplace⟩
        simp only [put, hput]

end Store

end Gallery
