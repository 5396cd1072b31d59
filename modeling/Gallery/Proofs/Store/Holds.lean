import Gallery.Proofs.Store.Files.Holds
import Gallery.Proofs.Store.Memory
import Gallery.Store

namespace Gallery

namespace Store

-- A store of either kind holds exactly these images.
def Holds : Store → Contents → Prop
  | .memory s, images => s.Holds images
  | .files s, images => ∃ root, s.HoldsAt root images

-- A new store of either kind.
def IsEmpty : Store → Prop
  | .memory s => s = MemoryStore.empty
  | .files s => ∃ root, s.EmptyAt root

theorem IsEmpty.holds {s : Store} (h : s.IsEmpty) : s.Holds Contents.empty := by
  cases s with
  | memory s =>
      rw [show s = MemoryStore.empty from h]
      exact MemoryStore.Holds.empty
  | files s =>
      obtain ⟨root, hempty⟩ := h
      exact ⟨root, hempty.holdsAt⟩

namespace Holds

variable {s : Store} {images : Contents} (h : s.Holds images)

include h

theorem get (a : ImageAddress) :
    s.get a = images.read a := by
  cases s with
  | memory s => exact MemoryStore.Holds.get h a
  | files s =>
      obtain ⟨root, hroot⟩ := h
      exact hroot.get a

theorem contains (a : ImageAddress) : s.contains a = .ok (images a).isSome := by
  cases s with
  | memory s => exact congrArg Except.ok (MemoryStore.Holds.contains h a)
  | files s =>
      obtain ⟨root, hroot⟩ := h
      exact hroot.contains a

theorem list (folder : FolderAddress) :
    ∃ entries, images.Lists folder entries ∧ s.list folder = FolderListing.ofEntries folder entries := by
  cases s with
  | memory s => exact ⟨_, MemoryStore.Holds.lists h folder, rfl⟩
  | files s =>
      obtain ⟨root, hroot⟩ := h
      exact ⟨_, hroot.lists folder, hroot.list folder⟩

theorem put (a : ImageAddress) (content : ByteArray) {contentType : String} (now : Instant)
    (random : Uuid) (hshort : contentType.utf8ByteSize ≤ Envelope.maxContentType) :
    ∃ s', s.put a content contentType now random = (.ok (), s') ∧
      s'.Holds (images.put a ⟨content, contentType, now⟩) := by
  cases s with
  | memory s => exact ⟨_, rfl, MemoryStore.Holds.put h a content contentType now⟩
  | files s =>
      obtain ⟨root, hroot⟩ := h
      obtain ⟨s', hput, hholds⟩ := hroot.put a content now random hshort
      refine ⟨.files s', ?_, root, hholds⟩
      simp only [Store.put, hput]

end Holds

end Store

end Gallery
