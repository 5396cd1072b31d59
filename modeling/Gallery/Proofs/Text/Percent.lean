import Gallery.Proofs.Text
import Gallery.Text.Percent

namespace Gallery.Text

-- Bytes without a percent sign among them stand for themselves.
theorem percentDecode_of_not_mem {bytes : List UInt8} (h : 0x25 ∉ bytes) :
    percentDecode bytes = bytes := by
  induction bytes with
  | nil => rw [percentDecode]
  | cons b rest ih =>
      rw [List.mem_cons, not_or] at h
      obtain ⟨hb, hrest⟩ := h
      rw [percentDecode, ih hrest]
      intro high low more heq
      exact absurd heq.symm hb

-- Something always stands for something.
theorem percentDecode_eq_nil_iff {bytes : List UInt8} : percentDecode bytes = [] ↔ bytes = [] := by
  constructor
  · intro h
    unfold percentDecode at h
    split at h
    · split at h <;> cases h
    · cases h
    · rfl
  · rintro rfl
    rw [percentDecode]

end Gallery.Text
