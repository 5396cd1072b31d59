import Gallery.Proofs.Text.Number
import Gallery.Uuid

namespace Gallery.Uuid

-- The digits to the base 16, with letters in lower case.
def hexDigits : List Char :=
  ['0', '1', '2', '3', '4', '5', '6', '7', '8', '9', 'a', 'b', 'c', 'd', 'e', 'f']

theorem mem_hexDigits_of_mem_toDigits (n : Nat) : ∀ c ∈ Nat.toDigits 16 n, c ∈ hexDigits := by
  have hdigits : ∀ digit < 16, Nat.digitChar digit ∈ hexDigits := by decide
  intro c hc
  obtain ⟨digit, hsmall, rfl⟩ := Text.exists_digit_of_mem_toDigits (by decide) n c hc
  exact hdigits digit hsmall

theorem length_wordDigits (w : UInt64) : (wordDigits w).length = 16 := by
  have hlength : (Nat.toDigits 16 w.toNat).length ≤ 16 :=
    (Nat.length_toDigits_le_iff (by decide) (by decide)).mpr w.toNat_lt
  simp only [wordDigits, List.length_append, List.length_replicate]
  omega

theorem mem_hexDigits_of_mem_wordDigits (w : UInt64) : ∀ c ∈ wordDigits w, c ∈ hexDigits := by
  refine List.forall_mem_append.mpr ⟨fun c hc => ?_, mem_hexDigits_of_mem_toDigits w.toNat⟩
  rw [List.eq_of_mem_replicate hc]
  decide

-- The first half of the digits are those of the first word.
theorem take_digits (id : Uuid) : id.digits.take 16 = wordDigits id.high := by
  rw [digits, ← length_wordDigits id.high, List.take_left]

end Gallery.Uuid
