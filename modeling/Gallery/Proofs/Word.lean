import Gallery.Word

namespace Gallery.Word

theorem limit_eq : limit = 18446744073709551616 := rfl

variable {m n : Nat}

theorem add_of_lt (h : m + n < limit) : add m n = .ok (m + n) := if_pos h

theorem add_of_le (h : limit ≤ m + n) : add m n = .error .sum := if_neg (Nat.not_lt.mpr h)

theorem mul_of_lt (h : m * n < limit) : mul m n = .ok (m * n) := if_pos h

theorem mul_of_le (h : limit ≤ m * n) : mul m n = .error .product := if_neg (Nat.not_lt.mpr h)

theorem mul_eq_ok_iff {product : Nat} : mul m n = .ok product ↔ m * n = product ∧ product < limit := by
  by_cases h : m * n < limit
  · rw [mul_of_lt h, Except.ok.injEq]
    constructor
    · rintro rfl
      exact ⟨rfl, h⟩
    · exact And.left
  · rw [mul_of_le (Nat.le_of_not_lt h)]
    refine iff_of_false nofun ?_
    rintro ⟨rfl, hfits⟩
    exact h hfits

theorem saturate_lt (n : Nat) : saturate n < limit := by
  rw [saturate, limit_eq]
  omega

theorem saturate_le (n : Nat) : saturate n ≤ n := Nat.min_le_left n _

theorem saturate_of_lt (h : n < limit) : saturate n = n := by
  rw [saturate]
  omega

end Gallery.Word
