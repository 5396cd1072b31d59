import Gallery.Text.Number
import Mathlib.Algebra.Group.Nat.Defs
import Mathlib.Data.List.Basic

namespace Gallery.Text

-- So many digits, which stand for the number.
structure Numeral (width n : Nat) (cs : List Char) : Prop where
  length : cs.length = width
  value : digits? cs = some n

theorem isDigit_of_mem_of_digits? {cs : List Char} {n : Nat} (h : digits? cs = some n) {c : Char}
    (hc : c ∈ cs) : c.isDigit = true := by
  unfold digits? at h
  split at h
  · cases h
  · rename_i hdigits
    simp only [Bool.or_eq_true, Bool.not_eq_true', not_or, Bool.not_eq_false] at hdigits
    exact List.all_eq_true.mp hdigits.2 c hc

variable (width n : Nat)

theorem isDigit_of_mem_padded {c : Char} (hc : c ∈ padded width n) : c.isDigit = true := by
  rcases List.mem_append.mp hc with hzero | hdigit
  · rw [List.eq_of_mem_replicate hzero]
    rfl
  · exact Nat.isDigit_of_mem_toDigits (by decide) (by decide) hdigit

-- Zeros in front do not count.
theorem digits?_padded : digits? (padded width n) = some n := by
  have hall : (padded width n).all Char.isDigit = true :=
    List.all_eq_true.mpr fun c hc => isDigit_of_mem_padded width n hc
  have hfilled : padded width n ≠ [] := by simp [padded, Nat.toDigits_ne_nil]
  have hzeros : ∀ k, (List.replicate k '0').foldl (fun n c => 10 * n + (c.toNat - 48)) 0 = 0 := by
    intro k
    induction k with
    | zero => rfl
    | succ k ih => rw [List.replicate_succ, List.foldl_cons]; exact ih
  have hvalue : (Nat.toDigits 10 n).foldl (fun n c => 10 * n + (c.toNat - 48)) 0 = n :=
    Nat.ofDigitChars_ten_toDigits
  rw [digits?, if_neg (by simp [hall, hfilled]), padded, List.foldl_append, hzeros, hvalue]

variable {n}

theorem length_padded (hn : (Nat.toDigits 10 n).length ≤ width) :
    (padded width n).length = width := by
  simp only [padded, List.length_append, List.length_replicate]
  omega

theorem numeral_padded (hwidth : 0 < width) (hn : n < 10 ^ width) :
    Numeral width n (padded width n) :=
  ⟨length_padded width ((Nat.length_toDigits_le_iff (by decide) hwidth).mpr hn), digits?_padded _ _⟩

-- A number that is too long for the width has as many digits as it needs.
theorem exists_numeral_padded (most : Nat) (hwidth : 0 < width) (hmost : width ≤ most)
    (hn : n < 10 ^ most) : ∃ w, width ≤ w ∧ w ≤ most ∧ Numeral w n (padded width n) := by
  have hlength := (Nat.length_toDigits_le_iff (by decide) (by omega)).mpr hn
  refine ⟨_, ?_, ?_, rfl, digits?_padded width n⟩
  · simp only [padded, List.length_append, List.length_replicate]
    omega
  · simp only [padded, List.length_append, List.length_replicate]
    omega

-- To any base, a number is written in the digits below the base.
theorem exists_digit_of_mem_toDigits {base : Nat} (hbase : 1 < base) (n : Nat) :
    ∀ c ∈ Nat.toDigits base n, ∃ digit < base, c = Nat.digitChar digit := by
  induction n using Nat.strongRecOn with
  | ind n ih =>
      intro c hc
      rw [Nat.toDigits_eq_if hbase] at hc
      split at hc
      · rename_i hsmall
        exact ⟨n, hsmall, List.mem_singleton.mp hc⟩
      · rcases List.mem_append.mp hc with hfront | hlast
        · exact ih (n / base) (Nat.div_lt_self (by omega) hbase) c hfront
        · exact ⟨_, Nat.mod_lt _ (by omega), List.mem_singleton.mp hlast⟩

end Gallery.Text
