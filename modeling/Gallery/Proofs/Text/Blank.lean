import Gallery.Text.Blank
import Mathlib.Data.List.TakeWhile

namespace Gallery.Text

theorem dropWhile_isBlank {blanks cs : List Char} (hblanks : ∀ c ∈ blanks, isBlank c = true)
    (hfirst : ∀ c ∈ cs.head?, isBlank c = false) : (blanks ++ cs).dropWhile isBlank = cs := by
  rw [List.dropWhile_append_of_pos hblanks]
  cases cs with
  | nil => rfl
  | cons c rest => exact List.dropWhile_cons_of_neg (by simp [hfirst c rfl])

-- Trimming takes away the blanks around a text that neither begins nor ends with one.
theorem trimChars_of_blanks {before cs after : List Char}
    (hbefore : ∀ c ∈ before, isBlank c = true) (hafter : ∀ c ∈ after, isBlank c = true)
    (hfirst : ∀ c ∈ cs.head?, isBlank c = false) (hlast : ∀ c ∈ cs.getLast?, isBlank c = false) :
    trimChars (before ++ cs ++ after) = cs := by
  unfold trimChars
  cases cs with
  | nil =>
      have hall : ∀ c ∈ before ++ after, isBlank c = true :=
        List.forall_mem_append.mpr ⟨hbefore, hafter⟩
      have hnothing := @dropWhile_isBlank (before ++ after) [] hall (by simp)
      rw [List.append_nil] at hnothing
      rw [List.append_nil, hnothing]
      rfl
  | cons c rest =>
      rw [List.append_assoc, dropWhile_isBlank hbefore (by simpa using hfirst),
        List.reverse_append, dropWhile_isBlank (by simpa using hafter), List.reverse_reverse]
      rwa [List.head?_reverse]

-- Nothing is left of a text if all of it is blank.
theorem trimChars_eq_nil_iff (cs : List Char) :
    trimChars cs = [] ↔ ∀ c ∈ cs, isBlank c = true := by
  rw [trimChars, List.reverse_eq_nil_iff, List.dropWhile_eq_nil_iff]
  simp only [List.mem_reverse]
  constructor
  · intro h
    have hall : ∀ c ∈ cs.takeWhile isBlank ++ cs.dropWhile isBlank, isBlank c = true :=
      List.forall_mem_append.mpr ⟨fun c hc => List.mem_takeWhile_imp hc, h⟩
    rwa [List.takeWhile_append_dropWhile] at hall
  · intro h c hc
    exact h c (List.dropWhile_subset _ hc)

theorem isEmpty_trim_iff (s : String) :
    (trim s).isEmpty = true ↔ ∀ c ∈ s.toList, isBlank c = true := by
  rw [String.isEmpty_iff, ← String.toList_eq_nil_iff, trim, String.toList_ofList,
    trimChars_eq_nil_iff]

end Gallery.Text
