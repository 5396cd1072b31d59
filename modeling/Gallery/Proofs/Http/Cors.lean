import Gallery.Http.Cors

namespace Gallery.Http.Origins

-- A header can hold the text.
def Writable (text : String) : Prop := ∀ b ∈ Text.utf8 text, Header.isValueByte b = true

theorem ofTexts_eq_any_iff (texts : List String) : ofTexts texts = .ok .any ↔ "*" ∈ texts := by
  rw [← List.contains_iff_mem]
  unfold ofTexts
  split
  · rename_i hstar
    exact ⟨fun _ => hstar, fun _ => rfl⟩
  · rename_i hstar
    refine ⟨fun h => ?_, fun h => absurd h hstar⟩
    split at h <;> cases h

-- With a star the other texts are not looked at; without one the first that no header can hold is
-- the error.
theorem ofTexts_cases (texts : List String) :
    (∃ origins, ofTexts texts = .ok origins ∧ ("*" ∈ texts ∨ ∀ text ∈ texts, Writable text)) ∨
      ∃ text ∈ texts, ofTexts texts = .error text ∧ ¬Writable text ∧ "*" ∉ texts := by
  unfold ofTexts
  split
  · rename_i hstar
    exact Or.inl ⟨_, rfl, Or.inl (List.contains_iff_mem.mp hstar)⟩
  · rename_i hstar
    rw [List.contains_iff_mem] at hstar
    split
    · rename_i text hfound
      have hbad := List.find?_some hfound
      rw [Bool.not_eq_true', List.all_eq_false] at hbad
      obtain ⟨b, hb, hvalue⟩ := hbad
      exact Or.inr ⟨text, List.mem_of_find?_eq_some hfound, rfl, fun h => hvalue (h b hb), hstar⟩
    · rename_i hnone
      refine Or.inl ⟨_, rfl, Or.inr fun text htext => ?_⟩
      have hgood := List.find?_eq_none.mp hnone text htext
      rwa [Bool.not_eq_true', Bool.not_eq_false, List.all_eq_true] at hgood

end Gallery.Http.Origins
