import Gallery.Proofs.Text
import Gallery.Store.FileTree

-- How paths are spelled: as words between slashes, of which the empty ones and single full stops
-- do not count.

namespace Gallery

section Words

variable {α : Type} [BEq α] [LawfulBEq α] {a : α}

-- A word of a list is a part of it that holds no separator.
theorem mem_splitOn {word xs : List α} (h : word ∈ xs.splitOn a) : a ∉ word ∧ word <:+: xs := by
  induction hlength : xs.length using Nat.strongRecOn generalizing xs with
  | ind n ih =>
      by_cases ha : a ∈ xs
      · obtain ⟨first, rest, rfl, hfirst⟩ := List.eq_append_cons_of_mem ha
        rw [List.splitOn_append_cons_self_of_not_mem hfirst] at h
        rcases List.mem_cons.mp h with rfl | hlater
        · exact ⟨hfirst, (List.prefix_append _ _).isInfix⟩
        · have hshorter : rest.length < n := by
            rw [← hlength, List.length_append, List.length_cons]
            omega
          obtain ⟨hword, hpart⟩ := ih _ hshorter hlater rfl
          have hsuffix : rest <:+ first ++ a :: rest :=
            (List.suffix_cons a rest).trans (List.suffix_append _ _)
          exact ⟨hword, hpart.trans hsuffix.isInfix⟩
      · rw [List.splitOn_eq_singleton ha, List.mem_singleton] at h
        subst h
        exact ⟨ha, List.infix_refl word⟩

end Words

namespace Text

theorem slash_mem_of_separator_mem {s : String} (h : FilePath.separator ∈ utf8 s) :
    '/' ∈ s.toList := by
  rw [← String.ofList_toList (s := s), utf8_ofList, List.mem_flatMap] at h
  obtain ⟨c, hc, hbyte⟩ := h
  have hval := val_toNat_of_mem_utf8EncodeChar (by decide) hbyte
  have hslash : c = '/' := Char.toNat_inj.mp hval
  rwa [← hslash]

end Text

namespace FilePath

theorem split_eq_splitOnPPrepend (name : FileName) (bytes : List UInt8) :
    split name bytes = List.splitOnPPrepend (· == separator) bytes name := by
  induction bytes generalizing name with
  | nil => rw [split, List.splitOnPPrepend_nil]
  | cons b rest ih =>
      rw [split]
      by_cases hb : b = separator
      · rw [if_pos hb, ih, List.splitOnPPrepend_cons_pos (p := (· == separator))
          (beq_iff_eq.mpr hb)]
        rfl
      · rw [if_neg hb, ih, List.splitOnPPrepend_cons_neg (p := (· == separator))
          (beq_eq_false_iff_ne.mpr hb)]

theorem ofBytes_eq_filter (bytes : List UInt8) :
    ofBytes bytes = (bytes.splitOn separator).filter fun name => name ≠ [] && name ≠ [46] := by
  rw [ofBytes, split_eq_splitOnPPrepend, List.splitOn_eq_splitOnP]
  rfl

theorem ofBytes_append_separator (before after : List UInt8) :
    ofBytes (before ++ separator :: after) = ofBytes before ++ ofBytes after := by
  rw [ofBytes_eq_filter, List.splitOn_append_cons_self, List.filter_append, ← ofBytes_eq_filter,
    ← ofBytes_eq_filter]

@[simp] theorem ofString_empty : ofString "" = [] := rfl

theorem ofString_append_slash (before after : String) :
    ofString (before ++ "/" ++ after) = ofString before ++ ofString after := by
  have hslash : Text.utf8 "/" = [separator] := by decide +kernel
  rw [ofString, Text.utf8_append, Text.utf8_append, hslash, List.append_assoc,
    List.singleton_append, ofBytes_append_separator]
  rfl

theorem ofString_word {word : String} (hslash : '/' ∉ word.toList) :
    ofString word = if word = "" ∨ word = "." then [] else [Text.utf8 word] := by
  have hbytes : separator ∉ Text.utf8 word := mt Text.slash_mem_of_separator_mem hslash
  have hempty : Text.utf8 word = [] ↔ word = "" := Text.utf8_injective.eq_iff' rfl
  have hdot : Text.utf8 word = [46] ↔ word = "." := Text.utf8_injective.eq_iff' (by decide +kernel)
  rw [ofString, ofBytes_eq_filter, List.splitOn_eq_singleton hbytes, List.filter_cons,
    List.filter_nil]
  simp only [ne_eq, hempty, hdot, Bool.and_eq_true, decide_eq_true_eq, ← not_or, ite_not]

end FilePath

end Gallery
