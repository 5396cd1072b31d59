import Gallery.Proofs.Address.Resolution
import Gallery.Proofs.Segment.Faults

-- The checks of the words of a path: the first word that is no segment is the one that is refused.

namespace Gallery

-- The words that a path to read from stands for, with what each of them is.
def pathWords (owner folder : String) (name : Option String) : List (Coordinate × String) :=
  (.owner, owner) :: (.folder, folder) :: (name.map (Coordinate.name, ·)).toList

-- Of the words this is the first that is no segment, and this is why it is none.
inductive FirstBad : List (Coordinate × String) → Coordinate → String → SegmentError → Prop where
  | here {role : Coordinate} {raw : String} {e : SegmentError} {rest : List (Coordinate × String)}
      (h : Segment.FirstFault raw e) : FirstBad ((role, raw) :: rest) role raw e
  | later {first : Coordinate × String} {rest : List (Coordinate × String)} {role : Coordinate}
      {raw : String} {e : SegmentError} (hfirst : Segment.Grammatical first.2)
      (hrest : FirstBad rest role raw e) : FirstBad (first :: rest) role raw e

theorem exists_firstBad {words : List (Coordinate × String)}
    (h : ∃ word ∈ words, ¬Segment.Grammatical word.2) : ∃ role raw e, FirstBad words role raw e := by
  induction words with
  | nil =>
      obtain ⟨word, hword, _⟩ := h
      cases hword
  | cons first rest ih =>
      obtain ⟨word, hword, hbad⟩ := h
      cases hfault : Segment.fault? first.2 with
      | some e => exact ⟨first.1, first.2, e, .here (Segment.fault?_eq_some_iff.mp hfault)⟩
      | none =>
          have hgood := (Segment.fault?_eq_none_iff_grammatical _).mp hfault
          rcases List.mem_cons.mp hword with rfl | hrest
          · exact absurd hgood hbad
          · obtain ⟨role, raw, e, hlater⟩ := ih ⟨word, hrest, hbad⟩
            exact ⟨role, raw, e, .later hgood hlater⟩

namespace Segment

theorem exists_of_grammatical (role : Coordinate) {raw : String} (h : Grammatical raw) :
    ∃ s : Segment role, s.text = raw :=
  ⟨⟨raw, (fault?_eq_none_iff_grammatical raw).mpr h⟩, rfl⟩

theorem ofPath_of_fault (role : Coordinate) {raw : String} {e : SegmentError}
    (h : FirstFault raw e) : ofPath role raw = .error (e.toServiceError role raw) := by
  rw [ofPath, parse_eq_error_iff.mpr (fault?_eq_some_iff.mpr h)]
  rfl

end Segment

variable {owner folder : String} {role : Coordinate} {raw : String} {e : SegmentError}

theorem FolderAddress.ofPath_of_firstBad (h : FirstBad (pathWords owner folder none) role raw e) :
    ofPath owner folder = .error (e.toServiceError role raw) := by
  cases h with
  | here h =>
      rw [ofPath, Segment.ofPath_of_fault _ h]
      rfl
  | later howner hrest =>
      obtain ⟨o, rfl⟩ := Segment.exists_of_grammatical .owner howner
      cases hrest with
      | here h =>
          rw [ofPath, Segment.ofPath_text, Segment.ofPath_of_fault _ h]
          rfl
      | later _ hnone => cases hnone

theorem ImageAddress.ofPath_of_firstBad {name : String}
    (h : FirstBad (pathWords owner folder (some name)) role raw e) :
    ofPath owner folder name = .error (e.toServiceError role raw) := by
  cases h with
  | here h =>
      rw [ofPath, Segment.ofPath_of_fault _ h]
      rfl
  | later howner hrest =>
      obtain ⟨o, rfl⟩ := Segment.exists_of_grammatical .owner howner
      cases hrest with
      | here h =>
          rw [ofPath, Segment.ofPath_text, Segment.ofPath_of_fault _ h]
          rfl
      | later hfolder hrest =>
          obtain ⟨f, rfl⟩ := Segment.exists_of_grammatical .folder hfolder
          cases hrest with
          | here h =>
              rw [ofPath, Segment.ofPath_text, Segment.ofPath_text, Segment.ofPath_of_fault _ h]
              rfl
          | later _ hnone => cases hnone

end Gallery
