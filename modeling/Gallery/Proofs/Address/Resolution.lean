import Gallery.Address.Resolution
import Gallery.Proofs.Except
import Gallery.Proofs.Segment

namespace Gallery

-- The texts of valid coordinates are read as these coordinates again.
@[simp] theorem Segment.ofPath_text (role : Coordinate) (s : Segment role) :
    Segment.ofPath role s.text = .ok s := by
  rw [ofPath, parse_text]
  rfl

@[simp] theorem ImageAddress.ofPath_text (a : ImageAddress) :
    ImageAddress.ofPath a.owner.text a.folder.text a.name.text = .ok a := by
  simp only [ofPath, Segment.ofPath_text]
  rfl

@[simp] theorem FolderAddress.ofPath_text (a : FolderAddress) :
    FolderAddress.ofPath a.owner.text a.folder.text = .ok a := by
  simp only [ofPath, Segment.ofPath_text]
  rfl

-- And words that are read as coordinates are their texts.
theorem Segment.text_of_ofPath {role : Coordinate} {raw : String} {s : Segment role}
    (h : ofPath role raw = .ok s) : s.text = raw :=
  text_of_parse (Except.eq_ok_of_mapError_eq_ok h)

theorem FolderAddress.texts_of_ofPath {owner folder : String} {a : FolderAddress}
    (h : ofPath owner folder = .ok a) : a.owner.text = owner ∧ a.folder.text = folder := by
  unfold ofPath at h
  obtain ⟨o, howner, h⟩ := Except.exists_of_bind_eq_ok h
  obtain ⟨f, hfolder, h⟩ := Except.exists_of_bind_eq_ok h
  cases h
  exact ⟨Segment.text_of_ofPath howner, Segment.text_of_ofPath hfolder⟩

end Gallery
