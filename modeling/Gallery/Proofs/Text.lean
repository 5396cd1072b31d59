import Gallery.Text.Utf8
import Mathlib.Data.List.Basic

namespace Gallery.Text

theorem ofUtf8?_eq_some_iff (bytes : ByteArray) (s : String) :
    ofUtf8? bytes = some s ↔ bytes = s.toUTF8 := by
  unfold ofUtf8? String.fromUTF8?
  constructor
  · intro h
    split at h
    · cases h
      rfl
    · cases h
  · rintro rfl
    have hvalid : s.toUTF8.IsValidUTF8 := s.isValidUTF8
    rw [dif_pos hvalid]
    rfl

theorem toUTF8_eq_mk_utf8 (s : String) : s.toUTF8 = ⟨(utf8 s).toArray⟩ := by
  simp [utf8]

-- File names are lists of bytes, so the question is asked of those as well.
theorem ofUtf8?_mk_eq_some_iff (bytes : List UInt8) (s : String) :
    ofUtf8? ⟨bytes.toArray⟩ = some s ↔ bytes = utf8 s := by
  rw [ofUtf8?_eq_some_iff, toUTF8_eq_mk_utf8]
  constructor
  · intro h
    exact congrArg (fun b : ByteArray => b.data.toList) h
  · rintro rfl
    rfl

theorem utf8_injective : Function.Injective utf8 := by
  intro s t h
  have hb : s.toUTF8 = t.toUTF8 := by rw [toUTF8_eq_mk_utf8, toUTF8_eq_mk_utf8, h]
  exact String.toByteArray_inj.mp hb

@[simp] theorem length_utf8 (s : String) : (utf8 s).length = s.utf8ByteSize := by
  simp [utf8]

theorem utf8_append (s t : String) : utf8 (s ++ t) = utf8 s ++ utf8 t := by
  simp [utf8]

theorem utf8_ofList (cs : List Char) :
    utf8 (String.ofList cs) = cs.flatMap String.utf8EncodeChar := by
  simp [utf8, List.utf8Encode]

-- The bytes of a character that is not ASCII are not ASCII either.
theorem val_toNat_of_mem_utf8EncodeChar {b : UInt8} (hb : b.toNat < 128) {c : Char}
    (h : b ∈ String.utf8EncodeChar c) : c.val.toNat = b.toNat := by
  revert h
  fun_cases String.utf8EncodeChar c <;>
    simp only [List.mem_cons, List.not_mem_nil, or_false]
  case case1 =>
    rintro rfl
    rw [UInt8.toNat_ofNat']
    omega
  case case2 => rintro (rfl | rfl) <;> rw [UInt8.toNat_ofNat'] at hb <;> omega
  case case3 => rintro (rfl | rfl | rfl) <;> rw [UInt8.toNat_ofNat'] at hb <;> omega
  case case4 => rintro (rfl | rfl | rfl | rfl) <;> rw [UInt8.toNat_ofNat'] at hb <;> omega

-- No character takes more than four bytes.
theorem length_utf8_ofList_le (cs : List Char) :
    (utf8 (String.ofList cs)).length ≤ 4 * cs.length := by
  rw [utf8_ofList]
  induction cs with
  | nil => simp
  | cons c rest ih =>
      have hc := c.utf8Size_le_four
      simp only [List.flatMap_cons, List.length_append, List.length_cons,
        String.length_utf8EncodeChar]
      omega

-- Text of ASCII characters alone is one byte a character.
theorem utf8_of_ascii (s : String) (h : ∀ c ∈ s.toList, c.val ≤ 127) :
    utf8 s = s.toList.map fun c => c.val.toUInt8 := by
  rw [← String.ofList_toList (s := s), utf8_ofList, String.toList_ofList]
  generalize s.toList = cs at h
  induction cs with
  | nil => rfl
  | cons c rest ih =>
      have hc : c.utf8Size = 1 := Char.utf8Size_eq_one_iff.mpr (h c (by simp))
      rw [List.flatMap_cons, String.utf8EncodeChar_eq_singleton hc, List.map_cons,
        ih fun d hd => h d (by simp [hd])]
      rfl

theorem utf8ByteSize_of_ascii (s : String) (h : ∀ c ∈ s.toList, c.val ≤ 127) :
    s.utf8ByteSize = s.toList.length := by
  rw [← length_utf8, utf8_of_ascii s h, List.length_map]

-- The order of characters is that of their bytes, as long as each is one byte.
theorem utf8_lt_of_ascii {s t : String} (hs : ∀ c ∈ s.toList, c.val ≤ 127)
    (ht : ∀ c ∈ t.toList, c.val ≤ 127) (h : s < t) : utf8 s < utf8 t := by
  rw [utf8_of_ascii s hs, utf8_of_ascii t ht]
  have hlist : s.toList < t.toList := h
  generalize s.toList = cs at hs hlist
  generalize t.toList = ds at ht hlist
  induction cs generalizing ds with
  | nil =>
      cases ds with
      | nil => exact absurd hlist (List.lt_irrefl _)
      | cons d ds => exact List.nil_lt_cons _ _
  | cons c cs ih =>
      cases ds with
      | nil => exact absurd hlist (List.not_lt_nil _)
      | cons d ds =>
          rw [List.map_cons, List.map_cons, List.cons_lt_cons_iff]
          rcases List.cons_lt_cons_iff.mp hlist with hlt | ⟨rfl, hlt⟩
          · left
            have hc := hs c (by simp)
            have hd := ht d (by simp)
            have hcd : c.val < d.val := hlt
            rw [UInt8.lt_iff_toNat_lt]
            rw [UInt32.le_iff_toNat_le] at hc hd
            rw [UInt32.lt_iff_toNat_lt] at hcd
            simp only [UInt32.toNat_toUInt8]
            have h127 : (127 : UInt32).toNat = 127 := rfl
            omega
          · exact Or.inr ⟨rfl, ih (fun x hx => hs x (by simp [hx])) ds
              (fun x hx => ht x (by simp [hx])) hlt⟩

end Gallery.Text
