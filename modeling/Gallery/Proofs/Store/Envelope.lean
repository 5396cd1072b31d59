import Gallery.Proofs.Text
import Gallery.Store.Envelope

namespace Gallery.Envelope

-- The bytes before the content type: the mark and the length of the content type.
def fixedPart (length : Nat) : List UInt8 :=
  magic ++ [(length / 256).toUInt8, (length % 256).toUInt8]

theorem length_fixedPart (length : Nat) : (fixedPart length).length = fixedSize := rfl

-- What a content type and some content look like as a file, as long as the content type is short
-- enough to be counted.
def fileOf (contentType : String) (content : ByteArray) : ByteArray :=
  ⟨(fixedPart contentType.utf8ByteSize).toArray⟩ ++ contentType.toUTF8 ++ content

theorem encode_eq_some_iff (contentType : String) (content file : ByteArray) :
    encode contentType content = some file ↔
      contentType.utf8ByteSize ≤ maxContentType ∧ file = fileOf contentType content := by
  unfold encode
  simp only
  split
  · rename_i hlong
    constructor
    · intro h
      cases h
    · rintro ⟨hshort, _⟩
      omega
  · rename_i hshort
    rw [Option.some.injEq]
    constructor
    · rintro rfl
      exact ⟨Nat.le_of_not_lt hshort, rfl⟩
    · rintro ⟨_, rfl⟩
      rfl

theorem encode_of_le {contentType : String} (h : contentType.utf8ByteSize ≤ maxContentType)
    (content : ByteArray) : encode contentType content = some (fileOf contentType content) :=
  (encode_eq_some_iff _ _ _).mpr ⟨h, rfl⟩

theorem encode_eq_none_iff (contentType : String) (content : ByteArray) :
    encode contentType content = none ↔ maxContentType < contentType.utf8ByteSize := by
  rw [← Nat.not_le]
  constructor
  · intro h hshort
    rw [encode_of_le hshort] at h
    cases h
  · intro hlong
    rw [Option.eq_none_iff_forall_not_mem]
    intro file hfile
    exact hlong ((encode_eq_some_iff _ _ _).mp hfile).1

theorem toList_fileOf (contentType : String) (content : ByteArray) :
    (fileOf contentType content).data.toList =
      fixedPart contentType.utf8ByteSize ++ (Text.utf8 contentType ++ content.data.toList) := by
  simp [fileOf, Text.utf8, ByteArray.data_append]

theorem getElem?_eq_toList (file : ByteArray) (i : Nat) : file[i]? = file.data.toList[i]? := by
  by_cases hi : i < file.size
  · have hlist : i < file.data.toList.length := hi
    rw [getElem?_pos file i hi, getElem?_pos file.data.toList i hlist]
    rfl
  · have hlist : ¬i < file.data.toList.length := hi
    rw [getElem?_neg file i hi, getElem?_neg file.data.toList i hlist]

-- Any two bytes are the length that is read from them.
theorem fixedPart_bytes (high low : UInt8) :
    fixedPart (256 * high.toNat + low.toNat) = magic ++ [high, low] := by
  have hlow : low.toNat < 256 := low.toNat_lt
  have hdiv : (256 * high.toNat + low.toNat) / 256 = high.toNat := by omega
  have hmod : (256 * high.toNat + low.toNat) % 256 = low.toNat := by omega
  simp only [fixedPart, hdiv, hmod, Nat.toUInt8, UInt8.ofNat_toNat]

-- A length is read from exactly those files that begin with the mark and this length.
theorem contentTypeLength_eq_ok_iff (file : ByteArray) (length : Nat) :
    contentTypeLength file = .ok length ↔
      length ≤ maxContentType ∧ fixedPart length <+: file.data.toList := by
  have hsize : file.data.toList.length = file.size := rfl
  have hmark : (file.extract 0 magic.length).data.toList = file.data.toList.take 6 := by
    simp [magic]
  unfold contentTypeLength
  rw [hmark, getElem?_eq_toList, getElem?_eq_toList]
  constructor
  · intro h
    split at h
    · cases h
    · rename_i hhead
      rw [Bool.or_eq_true, decide_eq_true_eq, decide_eq_true_eq, not_or, ne_eq, not_not] at hhead
      obtain ⟨hlong, hmagic⟩ := hhead
      have hsix : 6 < file.data.toList.length := by simp only [fixedSize] at hlong; omega
      have hseven : 7 < file.data.toList.length := by simp only [fixedSize] at hlong; omega
      rw [getElem?_pos _ 6 hsix, getElem?_pos _ 7 hseven, Option.getD_some, Option.getD_some,
        Except.ok.injEq] at h
      have hhigh := file.data.toList[6].toNat_lt
      have hlow := file.data.toList[7].toNat_lt
      refine ⟨by simp only [maxContentType]; omega, file.data.toList.drop 8, ?_⟩
      rw [← h, fixedPart_bytes, ← hmagic]
      conv_rhs => rw [← List.take_append_drop 6 file.data.toList, List.drop_eq_getElem_cons hsix,
        List.drop_eq_getElem_cons hseven]
      simp
  · rintro ⟨hlength, rest, hfile⟩
    have hlong : file.size = fixedSize + rest.length := by
      rw [← hsize, ← hfile, List.length_append, length_fixedPart]
    have hmagic : file.data.toList.take 6 = magic := by
      rw [← hfile]
      rfl
    have hhigh : file.data.toList[6]? = some (length / 256).toUInt8 := by
      rw [← hfile]
      rfl
    have hlow : file.data.toList[7]? = some (length % 256).toUInt8 := by
      rw [← hfile]
      rfl
    have hbytes : 256 * (length / 256).toUInt8.toNat + (length % 256).toUInt8.toNat = length := by
      simp only [maxContentType] at hlength
      simp only [Nat.toUInt8, UInt8.toNat_ofNat']
      omega
    have hshort : ¬file.size < fixedSize := by omega
    rw [hmagic, hhigh, hlow, Option.getD_some, Option.getD_some, hbytes]
    simp [hshort]

theorem contentTypeLength_error {file : ByteArray} {fault : Fault}
    (h : contentTypeLength file = .error fault) : fault = .noHeader := by
  unfold contentTypeLength at h
  split at h
  · cases h
    rfl
  · cases h

-- What is read from a file that goes on after the mark and a length with bytes of this length.
theorem decode_of_parts {file : ByteArray} {bytes rest : List UInt8}
    (hlength : bytes.length ≤ maxContentType)
    (hfile : file.data.toList = fixedPart bytes.length ++ (bytes ++ rest)) :
    decode file = match Text.ofUtf8? ⟨bytes.toArray⟩ with
      | none => .error .notUtf8
      | some contentType => .ok (contentType, ⟨rest.toArray⟩) := by
  have hdata : file.data = (fixedPart bytes.length ++ (bytes ++ rest)).toArray := by
    rw [← hfile, Array.toArray_toList]
  have hsize : file.size = fixedSize + bytes.length + rest.length := by
    rw [← ByteArray.size_data, hdata, List.size_toArray, List.length_append, List.length_append,
      length_fixedPart, Nat.add_assoc]
  have hhead : contentTypeLength file = .ok bytes.length :=
    (contentTypeLength_eq_ok_iff _ _).mpr ⟨hlength, _, hfile.symm⟩
  have htype : file.extract fixedSize (fixedSize + bytes.length) = ⟨bytes.toArray⟩ := by
    refine ByteArray.ext ?_
    rw [ByteArray.data_extract, hdata]
    simp [← length_fixedPart bytes.length]
  have hcontent : file.extract (fixedSize + bytes.length) file.size = ⟨rest.toArray⟩ := by
    refine ByteArray.ext ?_
    rw [ByteArray.data_extract, hdata, hsize]
    simp [← length_fixedPart bytes.length, Nat.add_assoc, Nat.add_sub_add_left]
  have hlong : ¬file.size < fixedSize + bytes.length := by omega
  have hread : decode file =
      if file.size < fixedSize + bytes.length then .error .truncatedHeader
      else match Text.ofUtf8? (file.extract fixedSize (fixedSize + bytes.length)) with
        | none => .error .notUtf8
        | some contentType =>
          .ok (contentType, file.extract (fixedSize + bytes.length) file.size) := by
    rw [decode, hhead]
    rfl
  rw [hread, if_neg hlong, htype, hcontent]

-- What is read back from a file is what it was made of.
theorem decode_fileOf (contentType : String) (content : ByteArray)
    (h : contentType.utf8ByteSize ≤ maxContentType) :
    decode (fileOf contentType content) = .ok (contentType, content) := by
  have hparts := toList_fileOf contentType content
  rw [← Text.length_utf8] at h hparts
  have htype : Text.ofUtf8? ⟨(Text.utf8 contentType).toArray⟩ = some contentType :=
    (Text.ofUtf8?_mk_eq_some_iff _ _).mpr rfl
  rw [decode_of_parts h hparts, htype]

-- Why a file is not what some content type and content are written as: it does not begin with the
-- mark and a length, it ends before the content type does, or the content type is no text.
inductive Broken (file : ByteArray) : Fault → Prop where
  | noHeader (h : ∀ length ≤ maxContentType, ¬fixedPart length <+: file.data.toList) :
      Broken file .noHeader
  | truncatedHeader (length : Nat) (hlength : length ≤ maxContentType)
      (hhead : fixedPart length <+: file.data.toList) (h : file.size < fixedSize + length) :
      Broken file .truncatedHeader
  | notUtf8 (bytes rest : List UInt8) (hlength : bytes.length ≤ maxContentType)
      (hfile : file.data.toList = fixedPart bytes.length ++ (bytes ++ rest))
      (h : ∀ text, bytes ≠ Text.utf8 text) : Broken file .notUtf8

-- Each of these is what reading the file reports.
theorem decode_of_broken {file : ByteArray} {fault : Fault} (h : Broken file fault) :
    decode file = .error fault := by
  cases h with
  | noHeader hnone =>
      rw [decode]
      cases hhead : contentTypeLength file with
      | error fault =>
          rw [contentTypeLength_error hhead]
          rfl
      | ok length =>
          obtain ⟨hlength, hprefix⟩ := (contentTypeLength_eq_ok_iff _ _).mp hhead
          exact absurd hprefix (hnone length hlength)
  | truncatedHeader length hlength hprefix hshort =>
      rw [decode, (contentTypeLength_eq_ok_iff _ _).mpr ⟨hlength, hprefix⟩]
      simp only [bind, Except.bind, if_pos hshort]
  | notUtf8 bytes rest hlength hfile hnone =>
      rw [decode_of_parts hlength hfile]
      cases htext : Text.ofUtf8? ⟨bytes.toArray⟩ with
      | none => rfl
      | some text => exact absurd ((Text.ofUtf8?_mk_eq_some_iff _ _).mp htext) (hnone text)

-- A file is what some content type and content are written as, or it is broken in one of these
-- ways.
theorem fileOf_or_broken (file : ByteArray) :
    (∃ contentType content, contentType.utf8ByteSize ≤ maxContentType ∧
        file = fileOf contentType content) ∨ ∃ fault, Broken file fault := by
  cases hhead : contentTypeLength file with
  | error fault =>
      refine Or.inr ⟨.noHeader, .noHeader fun length hlength hprefix => ?_⟩
      rw [(contentTypeLength_eq_ok_iff _ _).mpr ⟨hlength, hprefix⟩] at hhead
      cases hhead
  | ok length =>
      obtain ⟨hlength, hprefix⟩ := (contentTypeLength_eq_ok_iff _ _).mp hhead
      by_cases hshort : file.size < fixedSize + length
      · exact Or.inr ⟨.truncatedHeader, .truncatedHeader length hlength hprefix hshort⟩
      · obtain ⟨after, hafter⟩ := hprefix
        have hsize : fixedSize + after.length = file.size := by
          have hbytes := congrArg List.length hafter
          rwa [List.length_append, length_fixedPart] at hbytes
        have htake : (after.take length).length = length := by
          rw [List.length_take]
          omega
        have hparts : file.data.toList = fixedPart (after.take length).length ++
            (after.take length ++ after.drop length) := by
          rw [htake, List.take_append_drop, hafter]
        by_cases htext : ∃ text, after.take length = Text.utf8 text
        · obtain ⟨contentType, hbytes⟩ := htext
          have hcount : contentType.utf8ByteSize = length := by
            rw [← Text.length_utf8, ← hbytes, htake]
          refine Or.inl ⟨contentType, ⟨(after.drop length).toArray⟩, by rwa [hcount], ?_⟩
          refine ByteArray.ext (Array.toList_inj.mp ?_)
          rw [toList_fileOf, hcount, ← hbytes, hparts, htake]
        · exact Or.inr ⟨.notUtf8, .notUtf8 _ _ (by rwa [htake]) hparts (not_exists.mp htext)⟩

-- What is read from a file is what would be written as this file.
theorem decode_eq_ok_iff (file : ByteArray) (contentType : String) (content : ByteArray) :
    decode file = .ok (contentType, content) ↔ encode contentType content = some file := by
  rw [encode_eq_some_iff]
  constructor
  · intro h
    rcases fileOf_or_broken file with ⟨found, held, hshort, rfl⟩ | ⟨fault, hbroken⟩
    · rw [decode_fileOf found held hshort] at h
      cases h
      exact ⟨hshort, rfl⟩
    · rw [decode_of_broken hbroken] at h
      cases h
  · rintro ⟨hshort, rfl⟩
    exact decode_fileOf contentType content hshort

-- The two readers go by the same lengths, so they accept the same files and tell the same of them.
theorem readHeader_eq_ok_iff (file : ByteArray) (contentType : String) (size : Nat) :
    readHeader file = .ok (contentType, size) ↔
      ∃ content, decode file = .ok (contentType, content) ∧ content.size = size := by
  unfold readHeader decode
  cases hlength : contentTypeLength file with
  | error fault =>
      constructor
      · intro h
        split at h <;> cases h
      · rintro ⟨content, hdecode, _⟩
        cases hdecode
  | ok length =>
      have hfixed : ¬file.size < fixedSize := by
        intro hshort
        simp [contentTypeLength, hshort] at hlength
      simp only [if_neg hfixed, bind, Except.bind]
      by_cases hshort : file.size < fixedSize + length
      · simp [hshort]
      · simp only [if_neg hshort]
        cases Text.ofUtf8? (file.extract fixedSize (fixedSize + length)) with
        | none => simp
        | some found =>
            simp only [Except.ok.injEq, Prod.mk.injEq]
            constructor
            · rintro ⟨rfl, rfl⟩
              exact ⟨_, ⟨rfl, rfl⟩, by rw [ByteArray.size_extract, Nat.min_self]⟩
            · rintro ⟨_, ⟨rfl, rfl⟩, rfl⟩
              exact ⟨rfl, by rw [ByteArray.size_extract, Nat.min_self]⟩

-- Reading the header alone tells the same content type, and the size of the content.
theorem readHeader_fileOf (contentType : String) (content : ByteArray)
    (h : contentType.utf8ByteSize ≤ maxContentType) :
    readHeader (fileOf contentType content) = .ok (contentType, content.size) :=
  (readHeader_eq_ok_iff _ _ _).mpr ⟨content, decode_fileOf contentType content h, rfl⟩

end Gallery.Envelope
