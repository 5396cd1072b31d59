import Gallery.Proofs.Except
import Gallery.Proofs.Segment
import Gallery.Proofs.Text.Blank
import Gallery.Upload.Codec

namespace Gallery.ImageCodec

-- The folder that an upload goes to: the one that it gives, or the standard one if it gives none
-- or a blank one.
inductive TakesFolder (standard : Folder) : Option String → Folder → Prop where
  | missing : TakesFolder standard none standard
  | blank {raw : String} (h : ∀ c ∈ raw.toList, Text.isBlank c = true) :
      TakesFolder standard (some raw) standard
  | given (folder : Folder) : TakesFolder standard (some folder.text) folder

-- The name that an upload asks for, if it gives one that is not empty.
inductive TakesName : Option String → Option ImageName → Prop where
  | missing : TakesName none none
  | empty : TakesName (some "") none
  | given (name : ImageName) : TakesName (some name.text) (some name)

variable (codec : ImageCodec)

theorem folder_some (raw : String) :
    codec.folder (some raw) =
      if (Text.trim raw).isEmpty then .ok codec.defaultFolder
      else (Segment.parse .folder raw).mapError (.invalidFolder raw) := by
  unfold folder
  rw [Option.filter_some]
  cases (Text.trim raw).isEmpty <;> rfl

theorem folder_eq_ok_iff (raw : Option String) (folder : Folder) :
    codec.folder raw = .ok folder ↔ TakesFolder codec.defaultFolder raw folder := by
  constructor
  · intro h
    cases raw with
    | none =>
        cases h
        exact .missing
    | some raw =>
        rw [folder_some] at h
        split at h
        · rename_i hblank
          cases h
          exact .blank ((Text.isEmpty_trim_iff raw).mp hblank)
        · rw [Except.mapError_eq_ok_iff, Segment.parse_eq_ok_iff] at h
          subst h
          exact .given folder
  · intro h
    cases h with
    | missing => rfl
    | blank hblank => rw [folder_some, if_pos ((Text.isEmpty_trim_iff _).mpr hblank)]
    | given =>
        rw [folder_some, if_neg (mt (Text.isEmpty_trim_iff _).mp folder.not_blank),
          Segment.parse_text]
        rfl

theorem folder_eq_error_iff (raw : Option String) (e : CodecError) :
    codec.folder raw = .error e ↔
      (∀ folder, ¬TakesFolder codec.defaultFolder raw folder) ∧
        ∃ text reason, raw = some text ∧ Segment.fault? text = some reason ∧
          e = .invalidFolder text reason := by
  constructor
  · intro h
    refine ⟨fun folder htakes => ?_, ?_⟩
    · rw [(codec.folder_eq_ok_iff raw folder).mpr htakes] at h
      cases h
    · cases raw with
      | none => cases h
      | some raw =>
          rw [folder_some] at h
          split at h
          · cases h
          · obtain ⟨reason, hparse, rfl⟩ := Except.mapError_eq_error_iff.mp h
            exact ⟨raw, reason, rfl, Segment.parse_eq_error_iff.mp hparse, rfl⟩
  · rintro ⟨hnone, text, reason, rfl, hfault, rfl⟩
    rw [folder_some, if_neg, Segment.parse_eq_error_iff.mpr hfault]
    · rfl
    · intro hblank
      exact hnone _ (.blank ((Text.isEmpty_trim_iff text).mp hblank))

theorem name_some (raw : String) :
    name (some raw) =
      if raw.isEmpty then .ok none
      else ((Segment.parse .name raw).mapError (.invalidName raw)).map some := by
  unfold name
  rw [Option.filter_some]
  cases raw.isEmpty <;> rfl

theorem name_eq_ok_iff (raw : Option String) (found : Option ImageName) :
    name raw = .ok found ↔ TakesName raw found := by
  constructor
  · intro h
    cases raw with
    | none =>
        cases h
        exact .missing
    | some raw =>
        rw [name_some] at h
        split at h
        · rename_i hempty
          cases h
          rw [String.isEmpty_iff.mp hempty]
          exact .empty
        · obtain ⟨name, hparse, rfl⟩ := Except.map_eq_ok_iff.mp h
          rw [Except.mapError_eq_ok_iff, Segment.parse_eq_ok_iff] at hparse
          subst hparse
          exact .given name
  · intro h
    cases h with
    | missing => rfl
    | empty => rfl
    | given name =>
        rw [name_some, if_neg, Segment.parse_text]
        · rfl
        · rw [String.isEmpty_iff]
          exact name.text_ne_empty

theorem name_eq_error_iff (raw : Option String) (e : CodecError) :
    name raw = .error e ↔
      (∀ found, ¬TakesName raw found) ∧
        ∃ text reason, raw = some text ∧ Segment.fault? text = some reason ∧
          e = .invalidName text reason := by
  constructor
  · intro h
    refine ⟨fun found htakes => ?_, ?_⟩
    · rw [(name_eq_ok_iff raw found).mpr htakes] at h
      cases h
    · cases raw with
      | none => cases h
      | some raw =>
          rw [name_some] at h
          split at h
          · cases h
          · obtain ⟨reason, hparse, rfl⟩ :=
              Except.mapError_eq_error_iff.mp (Except.map_eq_error_iff.mp h)
            exact ⟨raw, reason, rfl, Segment.parse_eq_error_iff.mp hparse, rfl⟩
  · rintro ⟨hnone, text, reason, rfl, hfault, rfl⟩
    rw [name_some, if_neg, Segment.parse_eq_error_iff.mpr hfault]
    · rfl
    · intro hempty
      rw [String.isEmpty_iff.mp hempty] at hnone
      exact hnone _ .empty

-- The checks of an image, all at once.
theorem image_eq_ok_iff (bytes : ByteArray) (declaredType : Option String) (found : DecodedImage) :
    codec.image bytes declaredType = .ok found ↔
      bytes.size ≠ 0 ∧ bytes.size ≤ codec.maxImageBytes ∧
        (∃ sniffed, sniff bytes = some sniffed ∧ found = ⟨bytes, sniffed⟩) ∧
        found.sniffed.contentType ∈ codec.allowedTypes := by
  have hempty : bytes.isEmpty = true ↔ bytes.size = 0 := beq_iff_eq
  unfold image
  by_cases hfilled : bytes.size = 0
  · simp [hempty, hfilled]
  rw [if_neg (mt hempty.mp hfilled)]
  by_cases hlong : codec.maxImageBytes < bytes.size
  · simp [hlong, Nat.not_le.mpr hlong]
  rw [if_neg hlong]
  cases hsniff : sniff bytes with
  | none => simp
  | some sniffed =>
      by_cases hallowed : sniffed.contentType ∈ codec.allowedTypes
      · simp only [List.contains_iff_mem.mpr hallowed, if_true, Except.ok.injEq]
        constructor
        · rintro rfl
          exact ⟨hfilled, Nat.le_of_not_lt hlong, ⟨sniffed, rfl, rfl⟩, hallowed⟩
        · rintro ⟨_, _, ⟨other, hother, rfl⟩, _⟩
          rw [Option.some.inj hother]
      · simp only [List.contains_iff_mem, hallowed, if_false, reduceCtorEq, false_iff]
        rintro ⟨_, _, ⟨other, hother, rfl⟩, hmem⟩
        rw [← Option.some.inj hother] at hmem
        exact hallowed hmem

-- Why an image is refused, all at once.
theorem image_eq_error_iff (bytes : ByteArray) (declaredType : Option String) (e : CodecError) :
    codec.image bytes declaredType = .error e ↔
      bytes.size = 0 ∧ e = .emptyImage ∨
      codec.maxImageBytes < bytes.size ∧ e = .tooLarge bytes.size codec.maxImageBytes ∨
      bytes.size ≠ 0 ∧ bytes.size ≤ codec.maxImageBytes ∧
        (sniff bytes = none ∧
            e = .unsupportedMediaType (declaredType.getD "unknown") codec.allowedTypes ∨
          ∃ sniffed, sniff bytes = some sniffed ∧ sniffed.contentType ∉ codec.allowedTypes ∧
            e = .unsupportedMediaType sniffed.contentType codec.allowedTypes) := by
  have hempty : bytes.isEmpty = true ↔ bytes.size = 0 := beq_iff_eq
  unfold image
  by_cases hfilled : bytes.size = 0
  · simp [hempty, hfilled, eq_comm]
  rw [if_neg (mt hempty.mp hfilled)]
  by_cases hlong : codec.maxImageBytes < bytes.size
  · simp [hfilled, hlong, Nat.not_le.mpr hlong, eq_comm]
  rw [if_neg hlong]
  have hshort : bytes.size ≤ codec.maxImageBytes := Nat.le_of_not_lt hlong
  cases hsniff : sniff bytes with
  | none => simp [hfilled, hlong, hshort, eq_comm]
  | some sniffed =>
      by_cases hallowed : sniffed.contentType ∈ codec.allowedTypes
      · simp [hfilled, hlong, hallowed]
      · simp [hfilled, hlong, hshort, hallowed, eq_comm]

theorem image_of_large {bytes : ByteArray} (declaredType : Option String)
    (h : codec.maxImageBytes < bytes.size) :
    codec.image bytes declaredType = .error (.tooLarge bytes.size codec.maxImageBytes) :=
  (codec.image_eq_error_iff bytes declaredType _).mpr (Or.inr (Or.inl ⟨h, rfl⟩))

theorem image_ne_tooLarge {bytes : ByteArray} (hfits : bytes.size ≤ codec.maxImageBytes)
    (declaredType : Option String) (size limit : Nat) :
    codec.image bytes declaredType ≠ .error (.tooLarge size limit) := by
  rw [ne_eq, image_eq_error_iff]
  rintro (⟨_, he⟩ | ⟨hlarge, _⟩ | ⟨_, _, ⟨_, he⟩ | ⟨_, _, _, he⟩⟩)
  · cases he
  · omega
  · cases he
  · cases he

-- An upload is decoded if each of its parts is, and the first part that is not decides.
theorem decode_eq_ok_iff (form : UploadForm) (decoded : DecodedUpload) :
    codec.decode form = .ok decoded ↔
      codec.folder form.folder = .ok decoded.folder ∧ name form.name = .ok decoded.name ∧
        ∃ bytes declaredType, codec.content form.payload = .ok (bytes, declaredType) ∧
          codec.image bytes declaredType = .ok decoded.image := by
  unfold decode
  simp only [Except.bind_eq_ok_iff, Prod.exists]
  constructor
  · rintro ⟨folder, hfolder, name, hname, bytes, declaredType, hcontent, image, himage, h⟩
    cases h
    exact ⟨hfolder, hname, bytes, declaredType, hcontent, himage⟩
  · rintro ⟨hfolder, hname, bytes, declaredType, hcontent, himage⟩
    exact ⟨_, hfolder, _, hname, bytes, declaredType, hcontent, _, himage, rfl⟩

theorem decode_eq_error_iff (form : UploadForm) (e : CodecError) :
    codec.decode form = .error e ↔
      codec.folder form.folder = .error e ∨
      (∃ folder, codec.folder form.folder = .ok folder) ∧
        (name form.name = .error e ∨
        (∃ found, name form.name = .ok found) ∧
          (codec.content form.payload = .error e ∨
          ∃ bytes declaredType, codec.content form.payload = .ok (bytes, declaredType) ∧
            codec.image bytes declaredType = .error e)) := by
  unfold decode
  simp only [Except.bind_eq_error_iff, Prod.exists]
  constructor
  · rintro (hfolder | ⟨folder, hfolder, hname | ⟨found, hname, hcontent |
      ⟨bytes, declaredType, hcontent, himage | ⟨_, _, h⟩⟩⟩⟩)
    · exact Or.inl hfolder
    · exact Or.inr ⟨⟨folder, hfolder⟩, Or.inl hname⟩
    · exact Or.inr ⟨⟨folder, hfolder⟩, Or.inr ⟨⟨found, hname⟩, Or.inl hcontent⟩⟩
    · exact Or.inr ⟨⟨folder, hfolder⟩, Or.inr ⟨⟨found, hname⟩,
        Or.inr ⟨bytes, declaredType, hcontent, himage⟩⟩⟩
    · cases h
  · rintro (hfolder | ⟨⟨folder, hfolder⟩, hname | ⟨⟨found, hname⟩, hcontent |
      ⟨bytes, declaredType, hcontent, himage⟩⟩⟩)
    · exact Or.inl hfolder
    · exact Or.inr ⟨folder, hfolder, Or.inl hname⟩
    · exact Or.inr ⟨folder, hfolder, Or.inr ⟨found, hname, Or.inl hcontent⟩⟩
    · exact Or.inr ⟨folder, hfolder, Or.inr ⟨found, hname,
        Or.inr ⟨bytes, declaredType, hcontent, Or.inl himage⟩⟩⟩

-- Where folder and name are the same, nothing but the content tells two uploads apart.
theorem decode_congr {payload payload' : UploadPayload}
    (h : codec.content payload = codec.content payload') (folder name : Option String) :
    codec.decode ⟨folder, name, payload⟩ = codec.decode ⟨folder, name, payload'⟩ := by
  unfold decode
  simp only [h]

-- Nor does their content, if the folder or the name is not accepted.
theorem decode_of_misplaced {folder name : Option String}
    (h : (∀ place, ¬TakesFolder codec.defaultFolder folder place) ∨ ∀ found, ¬TakesName name found)
    (payload payload' : UploadPayload) :
    codec.decode ⟨folder, name, payload⟩ = codec.decode ⟨folder, name, payload'⟩ := by
  unfold decode
  cases hfolder : codec.folder folder with
  | error e => rfl
  | ok place =>
      cases hname : ImageCodec.name name with
      | error e => rfl
      | ok found =>
          rcases h with hnone | hnone
          · exact absurd ((codec.folder_eq_ok_iff folder place).mp hfolder) (hnone place)
          · exact absurd ((name_eq_ok_iff name found).mp hname) (hnone found)

-- Otherwise content that is refused decides.
theorem decode_of_content_error {folder name : Option String} {place : Folder}
    {found : Option ImageName} {payload : UploadPayload} {e : CodecError}
    (hfolder : TakesFolder codec.defaultFolder folder place) (hname : TakesName name found)
    (hcontent : codec.content payload = .error e) :
    codec.decode ⟨folder, name, payload⟩ = .error e := by
  rw [decode_eq_error_iff]
  exact Or.inr ⟨⟨place, (codec.folder_eq_ok_iff folder place).mpr hfolder⟩,
    Or.inr ⟨⟨found, (name_eq_ok_iff name found).mpr hname⟩, Or.inl hcontent⟩⟩

-- An upload is refused as too large for its content alone.
theorem tooLarge_of_decode {form : UploadForm} {size limit : Nat}
    (h : codec.decode form = .error (.tooLarge size limit)) :
    codec.content form.payload = .error (.tooLarge size limit) ∨
      ∃ bytes declaredType, codec.content form.payload = .ok (bytes, declaredType) ∧
        codec.maxImageBytes < bytes.size ∧ size = bytes.size ∧ limit = codec.maxImageBytes := by
  rcases (codec.decode_eq_error_iff form _).mp h with hfolder | ⟨_, hname | ⟨_, hcontent |
    ⟨bytes, declaredType, hcontent, himage⟩⟩⟩
  · obtain ⟨_, _, _, _, _, he⟩ := (codec.folder_eq_error_iff _ _).mp hfolder
    cases he
  · obtain ⟨_, _, _, _, _, he⟩ := (name_eq_error_iff _ _).mp hname
    cases he
  · exact Or.inl hcontent
  · right
    rcases (codec.image_eq_error_iff bytes declaredType _).mp himage with ⟨_, he⟩ | ⟨hlarge, he⟩ |
      ⟨_, _, ⟨_, he⟩ | ⟨_, _, _, he⟩⟩
    · cases he
    · cases he
      exact ⟨bytes, declaredType, hcontent, hlarge, rfl, rfl⟩
    · cases he
    · cases he

theorem decode_ne_tooLarge {form : UploadForm} {bytes : ByteArray} {declaredType : Option String}
    (hcontent : codec.content form.payload = .ok (bytes, declaredType))
    (hfits : bytes.size ≤ codec.maxImageBytes) (size limit : Nat) :
    codec.decode form ≠ .error (.tooLarge size limit) := by
  intro h
  rcases codec.tooLarge_of_decode h with herror | ⟨_, _, hother, hlarge, _⟩
  · rw [hcontent] at herror
    cases herror
  · rw [hcontent] at hother
    cases hother
    exact Nat.not_lt.mpr hfits hlarge

-- A decoded upload has an image that has passed the checks.
theorem exists_image_of_decode {form : UploadForm} {decoded : DecodedUpload}
    (h : codec.decode form = .ok decoded) :
    ∃ bytes declaredType, codec.image bytes declaredType = .ok decoded.image := by
  obtain ⟨_, _, bytes, declaredType, _, himage⟩ := (codec.decode_eq_ok_iff form decoded).mp h
  exact ⟨bytes, declaredType, himage⟩

end Gallery.ImageCodec
