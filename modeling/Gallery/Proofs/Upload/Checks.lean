import Gallery.Proofs.Upload.Folding

namespace Gallery

-- The type that was declared for a payload. None is declared for base64 text.
def UploadPayload.declaredType : UploadPayload → Option String
  | .multipart _ declaredType => declaredType
  | .base64 _ => none

namespace ImageCodec

-- The bytes that a payload stands for: the bytes of a part, or those whose base64 form is what a
-- text brings, with line breaks put into it anywhere.
inductive StandsFor : UploadPayload → ByteArray → Prop where
  | multipart (bytes : ByteArray) (declaredType : Option String) :
      StandsFor (.multipart bytes declaredType) bytes
  | base64 {text : String} {encoded : List Char} {bytes : ByteArray}
      (hbrings : Brings (Text.trimChars text.toList) encoded)
      (hfolded : Folded encoded (base64Text bytes).toList) : StandsFor (.base64 text) bytes

-- They are held by it if they are not brought by a text that is too long to be decoded.
inductive Holds (maxImageBytes : Nat) : UploadPayload → ByteArray → Prop where
  | multipart (bytes : ByteArray) (declaredType : Option String) :
      Holds maxImageBytes (.multipart bytes declaredType) bytes
  | base64 {text : String} {encoded : List Char} {bytes : ByteArray}
      (hbrings : Brings (Text.trimChars text.toList) encoded)
      (hunder : UnderGuard maxImageBytes (textLength (String.ofList encoded)))
      (hfolded : Folded encoded (base64Text bytes).toList) :
      Holds maxImageBytes (.base64 text) bytes

-- Why nothing can be taken out of a payload: the text is a `data:` address without base64 content,
-- it is too long to be decoded, or it is not the base64 form of any bytes.
inductive Unreadable (maxImageBytes : Nat) : UploadPayload → CodecError → Prop where
  | address {text : String} (hnone : ∀ encoded, ¬Brings (Text.trimChars text.toList) encoded) :
      Unreadable maxImageBytes (.base64 text) (.invalidEncoding .notBase64Address)
  | long {text : String} {encoded : List Char}
      (hbrings : Brings (Text.trimChars text.toList) encoded)
      (hover : ¬UnderGuard maxImageBytes (textLength (String.ofList encoded))) :
      Unreadable maxImageBytes (.base64 text)
        (.tooLarge (textLength (String.ofList encoded) / 4 * 3) maxImageBytes)
  | symbols {text : String} {encoded : List Char} {cause : Text.Base64.DecodeError}
      (hbrings : Brings (Text.trimChars text.toList) encoded)
      (hunder : UnderGuard maxImageBytes (textLength (String.ofList encoded)))
      (hcause : Text.Base64.decode (Text.utf8 (String.ofList (withoutBreaks encoded))) =
        .error cause) :
      Unreadable maxImageBytes (.base64 text) (.invalidEncoding (.base64 cause))

theorem Holds.standsFor {maxImageBytes : Nat} {payload : UploadPayload} {bytes : ByteArray}
    (h : Holds maxImageBytes payload bytes) : StandsFor payload bytes := by
  cases h with
  | multipart => exact .multipart _ _
  | base64 hbrings _ hfolded => exact .base64 hbrings hfolded

theorem decode_withoutBreaks_eq_ok_iff (encoded : List Char) (bytes : ByteArray) :
    Text.Base64.decode (Text.utf8 (String.ofList (withoutBreaks encoded))) =
        .ok bytes.data.toList ↔
      Folded encoded (base64Text bytes).toList := by
  have hfolded := folded_base64Text_iff (String.ofList encoded) bytes
  rw [String.toList_ofList] at hfolded
  rw [hfolded, Text.utf8_ofList, Text.Base64.decode_utf8_eq_ok_iff, base64Text,
    String.toList_ofList]

-- Text without line breaks stands for the bytes that it carries.
theorem Carries.standsFor {text : String} {bytes : ByteArray} (h : Carries text bytes) :
    StandsFor (.base64 text) bytes := by
  refine .base64 ((encodedPart_eq_ok_iff _ _).mp (encodedPart_of_carries h)) ?_
  rw [base64Text, String.toList_ofList, folded_iff (withoutBreaks_encodedText _)]
  exact withoutBreaks_encodedText _

-- No payload stands for two things at once.
theorem StandsFor.unique {payload : UploadPayload} {bytes other : ByteArray}
    (h : StandsFor payload bytes) (hother : StandsFor payload other) : other = bytes := by
  cases h with
  | multipart =>
      cases hother
      rfl
  | base64 hbrings hfolded =>
      cases hother with
      | base64 hbrings' hfolded' =>
          have hencoded := (encodedPart_eq_ok_iff _ _).mpr hbrings
          rw [(encodedPart_eq_ok_iff _ _).mpr hbrings', Except.ok.injEq] at hencoded
          subst hencoded
          have hbytes := (decode_withoutBreaks_eq_ok_iff _ _).mpr hfolded
          rw [(decode_withoutBreaks_eq_ok_iff _ _).mpr hfolded', Except.ok.injEq,
            Array.toList_inj] at hbytes
          exact ByteArray.ext hbytes

theorem Holds.exists_iff {maxImageBytes : Nat} {payload : UploadPayload} {bytes : ByteArray}
    (h : Holds maxImageBytes payload bytes) (P : ByteArray → Prop) :
    (∃ other, Holds maxImageBytes payload other ∧ P other) ↔ P bytes := by
  constructor
  · rintro ⟨other, hother, hP⟩
    exact h.standsFor.unique hother.standsFor ▸ hP
  · intro hP
    exact ⟨bytes, h, hP⟩

section Content

variable (codec : ImageCodec)

theorem decodeBase64_of_not_brings {text : String}
    (hnone : ∀ encoded, ¬Brings (Text.trimChars text.toList) encoded) :
    codec.decodeBase64 text = .error (.invalidEncoding .notBase64Address) := by
  rw [decodeBase64, (encodedPart_eq_error_iff text _).mpr ⟨hnone, rfl⟩]
  rfl

variable (hlimit : (codec.maxImageBytes + 2) / 3 * 4 + 4 < Word.limit)

include hlimit

theorem decodeBase64_of_brings {text : String} {encoded : List Char}
    (hbrings : Brings (Text.trimChars text.toList) encoded) :
    codec.decodeBase64 text =
      if UnderGuard codec.maxImageBytes (textLength (String.ofList encoded)) then
        match Text.Base64.decode (Text.utf8 (String.ofList (withoutBreaks encoded))) with
        | .ok bytes => .ok ⟨bytes.toArray⟩
        | .error cause => .error (.invalidEncoding (.base64 cause))
      else
        .error (.tooLarge (textLength (String.ofList encoded) / 4 * 3) codec.maxImageBytes) := by
  rw [codec.decodeBase64_of_ok hlimit ((encodedPart_eq_ok_iff text encoded).mpr hbrings),
    Text.utf8_ofList]
  rfl

-- A text is decoded to the bytes that it holds, or refused for why it holds none.
theorem decodeBase64_cases (text : String) :
    (∃ bytes, Holds codec.maxImageBytes (.base64 text) bytes ∧
        codec.decodeBase64 text = .ok bytes) ∨
      ∃ e, Unreadable codec.maxImageBytes (.base64 text) e ∧
        codec.decodeBase64 text = .error e := by
  by_cases hbrings : ∃ encoded, Brings (Text.trimChars text.toList) encoded
  · obtain ⟨encoded, hbrings⟩ := hbrings
    rw [codec.decodeBase64_of_brings hlimit hbrings]
    by_cases hunder : UnderGuard codec.maxImageBytes (textLength (String.ofList encoded))
    · rw [if_pos hunder]
      cases hcause : Text.Base64.decode (Text.utf8 (String.ofList (withoutBreaks encoded))) with
      | ok bytes =>
          left
          have hfolded := (decode_withoutBreaks_eq_ok_iff encoded ⟨bytes.toArray⟩).mp hcause
          exact ⟨_, .base64 hbrings hunder hfolded, rfl⟩
      | error cause => exact Or.inr ⟨_, .symbols hbrings hunder hcause, rfl⟩
    · rw [if_neg hunder]
      exact Or.inr ⟨_, .long hbrings hunder, rfl⟩
  · right
    rw [not_exists] at hbrings
    exact ⟨_, .address hbrings, codec.decodeBase64_of_not_brings hbrings⟩

theorem decodeBase64_of_holds {text : String} {bytes : ByteArray}
    (h : Holds codec.maxImageBytes (.base64 text) bytes) : codec.decodeBase64 text = .ok bytes := by
  cases h with
  | base64 hbrings hunder hfolded =>
      rw [codec.decodeBase64_of_brings hlimit hbrings, if_pos hunder,
        (decode_withoutBreaks_eq_ok_iff _ bytes).mpr hfolded]

theorem decodeBase64_of_unreadable {text : String} {e : CodecError}
    (h : Unreadable codec.maxImageBytes (.base64 text) e) :
    codec.decodeBase64 text = .error e := by
  cases h with
  | address hnone => exact codec.decodeBase64_of_not_brings hnone
  | long hbrings hover =>
      rw [codec.decodeBase64_of_brings hlimit hbrings, if_neg hover]
  | symbols hbrings hunder hcause =>
      rw [codec.decodeBase64_of_brings hlimit hbrings, if_pos hunder, hcause]

-- What is taken out of a payload is what it holds, with the type that was declared for it.
theorem content_eq_ok_iff (payload : UploadPayload) (bytes : ByteArray)
    (declaredType : Option String) :
    codec.content payload = .ok (bytes, declaredType) ↔
      Holds codec.maxImageBytes payload bytes ∧ declaredType = payload.declaredType := by
  cases payload with
  | multipart given declared =>
      constructor
      · intro h
        cases h
        exact ⟨.multipart _ _, rfl⟩
      · rintro ⟨_ | _, rfl⟩
        rfl
  | base64 text =>
      rw [content, Except.map_eq_ok_iff]
      constructor
      · rintro ⟨found, hdecode, h⟩
        cases h
        refine ⟨?_, rfl⟩
        rcases codec.decodeBase64_cases hlimit text with ⟨held, hholds, hok⟩ | ⟨e, _, herror⟩
        · rw [hdecode, Except.ok.injEq] at hok
          rwa [hok]
        · rw [hdecode] at herror
          cases herror
      · rintro ⟨hholds, rfl⟩
        exact ⟨bytes, codec.decodeBase64_of_holds hlimit hholds, rfl⟩

theorem content_eq_error_iff (payload : UploadPayload) (e : CodecError) :
    codec.content payload = .error e ↔ Unreadable codec.maxImageBytes payload e := by
  cases payload with
  | multipart given declared => exact iff_of_false nofun nofun
  | base64 text =>
      rw [content, Except.map_eq_error_iff]
      constructor
      · intro hdecode
        rcases codec.decodeBase64_cases hlimit text with ⟨held, _, hok⟩ | ⟨why, hwhy, herror⟩
        · rw [hdecode] at hok
          cases hok
        · rw [hdecode, Except.error.injEq] at herror
          rwa [herror]
      · exact codec.decodeBase64_of_unreadable hlimit

-- What a payload stands for is taken out of it, unless it is too long to be decoded.
theorem content_of_standsFor {payload : UploadPayload} {bytes : ByteArray}
    (h : StandsFor payload bytes) :
    codec.content payload = .ok (bytes, payload.declaredType) ∨
      ∃ size, codec.content payload = .error (.tooLarge size codec.maxImageBytes) := by
  cases h with
  | multipart => exact Or.inl rfl
  | @base64 text encoded _ hbrings hfolded =>
      by_cases hunder : UnderGuard codec.maxImageBytes (textLength (String.ofList encoded))
      · have hholds := Holds.base64 hbrings hunder hfolded
        exact Or.inl ((codec.content_eq_ok_iff hlimit _ _ _).mpr ⟨hholds, rfl⟩)
      · have hwhy := Unreadable.long hbrings hunder
        exact Or.inr ⟨_, (codec.content_eq_error_iff hlimit _ _).mpr hwhy⟩

-- So an image that is larger than the limit is refused for that, wherever it is found to be.
theorem decode_of_large {payload : UploadPayload} {bytes : ByteArray} {folder name : Option String}
    {place : Folder} {found : Option ImageName} (h : StandsFor payload bytes)
    (hlarge : codec.maxImageBytes < bytes.size)
    (hplace : TakesFolder codec.defaultFolder folder place) (hfound : TakesName name found) :
    ∃ size, codec.decode ⟨folder, name, payload⟩ =
      .error (.tooLarge size codec.maxImageBytes) := by
  rcases codec.content_of_standsFor hlimit h with hcontent | ⟨size, hcontent⟩
  · refine ⟨bytes.size, (codec.decode_eq_error_iff _ _).mpr ?_⟩
    exact Or.inr ⟨⟨place, (codec.folder_eq_ok_iff folder place).mpr hplace⟩,
      Or.inr ⟨⟨found, (name_eq_ok_iff name found).mpr hfound⟩,
        Or.inr ⟨bytes, _, hcontent, codec.image_of_large _ hlarge⟩⟩⟩
  · exact ⟨size, codec.decode_of_content_error hplace hfound hcontent⟩

theorem size_le_of_decode {form : UploadForm} {decoded : DecodedUpload} {bytes : ByteArray}
    (hdecode : codec.decode form = .ok decoded) (h : StandsFor form.payload bytes) :
    bytes.size ≤ codec.maxImageBytes := by
  obtain ⟨_, _, other, declaredType, hcontent, himage⟩ :=
    (codec.decode_eq_ok_iff form decoded).mp hdecode
  obtain ⟨hholds, _⟩ := (codec.content_eq_ok_iff hlimit _ _ _).mp hcontent
  obtain rfl := hholds.standsFor.unique h
  exact ((codec.image_eq_ok_iff _ _ _).mp himage).2.1

end Content

end ImageCodec

-- What is asked of uploads, as it is configured.
structure UploadRules where
  standardFolder : Folder
  maxImageBytes : Nat
  contentTypes : List String

-- The checks of an upload, in the order in which they are made.
inductive Check where
  | folder | name | encoding | emptiness | size | contentType
deriving DecidableEq

namespace Check

def inOrder : List Check := [.folder, .name, .encoding, .emptiness, .size, .contentType]

def before (check : Check) : List Check := inOrder.takeWhile (· ≠ check)

end Check

namespace UploadRules

open ImageCodec

variable (rules : UploadRules) (form : UploadForm)

def codec : ImageCodec := .new rules.standardFolder rules.maxImageBytes rules.contentTypes

-- The content types without blanks around them and in lower case.
def allowedTypes : List String := rules.contentTypes.map fun type => Text.lower (Text.trim type)

def Passes : Check → Prop
  | .folder => ∃ folder, TakesFolder rules.standardFolder form.folder folder
  | .name => ∃ name, TakesName form.name name
  | .encoding => ∃ bytes, Holds rules.maxImageBytes form.payload bytes
  | .emptiness => ∃ bytes, Holds rules.maxImageBytes form.payload bytes ∧ bytes.size ≠ 0
  | .size =>
    ∃ bytes, Holds rules.maxImageBytes form.payload bytes ∧ bytes.size ≤ rules.maxImageBytes
  | .contentType =>
    ∃ bytes, Holds rules.maxImageBytes form.payload bytes ∧
      ∃ sniffed, sniff bytes = some sniffed ∧ sniffed.contentType ∈ rules.allowedTypes

-- The upload comes as far as the check.
def Reaches (check : Check) : Prop := ∀ earlier ∈ check.before, rules.Passes form earlier

structure FailsFirst (check : Check) : Prop where
  reaches : rules.Reaches form check
  fails : ¬rules.Passes form check

-- What is told of an upload that fails a check.
inductive Reports : Check → CodecError → Prop where
  | folder {raw : String} {reason : SegmentError} (hraw : form.folder = some raw)
      (hfault : Segment.fault? raw = some reason) : Reports .folder (.invalidFolder raw reason)
  | name {raw : String} {reason : SegmentError} (hraw : form.name = some raw)
      (hfault : Segment.fault? raw = some reason) : Reports .name (.invalidName raw reason)
  | encoding {e : CodecError} (hwhy : Unreadable rules.maxImageBytes form.payload e) :
      Reports .encoding e
  | emptiness : Reports .emptiness .emptyImage
  | size {bytes : ByteArray} (hholds : Holds rules.maxImageBytes form.payload bytes) :
      Reports .size (.tooLarge bytes.size rules.maxImageBytes)
  | noImage {bytes : ByteArray} (hholds : Holds rules.maxImageBytes form.payload bytes)
      (hsniff : sniff bytes = none) :
      Reports .contentType
        (.unsupportedMediaType (form.payload.declaredType.getD "unknown") rules.allowedTypes)
  | otherType {bytes : ByteArray} {sniffed : SniffedImage}
      (hholds : Holds rules.maxImageBytes form.payload bytes)
      (hsniff : sniff bytes = some sniffed) :
      Reports .contentType (.unsupportedMediaType sniffed.contentType rules.allowedTypes)

-- The upload that is decoded is the one that the form asks for, and its image is as it must be.
structure Accepts (decoded : DecodedUpload) : Prop where
  folder : TakesFolder rules.standardFolder form.folder decoded.folder
  name : TakesName form.name decoded.name
  holds : Holds rules.maxImageBytes form.payload decoded.image.bytes
  filled : decoded.image.bytes.size ≠ 0
  short : decoded.image.bytes.size ≤ rules.maxImageBytes
  sniffed : sniff decoded.image.bytes = some decoded.image.sniffed
  allowed : decoded.image.sniffed.contentType ∈ rules.allowedTypes

-- Two verdicts are the same but for the content type that is told of what is no image.
inductive SameVerdict :
    Except CodecError DecodedUpload → Except CodecError DecodedUpload → Prop where
  | same (verdict : Except CodecError DecodedUpload) : SameVerdict verdict verdict
  | noImage (contentType contentType' : String) :
      SameVerdict (.error (.unsupportedMediaType contentType rules.allowedTypes))
        (.error (.unsupportedMediaType contentType' rules.allowedTypes))

variable {rules form}

theorem reaches_folder : rules.Reaches form .folder := List.forall_mem_nil _

theorem Reaches.next {check next : Check} (h : rules.Reaches form check)
    (hpasses : rules.Passes form check) (hnext : next.before = check.before ++ [check]) :
    rules.Reaches form next := by
  rw [Reaches, hnext, List.forall_mem_append, List.forall_mem_singleton]
  exact ⟨h, hpasses⟩

theorem reaches_name (hfolder : rules.Passes form .folder) : rules.Reaches form .name :=
  reaches_folder.next hfolder rfl

theorem reaches_encoding (hfolder : rules.Passes form .folder) (hname : rules.Passes form .name) :
    rules.Reaches form .encoding :=
  (reaches_name hfolder).next hname rfl

variable (form)

theorem passes_folder_iff :
    rules.Passes form .folder ↔ ∃ folder, rules.codec.folder form.folder = .ok folder :=
  exists_congr fun folder => (rules.codec.folder_eq_ok_iff form.folder folder).symm

theorem passes_name_iff : rules.Passes form .name ↔ ∃ found, name form.name = .ok found :=
  exists_congr fun found => (name_eq_ok_iff form.name found).symm

-- The type that is declared for content is at most told of, if the content is no image.
theorem decode_multipart (folder name : Option String) (bytes : ByteArray)
    (declaredType declaredType' : Option String) :
    rules.SameVerdict
      (rules.codec.decode ⟨folder, name, .multipart bytes declaredType⟩)
      (rules.codec.decode ⟨folder, name, .multipart bytes declaredType'⟩) := by
  unfold ImageCodec.decode
  simp only [content, bind, Except.bind]
  cases rules.codec.folder folder with
  | error e => exact .same _
  | ok place =>
      cases ImageCodec.name name with
      | error e => exact .same _
      | ok found =>
          unfold image
          cases bytes.isEmpty with
          | true => exact .same _
          | false =>
              by_cases hlarge : rules.codec.maxImageBytes < bytes.size
              · simp only [hlarge, if_true]
                exact .same _
              · simp only [hlarge]
                cases sniff bytes with
                | none => exact .noImage _ _
                | some sniffed => exact .same _

theorem exists_accepts_iff :
    (∃ decoded, rules.Accepts form decoded) ↔ ∀ check, rules.Passes form check := by
  constructor
  · rintro ⟨decoded, h⟩ check
    cases check with
    | folder => exact ⟨_, h.folder⟩
    | name => exact ⟨_, h.name⟩
    | encoding => exact ⟨_, h.holds⟩
    | emptiness => exact ⟨_, h.holds, h.filled⟩
    | size => exact ⟨_, h.holds, h.short⟩
    | contentType => exact ⟨_, h.holds, _, h.sniffed, h.allowed⟩
  · intro h
    obtain ⟨folder, hfolder⟩ := h .folder
    obtain ⟨name, hname⟩ := h .name
    obtain ⟨bytes, hholds⟩ := h .encoding
    have hone := hholds.exists_iff
    obtain ⟨sniffed, hsniff, hallowed⟩ := (hone _).mp (h .contentType)
    exact ⟨⟨folder, name, bytes, sniffed⟩, hfolder, hname, hholds, (hone _).mp (h .emptiness),
      (hone _).mp (h .size), hsniff, hallowed⟩

variable {form}

-- An image is refused by the first check that its bytes fail.
theorem image_eq_error_iff {bytes : ByteArray}
    (hholds : Holds rules.maxImageBytes form.payload bytes)
    (hreaches : rules.Reaches form .emptiness) (e : CodecError) :
    rules.codec.image bytes form.payload.declaredType = .error e ↔
      ∃ check ∈ [.emptiness, .size, .contentType],
        rules.FailsFirst form check ∧ rules.Reports form check e := by
  have hone (P : ByteArray → Prop) := hholds.exists_iff P
  rw [ImageCodec.image_eq_error_iff]
  constructor
  · rintro (⟨hempty, rfl⟩ | ⟨hlarge, rfl⟩ | ⟨hfilled, hshort, hother⟩)
    · have hfails : ¬rules.Passes form .emptiness := fun h => (hone _).mp h hempty
      exact ⟨.emptiness, by decide, ⟨hreaches, hfails⟩, .emptiness⟩
    · have hfilled : rules.Passes form .emptiness := ⟨bytes, hholds, by omega⟩
      have hfails : ¬rules.Passes form .size := fun h => Nat.not_le.mpr hlarge ((hone _).mp h)
      exact ⟨.size, by decide, ⟨hreaches.next hfilled rfl, hfails⟩, .size hholds⟩
    · have hfilled : rules.Passes form .emptiness := ⟨bytes, hholds, hfilled⟩
      have hshort : rules.Passes form .size := ⟨bytes, hholds, hshort⟩
      have hreaches : rules.Reaches form .size := hreaches.next hfilled rfl
      have hreaches : rules.Reaches form .contentType := hreaches.next hshort rfl
      rcases hother with ⟨hnone, rfl⟩ | ⟨sniffed, hsniff, hallowed, rfl⟩
      · refine ⟨.contentType, by decide, ⟨hreaches, fun h => ?_⟩, .noImage hholds hnone⟩
        obtain ⟨sniffed, hsniff, _⟩ := (hone _).mp h
        rw [hnone] at hsniff
        cases hsniff
      · refine ⟨.contentType, by decide, ⟨hreaches, fun h => ?_⟩, .otherType hholds hsniff⟩
        obtain ⟨found, hfound, hmem⟩ := (hone _).mp h
        rw [hsniff, Option.some.injEq] at hfound
        exact hallowed (hfound ▸ hmem)
  · rintro ⟨check, hcheck, hfirst, hreports⟩
    cases hreports with
    | folder | name | encoding => exact absurd hcheck (by decide)
    | emptiness =>
        left
        refine ⟨?_, rfl⟩
        by_contra hfilled
        exact hfirst.fails ⟨bytes, hholds, hfilled⟩
    | size hother =>
        obtain rfl := hholds.standsFor.unique hother.standsFor
        refine Or.inr (Or.inl ⟨?_, rfl⟩)
        by_contra hshort
        exact hfirst.fails ⟨_, hholds, Nat.le_of_not_lt hshort⟩
    | noImage hother hsniff =>
        obtain rfl := hholds.standsFor.unique hother.standsFor
        have hfilled := (hone _).mp (hfirst.reaches .emptiness (by decide))
        have hshort := (hone _).mp (hfirst.reaches .size (by decide))
        exact Or.inr (Or.inr ⟨hfilled, hshort, Or.inl ⟨hsniff, rfl⟩⟩)
    | otherType hother hsniff =>
        obtain rfl := hholds.standsFor.unique hother.standsFor
        have hfilled := (hone _).mp (hfirst.reaches .emptiness (by decide))
        have hshort := (hone _).mp (hfirst.reaches .size (by decide))
        refine Or.inr (Or.inr ⟨hfilled, hshort, Or.inr ⟨_, hsniff, fun hallowed => ?_, rfl⟩⟩)
        exact hfirst.fails ⟨_, hholds, _, hsniff, hallowed⟩

variable (form)

section Limited

variable (hlimit : (rules.maxImageBytes + 2) / 3 * 4 + 4 < Word.limit)

include hlimit

theorem decode_eq_ok_iff (decoded : DecodedUpload) :
    rules.codec.decode form = .ok decoded ↔ rules.Accepts form decoded := by
  rw [ImageCodec.decode_eq_ok_iff, ImageCodec.folder_eq_ok_iff, ImageCodec.name_eq_ok_iff]
  constructor
  · rintro ⟨hfolder, hname, bytes, declaredType, hcontent, himage⟩
    obtain ⟨hholds, _⟩ := (rules.codec.content_eq_ok_iff hlimit _ _ _).mp hcontent
    obtain ⟨hfilled, hshort, ⟨sniffed, hsniff, hfound⟩, hallowed⟩ :=
      (rules.codec.image_eq_ok_iff _ _ _).mp himage
    have hbytes : decoded.image.bytes = bytes := by rw [hfound]
    have hsniffed : decoded.image.sniffed = sniffed := by rw [hfound]
    subst hbytes hsniffed
    exact ⟨hfolder, hname, hholds, hfilled, hshort, hsniff, hallowed⟩
  · intro h
    refine ⟨h.folder, h.name, decoded.image.bytes, form.payload.declaredType,
      (rules.codec.content_eq_ok_iff hlimit _ _ _).mpr ⟨h.holds, rfl⟩, ?_⟩
    exact (rules.codec.image_eq_ok_iff _ _ _).mpr
      ⟨h.filled, h.short, ⟨decoded.image.sniffed, h.sniffed, rfl⟩, h.allowed⟩

-- What is told of an upload that is refused is told of the first check that it fails.
theorem decode_eq_error_iff (e : CodecError) :
    rules.codec.decode form = .error e ↔
      ∃ check, rules.FailsFirst form check ∧ rules.Reports form check e := by
  rw [ImageCodec.decode_eq_error_iff, ← passes_folder_iff, ← passes_name_iff]
  constructor
  · rintro (hfolder | ⟨hfolder, hname | ⟨hname, hcontent |
      ⟨bytes, declaredType, hcontent, himage⟩⟩⟩)
    · obtain ⟨hnone, raw, reason, hraw, hfault, rfl⟩ :=
        (rules.codec.folder_eq_error_iff _ _).mp hfolder
      exact ⟨.folder, ⟨reaches_folder, not_exists.mpr hnone⟩, .folder hraw hfault⟩
    · obtain ⟨hnone, raw, reason, hraw, hfault, rfl⟩ := (name_eq_error_iff _ _).mp hname
      exact ⟨.name, ⟨reaches_name hfolder, not_exists.mpr hnone⟩, .name hraw hfault⟩
    · have hwhy := (rules.codec.content_eq_error_iff hlimit _ _).mp hcontent
      refine ⟨.encoding, ⟨reaches_encoding hfolder hname, ?_⟩, .encoding hwhy⟩
      rintro ⟨bytes, hholds⟩
      rw [(rules.codec.content_eq_ok_iff hlimit _ _ _).mpr ⟨hholds, rfl⟩] at hcontent
      cases hcontent
    · obtain ⟨hholds, rfl⟩ := (rules.codec.content_eq_ok_iff hlimit _ _ _).mp hcontent
      have hread : rules.Passes form .encoding := ⟨bytes, hholds⟩
      have hreaches : rules.Reaches form .emptiness :=
        (reaches_encoding hfolder hname).next hread rfl
      obtain ⟨check, _, hfails⟩ := (image_eq_error_iff hholds hreaches e).mp himage
      exact ⟨check, hfails⟩
  · rintro ⟨check, hfirst, hreports⟩
    cases check with
    | folder =>
        obtain ⟨hraw, hfault⟩ := hreports
        exact Or.inl ((rules.codec.folder_eq_error_iff _ _).mpr
          ⟨not_exists.mp hfirst.fails, _, _, hraw, hfault, rfl⟩)
    | name =>
        obtain ⟨⟩ | ⟨hraw, hfault⟩ := hreports
        have hfolder := hfirst.reaches .folder (by decide)
        exact Or.inr ⟨hfolder, Or.inl ((name_eq_error_iff _ _).mpr
          ⟨not_exists.mp hfirst.fails, _, _, hraw, hfault, rfl⟩)⟩
    | encoding =>
        cases hreports with
        | encoding hwhy =>
            have hfolder := hfirst.reaches .folder (by decide)
            have hname := hfirst.reaches .name (by decide)
            have hcontent := (rules.codec.content_eq_error_iff hlimit _ _).mpr hwhy
            exact Or.inr ⟨hfolder, Or.inr ⟨hname, Or.inl hcontent⟩⟩
    | emptiness | size | contentType =>
        have hfolder := hfirst.reaches .folder (by decide)
        have hname := hfirst.reaches .name (by decide)
        obtain ⟨bytes, hholds⟩ := hfirst.reaches .encoding (by decide)
        have hcontent := (rules.codec.content_eq_ok_iff hlimit _ _ _).mpr ⟨hholds, rfl⟩
        have hread : rules.Passes form .encoding := ⟨bytes, hholds⟩
        have hreaches : rules.Reaches form .emptiness :=
          (reaches_encoding hfolder hname).next hread rfl
        have himage := (image_eq_error_iff hholds hreaches e).mpr ⟨_, by decide, hfirst, hreports⟩
        exact Or.inr ⟨hfolder, Or.inr ⟨hname, Or.inr ⟨bytes, _, hcontent, himage⟩⟩⟩

-- Whatever is refused as too large is told to be larger than the limit.
theorem lt_of_decode_tooLarge {size limit : Nat}
    (h : rules.codec.decode form = .error (.tooLarge size limit)) :
    limit = rules.maxImageBytes ∧ limit < size := by
  rcases rules.codec.tooLarge_of_decode h with hcontent | ⟨bytes, _, _, hlarge, rfl, rfl⟩
  · have hwhy := (rules.codec.content_eq_error_iff hlimit _ _).mp hcontent
    generalize form.payload = payload at hwhy
    cases hwhy with
    | long _ hover => exact ⟨rfl, lt_of_not_underGuard hover⟩
  · exact ⟨rfl, hlarge⟩

end Limited

-- Uploads are decoded by the rules. An upload is accepted, and as the one that it asks for, if it
-- passes all checks; otherwise the first that it fails is told of. The type that is declared for
-- the image makes no difference to either, and whatever is refused as too large is told to be
-- larger than the limit.
theorem decode_by_rules (rules : UploadRules)
    (hlimit : (rules.maxImageBytes + 2) / 3 * 4 + 4 < Word.limit) (form : UploadForm) :
    (∀ decoded, rules.codec.decode form = .ok decoded ↔ rules.Accepts form decoded) ∧
    ((∃ decoded, rules.codec.decode form = .ok decoded) ↔ ∀ check, rules.Passes form check) ∧
    (∀ e, rules.codec.decode form = .error e ↔
      ∃ check, rules.FailsFirst form check ∧ rules.Reports form check e) ∧
    (∀ bytes declaredType declaredType', form.payload = .multipart bytes declaredType →
      rules.SameVerdict (rules.codec.decode form)
        (rules.codec.decode { form with payload := .multipart bytes declaredType' })) ∧
    (∀ size limit, rules.codec.decode form = .error (.tooLarge size limit) →
      limit = rules.maxImageBytes ∧ limit < size) := by
  refine ⟨decode_eq_ok_iff form hlimit, ?_, decode_eq_error_iff form hlimit, ?_, ?_⟩
  · rw [← exists_accepts_iff form]
    exact exists_congr fun decoded => decode_eq_ok_iff form hlimit decoded
  · intro bytes declaredType declaredType' hpayload
    obtain ⟨folder, name, payload⟩ := form
    subst hpayload
    exact decode_multipart folder name bytes declaredType declaredType'
  · intro size limit h
    exact lt_of_decode_tooLarge form hlimit h

-- A folded text with a blank folder is accepted. What has neither a name nor content that is
-- accepted is told of its name, and what declares a type that its bytes do not have is accepted.
theorem decode_by_rules_of_small_gif :
    let rules : UploadRules := ⟨ImageAddress.sample.folder, 1000, [" Image/GIF"]⟩
    let bytes : ByteArray := ⟨#[71, 73, 70, 56, 57, 97]⟩
    let decoded : DecodedUpload := ⟨ImageAddress.sample.folder, none, bytes, .gif, none⟩
    let folded : UploadForm := ⟨some " ", some "", .base64 "R0lG\r\nODlh"⟩
    let hidden : UploadForm := ⟨none, some ".a", .multipart .empty none⟩
    let part : UploadForm := ⟨none, none, .multipart bytes (some "image/gif")⟩
    (rules.maxImageBytes + 2) / 3 * 4 + 4 < Word.limit ∧
      rules.codec.decode folded = .ok decoded ∧
      (∃ check, rules.FailsFirst hidden check ∧
        rules.Reports hidden check (.invalidName ".a" .hidden)) ∧
      rules.codec.decode part = .ok decoded ∧
      rules.SameVerdict (rules.codec.decode part)
        (rules.codec.decode ⟨none, none, .multipart bytes (some "text/plain")⟩) := by
  intro rules bytes decoded folded hidden part
  have hlimit : (rules.maxImageBytes + 2) / 3 * 4 + 4 < Word.limit := by decide
  have htrim : Text.trimChars "R0lG\r\nODlh".toList = "R0lG\r\nODlh".toList := by decide +kernel
  have hbrings : Brings (Text.trimChars "R0lG\r\nODlh".toList) "R0lG\r\nODlh".toList := by
    rw [htrim]
    exact .plain (by decide)
  have hfolded : Folded "R0lG\r\nODlh".toList (base64Text bytes).toList :=
    (folded_base64Text_iff _ bytes).mpr (by decide +kernel)
  have hholds : Holds rules.maxImageBytes folded.payload bytes :=
    .base64 hbrings (by decide +kernel) hfolded
  have hallowed : decoded.image.sniffed.contentType ∈ rules.allowedTypes := by decide +kernel
  have hblank : ∀ c ∈ " ".toList, Text.isBlank c = true :=
    (Text.isEmpty_trim_iff " ").mp (by decide +kernel)
  have hdecode := (rules.decode_by_rules hlimit folded).1 decoded
  have hpart := (rules.decode_by_rules hlimit part).1 decoded
  have hhidden : rules.codec.decode hidden = .error (.invalidName ".a" .hidden) := rfl
  refine ⟨hlimit, hdecode.mpr ?_, ((rules.decode_by_rules hlimit hidden).2.2.1 _).mp hhidden,
    hpart.mpr ?_, (rules.decode_by_rules hlimit part).2.2.2.1 bytes _ (some "text/plain") rfl⟩
  · exact ⟨.blank hblank, .empty, hholds, by decide, by decide, rfl, hallowed⟩
  · exact ⟨.missing, .missing, .multipart _ _, by decide, by decide, rfl, hallowed⟩

end UploadRules

end Gallery
