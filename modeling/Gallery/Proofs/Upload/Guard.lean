import Gallery.Proofs.Address
import Gallery.Proofs.Settings.Origins
import Gallery.Proofs.Upload.Codec
import Gallery.Proofs.Upload.Encoding
import Gallery.Proofs.Word
import Gallery.Settings.Validation

namespace Gallery.ImageCodec

section Bound

variable {maxImageBytes length : Nat}

-- The length lets a text pass the bound before decoding: it is no longer than four symbols for every
-- three bytes of the limit, a group more, and two bytes for every 76 of the text itself.
def UnderGuard (maxImageBytes length : Nat) : Prop :=
  length ≤ (maxImageBytes + 2) / 3 * 4 + 4 + length / 76 * 2

instance : Decidable (UnderGuard maxImageBytes length) := inferInstanceAs (Decidable (_ ≤ _))

-- The greatest limit of image bytes that leaves the bound below the numbers of a word.
def maxGuarded : Nat := 3 * (Word.limit / 4 - 2)

theorem fits_iff_le_maxGuarded (maxImageBytes : Nat) :
    (maxImageBytes + 2) / 3 * 4 + 4 < Word.limit ↔ maxImageBytes ≤ maxGuarded := by
  rw [maxGuarded, Word.limit_eq]
  omega

-- What decoding stops at where the limit is greater. With the next three it is the group that the
-- bound has in addition, and with all others its product.
def guardOverflow (maxImageBytes : Nat) : Word.Overflow :=
  if maxImageBytes ≤ maxGuarded + 3 then .sum else .product

theorem maxEncoded_of_fits (hlimit : (maxImageBytes + 2) / 3 * 4 + 4 < Word.limit) :
    maxEncoded maxImageBytes = .ok ((maxImageBytes + 2) / 3 * 4 + 4) := by
  have hproduct : (maxImageBytes + 2) / 3 * 4 < Word.limit := by omega
  rw [maxEncoded, Word.mul_of_lt hproduct]
  exact Word.add_of_lt hlimit

theorem maxEncoded_of_large (hlarge : maxGuarded < maxImageBytes) :
    maxEncoded maxImageBytes = .error (guardOverflow maxImageBytes) := by
  have hnext : maxImageBytes ≤ maxGuarded + 3 ↔ (maxImageBytes + 2) / 3 * 4 < Word.limit := by
    rw [maxGuarded, Word.limit_eq] at *
    omega
  have hsum : Word.limit ≤ (maxImageBytes + 2) / 3 * 4 + 4 :=
    Nat.le_of_not_lt fun hfits => Nat.not_lt.mpr ((fits_iff_le_maxGuarded _).mp hfits) hlarge
  rw [maxEncoded, guardOverflow]
  by_cases hproduct : (maxImageBytes + 2) / 3 * 4 < Word.limit
  · rw [if_pos (hnext.mpr hproduct), Word.mul_of_lt hproduct]
    exact Word.add_of_le hsum
  · rw [if_neg (mt hnext.mp hproduct), Word.mul_of_le (Nat.le_of_not_lt hproduct)]
    rfl

theorem overGuard_of_fits (hlimit : (maxImageBytes + 2) / 3 * 4 + 4 < Word.limit)
    (hlength : length < Word.limit) :
    overGuard maxImageBytes length = .ok (decide ¬UnderGuard maxImageBytes length) := by
  have hbreaks : length / 76 * 2 < Word.limit := by omega
  have hover : Word.saturate ((maxImageBytes + 2) / 3 * 4 + 4 + length / 76 * 2) < length ↔
      ¬UnderGuard maxImageBytes length := by
    rw [Word.saturate, UnderGuard]
    omega
  rw [overGuard, maxEncoded_of_fits hlimit, Word.mul_of_lt hbreaks]
  exact congrArg Except.ok (decide_eq_decide.mpr hover)

theorem overGuard_of_large (hlarge : maxGuarded < maxImageBytes) (length : Nat) :
    overGuard maxImageBytes length = .error (guardOverflow maxImageBytes) := by
  rw [overGuard, maxEncoded_of_large hlarge]
  rfl

-- The size that is told of a text is always one that a word can hold.
theorem encodedSize_of_lt (hlength : length < Word.limit) :
    encodedSize length = .ok (length / 4 * 3) := Word.mul_of_lt (by omega)

-- The bound lets every text pass whose content is within the limit.
theorem underGuard_of_le (h : length ≤ (maxImageBytes + 2) / 3 * 4 + 4) :
    UnderGuard maxImageBytes length := Nat.le_trans h (Nat.le_add_right _ _)

-- What is told of a text that is refused is more than the limit.
theorem lt_of_not_underGuard (h : ¬UnderGuard maxImageBytes length) :
    maxImageBytes < length / 4 * 3 := by
  rw [UnderGuard] at h
  omega

end Bound

variable (codec : ImageCodec) {text : String} {encoded : List Char} {bytes : ByteArray}

section Decoding

variable (hlimit : (codec.maxImageBytes + 2) / 3 * 4 + 4 < Word.limit)

include hlimit

-- What a text brings is decoded without its line breaks, or refused for its length.
theorem decodeBase64_of_ok (hpart : encodedPart text = .ok encoded) :
    codec.decodeBase64 text =
      if UnderGuard codec.maxImageBytes (textLength (String.ofList encoded)) then
        match Text.Base64.decode
          ((encoded.filter fun c => c != '\r' && c != '\n').flatMap String.utf8EncodeChar) with
        | .ok bytes => .ok ⟨bytes.toArray⟩
        | .error cause => .error (.invalidEncoding (.base64 cause))
      else
        .error (.tooLarge (textLength (String.ofList encoded) / 4 * 3) codec.maxImageBytes) := by
  have hlength : textLength (String.ofList encoded) < Word.limit := Word.saturate_lt _
  rw [decodeBase64, hpart]
  simp only [Except.mapError, bind, Except.bind, overGuard_of_fits hlimit hlength,
    encodedSize_of_lt hlength]
  by_cases hunder : UnderGuard codec.maxImageBytes (textLength (String.ofList encoded))
  · exact (if_neg fun hover => absurd hunder (of_decide_eq_true hover)).trans (if_pos hunder).symm
  · exact (if_pos (decide_eq_true hunder)).trans (if_neg hunder).symm

theorem decodeBase64_of_encodedPart (hpart : encodedPart text = .ok encoded)
    (hbase64 : (encoded.filter fun c => c != '\r' && c != '\n') =
      Text.Base64.encodedText bytes.data.toList) :
    codec.decodeBase64 text =
      if UnderGuard codec.maxImageBytes (textLength (String.ofList encoded)) then .ok bytes
      else
        .error (.tooLarge (textLength (String.ofList encoded) / 4 * 3) codec.maxImageBytes) := by
  rw [codec.decodeBase64_of_ok hlimit hpart, hbase64, Text.Base64.utf8_encodedText,
    Text.Base64.decode_encode]

-- So a text carries what it is decoded to, if it is not too long.
theorem decodeBase64_of_carries (h : Carries text bytes) :
    codec.decodeBase64 text =
      if UnderGuard codec.maxImageBytes (textLength (base64Text bytes)) then .ok bytes
      else .error (.tooLarge (textLength (base64Text bytes) / 4 * 3) codec.maxImageBytes) := by
  have hunbroken : (Text.Base64.encodedText bytes.data.toList).filter
      (fun c => c != '\r' && c != '\n') = Text.Base64.encodedText bytes.data.toList :=
    List.filter_eq_self.mpr (Text.Base64.forall_mem_encodedText (by decide) (by decide) _)
  exact codec.decodeBase64_of_encodedPart hlimit (encodedPart_of_carries h) hunbroken

theorem decodeBase64_of_carries_of_le (h : Carries text bytes)
    (hfits : bytes.size ≤ codec.maxImageBytes) : codec.decodeBase64 text = .ok bytes := by
  have hlength : textLength (base64Text bytes) ≤ (bytes.size + 2) / 3 * 4 :=
    utf8ByteSize_base64Text bytes ▸ Word.saturate_le _
  rw [codec.decodeBase64_of_carries hlimit h, if_pos (underGuard_of_le (by omega))]

end Decoding

-- Above the greatest limit that leaves room for the bound, decoding stops at every text.
theorem decodeBase64_of_large (hlarge : maxGuarded < codec.maxImageBytes)
    (hpart : encodedPart text = .ok encoded) :
    codec.decodeBase64 text = .error (.overflow (guardOverflow codec.maxImageBytes)) := by
  rw [decodeBase64, hpart]
  simp only [Except.mapError, bind, Except.bind, overGuard_of_large hlarge]

theorem decodeBase64_eq_overflow_iff (cause : Word.Overflow) :
    codec.decodeBase64 text = .error (.overflow cause) ↔
      (maxGuarded < codec.maxImageBytes ∧ cause = guardOverflow codec.maxImageBytes) ∧
        ∃ encoded, Brings (Text.trimChars text.toList) encoded := by
  simp only [← encodedPart_eq_ok_iff]
  cases hpart : encodedPart text with
  | error e =>
      rw [decodeBase64, hpart]
      exact iff_of_false nofun fun h => nomatch h.2
  | ok encoded =>
      simp only [Except.ok.injEq, exists_eq', and_true]
      by_cases hlarge : maxGuarded < codec.maxImageBytes
      · rw [codec.decodeBase64_of_large hlarge hpart, Except.error.injEq, CodecError.overflow.injEq]
        simp only [hlarge, true_and, eq_comm]
      · have hlimit := (fits_iff_le_maxGuarded _).mpr (Nat.le_of_not_lt hlarge)
        rw [codec.decodeBase64_of_ok hlimit hpart]
        refine iff_of_false (fun h => ?_) fun h => hlarge h.1
        split at h
        · split at h <;> cases h
        · cases h

-- Only where base64 text is to be decoded does decoding stop at an upload.
theorem decode_eq_overflow_iff (form : UploadForm) (cause : Word.Overflow) :
    codec.decode form = .error (.overflow cause) ↔
      (maxGuarded < codec.maxImageBytes ∧ cause = guardOverflow codec.maxImageBytes) ∧
        (∃ place, TakesFolder codec.defaultFolder form.folder place) ∧
        (∃ found, TakesName form.name found) ∧
        ∃ text encoded, form.payload = .base64 text ∧
          Brings (Text.trimChars text.toList) encoded := by
  obtain ⟨folder, name, payload⟩ := form
  constructor
  · intro h
    rcases (codec.decode_eq_error_iff _ _).mp h with hfolder | ⟨⟨place, hplace⟩, hname |
      ⟨⟨found, hfound⟩, hcontent | ⟨bytes, declaredType, _, himage⟩⟩⟩
    · obtain ⟨_, _, _, _, _, he⟩ := (codec.folder_eq_error_iff _ _).mp hfolder
      cases he
    · obtain ⟨_, _, _, _, _, he⟩ := (name_eq_error_iff _ _).mp hname
      cases he
    · cases payload with
      | multipart => cases hcontent
      | base64 text =>
          rw [content, Except.map_eq_error_iff, decodeBase64_eq_overflow_iff] at hcontent
          obtain ⟨hlarge, encoded, hbrings⟩ := hcontent
          exact ⟨hlarge, ⟨place, (codec.folder_eq_ok_iff _ _).mp hplace⟩,
            ⟨found, (name_eq_ok_iff _ _).mp hfound⟩, text, encoded, rfl, hbrings⟩
    · rcases (codec.image_eq_error_iff _ _ _).mp himage with ⟨_, he⟩ | ⟨_, he⟩ |
        ⟨_, _, ⟨_, he⟩ | ⟨_, _, _, he⟩⟩ <;> cases he
  · rintro ⟨hlarge, ⟨place, hplace⟩, ⟨found, hfound⟩, text, encoded, rfl, hbrings⟩
    refine codec.decode_of_content_error hplace hfound ?_
    rw [content, Except.map_eq_error_iff, decodeBase64_eq_overflow_iff]
    exact ⟨hlarge, encoded, hbrings⟩

-- The arithmetic of the bound before decoding, and the bound itself, are what they say for texts of
-- every length exactly if the limit is not above `maxGuarded`; the size that is told of a text
-- always fits. With every greater limit decoding stops at all uploads whose base64 text comes to be
-- decoded, and with no other limit and at no other upload does it stop.
theorem guard_exact_iff (codec : ImageCodec) :
    (codec.maxImageBytes ≤ maxGuarded ↔
      ∀ length < Word.limit, ∃ longer, overGuard codec.maxImageBytes length = .ok longer) ∧
    (codec.maxImageBytes ≤ maxGuarded ↔
      ∀ length < Word.limit, overGuard codec.maxImageBytes length =
        .ok (decide ((codec.maxImageBytes + 2) / 3 * 4 + 4 + length / 76 * 2 < length))) ∧
    (∀ length < Word.limit, encodedSize length = .ok (length / 4 * 3)) ∧
    ∀ form cause, codec.decode form = .error (.overflow cause) ↔
      (maxGuarded < codec.maxImageBytes ∧ cause = guardOverflow codec.maxImageBytes) ∧
        (∃ place, TakesFolder codec.defaultFolder form.folder place) ∧
        (∃ found, TakesName form.name found) ∧
        ∃ text encoded, form.payload = .base64 text ∧
          Brings (Text.trimChars text.toList) encoded := by
  have hexact (hsmall : codec.maxImageBytes ≤ maxGuarded) {length : Nat}
      (hlength : length < Word.limit) : overGuard codec.maxImageBytes length =
        .ok (decide ((codec.maxImageBytes + 2) / 3 * 4 + 4 + length / 76 * 2 < length)) := by
    rw [overGuard_of_fits ((fits_iff_le_maxGuarded _).mpr hsmall) hlength]
    exact congrArg Except.ok (decide_eq_decide.mpr Nat.not_le)
  -- above it the bound fails for the empty text already
  have hfails (longer : Bool) (h : overGuard codec.maxImageBytes 0 = .ok longer) :
      codec.maxImageBytes ≤ maxGuarded := by
    by_contra hlarge
    rw [overGuard_of_large (Nat.lt_of_not_le hlarge)] at h
    cases h
  have hzero : 0 < Word.limit := by decide
  refine ⟨⟨fun hsmall length hlength => ⟨_, hexact hsmall hlength⟩, fun h => ?_⟩,
    ⟨fun hsmall length hlength => hexact hsmall hlength, fun h => hfails _ (h 0 hzero)⟩,
    fun length hlength => encodedSize_of_lt hlength, codec.decode_eq_overflow_iff⟩
  obtain ⟨longer, hlonger⟩ := h 0 hzero
  exact hfails longer hlonger

-- A codec for small images, with a limit of its own.
def ofLimit (maxImageBytes : Nat) : ImageCodec :=
  ⟨ImageAddress.sample.folder, maxImageBytes, ["image/gif"]⟩

theorem guard_exact_for_ten_megabytes :
    (∀ length < Word.limit, overGuard 10485760 length =
        .ok (decide (13981020 + length / 76 * 2 < length))) ∧
      ∀ form cause, (ofLimit 10485760).decode form ≠ .error (.overflow cause) := by
  have hsmall : (ofLimit 10485760).maxImageBytes ≤ maxGuarded := by decide
  obtain ⟨_, hexact, _, hstops⟩ := guard_exact_iff (ofLimit 10485760)
  refine ⟨hexact.mp hsmall, fun form cause h => ?_⟩
  obtain ⟨⟨hlarge, _⟩, _⟩ := (hstops form cause).mp h
  exact Nat.not_lt.mpr hsmall hlarge

-- An environment that asks for a limit above it, and the settings that it gives.
def hugeLimitEnvironment : Environment :=
  ⟨[("JWT_SECRET", "a secret of more than 32 characters"),
    ("MASTER_API_KEY", "a master key of more than 32 characters"),
    ("PUBLIC_BASE_URL", "http://[::1]"), ("MAX_FILE_SIZE_MB", "13194139533312")]⟩

def hugeLimit : Settings :=
  { Settings.inProduction ["*"] with
    tokenSecret := "a secret of more than 32 characters"
    masterKey := "a master key of more than 32 characters"
    place := "development"
    publicBaseUrl := "http://[::1]"
    maxImageBytes := 13835058055282163712 }

-- With these settings decoding stops at an image of six bytes.
theorem stops_at_six_bytes_under_huge_limit :
    Settings.ofEnvironment hugeLimitEnvironment = .ok hugeLimit ∧ hugeLimit.validate = .ok () ∧
      hugeLimit.maxImageBytes < Word.limit ∧
      maxEncoded hugeLimit.maxImageBytes = .error .product ∧
      (ofLimit hugeLimit.maxImageBytes).decode ⟨none, none, .base64 "R0lGODlh"⟩ =
        .error (.overflow .product) := by
  have hread : (Settings.ofEnvironment hugeLimitEnvironment).toOption = some hugeLimit := by
    decide +kernel
  have hvalid : hugeLimit.validate.toOption = some () := by decide +kernel
  exact ⟨Except.eq_ok_of_toOption_eq_some hread, Except.eq_ok_of_toOption_eq_some hvalid,
    by decide, rfl, rfl⟩

end Gallery.ImageCodec
