import Gallery.Proofs.Service.Links
import Gallery.Proofs.Upload.Codec
import Gallery.Proofs.Upload.Guard

namespace Gallery

namespace ImageCodec

variable (codec : ImageCodec)

-- Two uploads are decoded alike: both to the same, both refused for the same reason, or both
-- refused as too large. The size that is told then may differ, since one may not have been decoded
-- at all.
inductive Alike : Except CodecError DecodedUpload → Except CodecError DecodedUpload → Prop where
  | same (result : Except CodecError DecodedUpload) : Alike result result
  | tooLarge (size size' : Nat) :
      Alike (.error (.tooLarge size codec.maxImageBytes))
        (.error (.tooLarge size' codec.maxImageBytes))

variable {codec}

theorem Alike.eq_of_ok {found : DecodedUpload} {result : Except CodecError DecodedUpload}
    (h : codec.Alike (.ok found) result) : result = .ok found := by
  cases h
  rfl

-- What text carries is taken out of it, or is too large in any case.
theorem content_of_carries (hlimit : (codec.maxImageBytes + 2) / 3 * 4 + 4 < Word.limit)
    {text : String} {bytes : ByteArray} (h : Carries text bytes) :
    codec.content (.base64 text) = .ok (bytes, none) ∨
      codec.maxImageBytes < bytes.size ∧
        ∃ size, codec.content (.base64 text) = .error (.tooLarge size codec.maxImageBytes) := by
  by_cases hfits : bytes.size ≤ codec.maxImageBytes
  · left
    rw [content, codec.decodeBase64_of_carries_of_le hlimit h hfits]
    rfl
  · rw [content, codec.decodeBase64_of_carries hlimit h]
    split
    · exact Or.inl rfl
    · exact Or.inr ⟨Nat.lt_of_not_le hfits, _, rfl⟩

-- The folder and the name are looked at before the content, and the image after it.
theorem decode_alike (hlimit : (codec.maxImageBytes + 2) / 3 * 4 + 4 < Word.limit)
    {text : String} {bytes : ByteArray} (h : Carries text bytes) (folder name : Option String) :
    codec.Alike (codec.decode ⟨folder, name, .base64 text⟩)
      (codec.decode ⟨folder, name, .multipart bytes none⟩) := by
  have hplain : codec.content (.multipart bytes none) = .ok (bytes, none) := rfl
  unfold decode
  simp only [hplain, bind, Except.bind]
  cases codec.folder folder with
  | error e => exact .same _
  | ok folder =>
      cases ImageCodec.name name with
      | error e => exact .same _
      | ok name =>
          rcases content_of_carries hlimit h with hcontent | ⟨hlarge, size, hcontent⟩
          · rw [hcontent]
            exact .same _
          · rw [hcontent, codec.image_of_large none hlarge]
            exact .tooLarge size bytes.size

end ImageCodec

namespace Service

variable (s : Service)

-- Uploads that are decoded alike leave the same store, and the same is told of them.
theorem upload_of_alike {form form' : UploadForm}
    (h : s.codec.Alike (s.codec.decode form) (s.codec.decode form')) (store : Store) (m : Moment)
    (owner : Owner) :
    (s.upload store m owner form).2 = (s.upload store m owner form').2 ∧
      ∀ stored, (s.upload store m owner form).1 = .ok stored ↔
        (s.upload store m owner form').1 = .ok stored := by
  unfold upload
  generalize s.codec.decode form = result at h
  generalize s.codec.decode form' = result' at h
  cases h with
  | same => exact ⟨rfl, fun _ => Iff.rfl⟩
  | tooLarge size size' => exact ⟨rfl, fun _ => ⟨nofun, nofun⟩⟩

-- The two ways to bring an image agree: as base64 text, alone or in a `data:` address and with
-- blanks around it, and as the bytes that the text stands for. They are decoded alike, at the same
-- moment they leave the same store, and what they leave at different times in different stores
-- differs in its time only.
theorem upload_modes_agree (hlimit : (s.codec.maxImageBytes + 2) / 3 * 4 + 4 < Word.limit)
    {text : String} {bytes : ByteArray} (h : ImageCodec.Carries text bytes)
    (folder name : Option String) :
    let encoded : UploadForm := ⟨folder, name, .base64 text⟩
    let plain : UploadForm := ⟨folder, name, .multipart bytes none⟩
    s.codec.Alike (s.codec.decode encoded) (s.codec.decode plain) ∧
    (∀ store m owner,
      (s.upload store m owner encoded).2 = (s.upload store m owner plain).2 ∧
        ∀ stored, (s.upload store m owner encoded).1 = .ok stored ↔
          (s.upload store m owner plain).1 = .ok stored) ∧
    ∀ store images, store.Holds images → ∀ store' images', store'.Holds images' →
      ∀ m m' owner owner' stored stored' after after',
        s.upload store m owner encoded = (.ok stored, after) →
        s.upload store' m' owner' plain = (.ok stored', after') →
        ∃ image image', after.get stored.address = .ok image ∧
          after'.get stored'.address = .ok image' ∧
          image.content = image'.content ∧ image.contentType = image'.contentType := by
  intro encoded plain
  have halike := ImageCodec.decode_alike hlimit h folder name
  refine ⟨halike, s.upload_of_alike halike, ?_⟩
  intro store images hholds store' images' hholds' m m' owner owner' stored stored' after after'
    hencoded hplain
  obtain ⟨decoded, hdecoded, hget⟩ := s.get_after_upload store hholds hencoded
  obtain ⟨decoded', hdecoded', hget'⟩ := s.get_after_upload store' hholds' hplain
  rw [hdecoded] at halike
  rw [halike.eq_of_ok] at hdecoded'
  cases hdecoded'
  exact ⟨_, _, hget, hget', rfl, rfl⟩

-- The bytes of a small image, and a text that carries them.
def gifBytes : ByteArray := ⟨#[71, 73, 70, 56, 57, 97]⟩

def gifText : String := " data:image/gif;base64,R0lGODlh\n"

theorem carries_gifText : ImageCodec.Carries gifText gifBytes := by
  have hspace : ∀ c ∈ [' '], Text.isBlank c = true := List.forall_mem_singleton.mpr rfl
  have hbreak : ∀ c ∈ ['\n'], Text.isBlank c = true := List.forall_mem_singleton.mpr rfl
  have hfront := @ImageCodec.Front.address "image/gif".toList (by decide)
  exact ⟨_, _, _, hspace, hbreak, hfront, by decide +kernel⟩

theorem upload_modes_agree_for_gif :
    (sample.codec.maxImageBytes + 2) / 3 * 4 + 4 < Word.limit ∧
      ImageCodec.Carries gifText gifBytes ∧
      let upload (payload : UploadPayload) :=
        sample.upload (.memory .empty) .sample ImageAddress.sample.owner
          ⟨none, some "a.png", payload⟩
      (upload (.base64 gifText)).2 = (upload (.multipart gifBytes none)).2 ∧
        ∃ image image',
          (upload (.base64 gifText)).2.get ImageAddress.sample = .ok image ∧
            (upload (.multipart gifBytes none)).2.get ImageAddress.sample = .ok image' ∧
            image.content = image'.content ∧ image.contentType = image'.contentType := by
  have hlimit : (sample.codec.maxImageBytes + 2) / 3 * 4 + 4 < Word.limit := by decide
  have hholds : Store.Holds (.memory .empty) Contents.empty := Store.IsEmpty.holds rfl
  obtain ⟨_, hsame, hkept⟩ := sample.upload_modes_agree hlimit carries_gifText none (some "a.png")
  obtain ⟨hstore, htold⟩ := hsame (.memory .empty) .sample ImageAddress.sample.owner
  have hplain : (sample.upload (.memory .empty) .sample ImageAddress.sample.owner
      ⟨none, some "a.png", .multipart gifBytes none⟩).1 = .ok _ := rfl
  have hencoded := (htold _).mpr hplain
  exact ⟨hlimit, carries_gifText, hstore,
    hkept _ _ hholds _ _ hholds _ _ _ _ _ _ _ _ (Prod.ext hencoded rfl) (Prod.ext hplain rfl)⟩

end Service

end Gallery
