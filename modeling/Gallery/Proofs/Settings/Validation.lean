import Gallery.Proofs.Except
import Gallery.Settings.Validation

namespace Gallery.Settings

-- What validation asks of settings.
structure Valid (s : Settings) : Prop where
  tokenSecret : minSecretBytes ≤ s.tokenSecret.utf8ByteSize
  masterKey : minSecretBytes ≤ s.masterKey.utf8ByteSize
  apiKeys : ∀ key ∈ s.apiKeys, minSecretBytes ≤ key.utf8ByteSize
  baseUrl : ∃ urls, ImageUrls.ofBase s.publicBaseUrl = .ok urls
  defaultFolder : ∃ folder, Segment.parse .folder s.defaultFolder = .ok folder
  imageBytes : s.maxImageBytes ≠ 0
  types : s.allowedTypes ≠ []
  imageTypes : ∀ type ∈ s.allowedTypes, isImageType type = true
  storePath : ¬(s.backend = .files ∧ s.storePath = none)

theorem isShort_iff (secret : String) :
    isShort secret = true ↔ secret.utf8ByteSize < minSecretBytes := decide_eq_true_iff

-- Settings pass the checks, which refuse one after another, exactly if they are valid.
theorem validate_eq_ok_iff (s : Settings) : s.validate = .ok () ↔ s.Valid := by
  have hfound : s.allowedTypes.find? (!isImageType ·) = none ↔
      ∀ type ∈ s.allowedTypes, isImageType type = true := by
    simp
  unfold validate
  simp only [Except.refuse_eq_ok_iff, Except.discard_bind_eq_ok_iff, Except.mapError_eq_ok_iff,
    isShort_iff, List.any_eq_true, List.isEmpty_iff, Nat.not_lt, not_exists, not_and]
  constructor
  · rintro ⟨htoken, hmaster, hkeys, hbase, hfolder, hbytes, htypes, hrest⟩
    split at hrest
    · cases hrest
    · rename_i hnone
      split at hrest
      · cases hrest
      · rename_i hpath
        exact ⟨htoken, hmaster, hkeys, hbase, hfolder, hbytes, htypes, hfound.mp hnone, hpath⟩
  · intro h
    rw [hfound.mpr h.imageTypes]
    simp only [if_neg h.storePath]
    exact ⟨h.tokenSecret, h.masterKey, h.apiKeys, h.baseUrl, h.defaultFolder, h.imageBytes,
      h.types, rfl⟩

end Gallery.Settings
