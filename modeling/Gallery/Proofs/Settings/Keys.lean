import Gallery.Proofs.Access.ApiKeys
import Gallery.Proofs.Service.Start

namespace Gallery.Settings

open Access

-- The texts that are configured as keys.
def keys (s : Settings) : List String := s.masterKey :: s.apiKeys

theorem mem_ofConfigured_iff {master : String} {apiKeys : List String} {key : String}
    (hfilled : ∀ key ∈ master :: apiKeys, key ≠ "") :
    key ∈ (ApiKeys.ofConfigured master apiKeys).accepted ↔ key ∈ master :: apiKeys := by
  have hkept : apiKeys.filter (!·.isEmpty) = apiKeys := by
    rw [List.filter_eq_self]
    intro other hmem
    simpa using hfilled other (List.mem_cons_of_mem _ hmem)
  rw [ApiKeys.ofConfigured, hkept]

theorem Valid.long_of_mem_keys {s : Settings} (h : s.Valid) {key : String} (hmem : key ∈ s.keys) :
    minSecretBytes ≤ key.utf8ByteSize := by
  rcases List.mem_cons.mp hmem with rfl | hfurther
  · exact h.masterKey
  · exact h.apiKeys key hfurther

theorem Valid.ne_empty_of_mem_keys {s : Settings} (h : s.Valid) {key : String}
    (hmem : key ∈ s.keys) : key ≠ "" := by
  rintro rfl
  exact absurd (h.long_of_mem_keys hmem) (by decide)

-- With valid settings a candidate is accepted exactly if it is configured as a key. No short
-- candidate is, and the empty one least of all; and it does not matter which of the keys is the
-- master key, in which order the others are, or how often they are named.
theorem configured_keys_accepted {settings : Settings} (hvalid : settings.validate = .ok ()) :
    let configured := ApiKeys.ofConfigured settings.masterKey settings.apiKeys
    (∀ candidate, configured.accepts candidate = true ↔
      candidate = settings.masterKey ∨ candidate ∈ settings.apiKeys) ∧
    (∀ candidate, candidate.utf8ByteSize < 32 → configured.accepts candidate = false) ∧
    ∀ master apiKeys, (∀ key, key ∈ master :: apiKeys ↔ key ∈ settings.keys) →
      ∀ candidate, (ApiKeys.ofConfigured master apiKeys).accepts candidate =
        configured.accepts candidate := by
  intro configured
  have hsettings := (settings.validate_eq_ok_iff).mp hvalid
  have hiff : ∀ candidate, configured.accepts candidate = true ↔ candidate ∈ settings.keys := by
    intro candidate
    rw [ApiKeys.accepts_iff_mem,
      mem_ofConfigured_iff fun key hmem => hsettings.ne_empty_of_mem_keys hmem]
    rfl
  refine ⟨fun candidate => ?_, fun candidate hshort => ?_, fun master apiKeys hsame candidate => ?_⟩
  · rw [hiff, keys, List.mem_cons]
  · rw [← Bool.not_eq_true, hiff]
    intro hmem
    exact absurd (hsettings.long_of_mem_keys hmem) (Nat.not_le.mpr hshort)
  · have hfilled : ∀ key ∈ master :: apiKeys, key ≠ "" := fun key hmem =>
      hsettings.ne_empty_of_mem_keys ((hsame key).mp hmem)
    rw [Bool.eq_iff_iff, hiff, ApiKeys.accepts_iff_mem, mem_ofConfigured_iff hfilled, hsame]

-- Settings with a key that begins like the master key and one that is named twice.
def manyKeys : Settings :=
  { Service.validSettings ["*"] 100 with
    apiKeys :=
      ["a master key of more than 32 characters, and then some",
       "the key of a client with 32 characters or more",
       "the key of a client with 32 characters or more"] }

-- The last key is found, and the part of the master key that is long enough to be a key is not. The
-- keys could have been configured the other way round.
theorem configured_keys_accepted_of_many :
    manyKeys.validate = .ok () ∧
      let configured := ApiKeys.ofConfigured manyKeys.masterKey manyKeys.apiKeys
      configured.accepts "the key of a client with 32 characters or more" = true ∧
      configured.accepts "a master key of more than 32 char" = false ∧
      configured.accepts "a master key" = false ∧
      ∀ candidate, configured.accepts candidate =
        (ApiKeys.ofConfigured "the key of a client with 32 characters or more"
          ["a master key of more than 32 characters, and then some",
           "a master key of more than 32 characters"]).accepts candidate := by
  have hvalid : manyKeys.validate = .ok () :=
    Except.eq_ok_of_toOption_eq_some (by decide +kernel : manyKeys.validate.toOption = some ())
  obtain ⟨hiff, hshort, hsame⟩ := configured_keys_accepted hvalid
  refine ⟨hvalid, (hiff _).mpr (Or.inr (by decide)), ?_, hshort _ (by decide), fun candidate => ?_⟩
  · rw [← Bool.not_eq_true, hiff]
    decide
  · refine (hsame _ _ (fun key => ?_) candidate).symm
    simp only [keys, manyKeys, Service.validSettings, List.mem_cons, List.not_mem_nil, or_false]
    tauto

end Gallery.Settings
