import Gallery.Proofs.Http.Cors
import Gallery.Proofs.Service.Setup
import Gallery.Proofs.Settings.Validation

namespace Gallery

-- What settings must say besides what they are validated for.
structure Settings.Servable (s : Settings) : Prop where
  origins : anyOrigin ∈ s.corsOrigins ∨ ∀ origin ∈ s.corsOrigins, Http.Origins.Writable origin
  concurrency : s.concurrencyLimit ≤ maxConcurrency

-- Why a service cannot be put together from valid settings: an origin that no header can hold, or
-- more requests at a time than can be counted.
inductive Settings.Hinders (s : Settings) : SetupError → Prop where
  | origin {text : String} (hmem : text ∈ s.corsOrigins) (hbad : ¬Http.Origins.Writable text)
      (hlisted : anyOrigin ∉ s.corsOrigins) : Hinders s (.origin text)
  | concurrency (h : maxConcurrency < s.concurrencyLimit) : Hinders s (.concurrency maxConcurrency)

theorem Settings.Hinders.not_servable {s : Settings} {e : SetupError} (h : s.Hinders e) :
    ¬s.Servable := by
  rintro ⟨horigins, hconcurrency⟩
  cases h with
  | origin hmem hbad hlisted =>
      rcases horigins with hstar | hall
      · exact hlisted hstar
      · exact hbad (hall _ hmem)
  | concurrency h => exact absurd hconcurrency (Nat.not_le.mpr h)

namespace Service

variable (libraries : Libraries)

-- The URLs and the folder of valid settings are good, so only the origins and the limit on requests
-- are left to fail.
theorem ofSettings_of_valid {settings : Settings} (h : settings.Valid) (inProduction : Bool) :
    (∃ service, ofSettings libraries settings inProduction = .ok service ∧ settings.Servable) ∨
      ∃ e, ofSettings libraries settings inProduction = .error e ∧ settings.Hinders e := by
  obtain ⟨urls, hurls⟩ := h.baseUrl
  obtain ⟨folder, hfolder⟩ := h.defaultFolder
  unfold ofSettings
  simp only [hurls, hfolder, Except.mapError, bind, Except.bind]
  rcases Http.Origins.ofTexts_cases settings.corsOrigins with
    ⟨origins, horigins, hgood⟩ | ⟨text, hmem, horigins, hbad, hlisted⟩
  · simp only [horigins]
    by_cases hlimit : maxConcurrency < settings.concurrencyLimit
    · rw [if_pos hlimit]
      exact Or.inr ⟨_, rfl, .concurrency hlimit⟩
    · rw [if_neg hlimit]
      exact Or.inl ⟨_, rfl, hgood, Nat.le_of_not_lt hlimit⟩
  · simp only [horigins]
    exact Or.inr ⟨_, rfl, .origin hmem hbad hlisted⟩

-- Validation does not look at all that the service is put together from. With settings that pass
-- it, and a store that opens and is found to take images, the service starts exactly if its origins
-- can be written and its requests counted, and otherwise the error says which of them is wrong.
theorem start_of_validated {settings : Settings} {tree : FileTree} {store : Store}
    (hvalid : settings.validate = .ok ()) (hopen : Store.ofSettings settings tree = .ok store)
    (hhealth : store.checkHealth = .ok ()) (inProduction : Bool) :
    ((∃ service, start libraries settings inProduction tree = .ok (service, store)) ↔
        settings.Servable) ∧
      (¬settings.Servable →
        ∃ e, start libraries settings inProduction tree = .error e ∧ settings.Hinders e) := by
  have hstart : start libraries settings inProduction tree =
      (ofSettings libraries settings inProduction).map fun service => (service, store) := by
    unfold start
    simp only [hopen, hhealth, Except.mapError, bind, Except.bind]
    cases ofSettings libraries settings inProduction <;> rfl
  rw [hstart]
  rcases ofSettings_of_valid libraries ((settings.validate_eq_ok_iff).mp hvalid) inProduction with
    ⟨service, hservice, hservable⟩ | ⟨e, he, hhinders⟩
  · rw [hservice]
    exact ⟨⟨fun _ => hservable, fun _ => ⟨service, rfl⟩⟩, fun hnot => absurd hservable hnot⟩
  · rw [he]
    exact ⟨⟨nofun, fun h => absurd h hhinders.not_servable⟩, fun _ => ⟨e, rfl, hhinders⟩⟩

-- Settings that are valid, with these origins and this limit on requests at a time.
def validSettings (corsOrigins : List String) (concurrencyLimit : Nat) : Settings :=
  { Settings.sample with
    corsOrigins
    concurrencyLimit
    tokenSecret := "a secret of more than 32 characters"
    masterKey := "a master key of more than 32 characters"
    allowedTypes := ["image/gif"] }

theorem validate_validSettings (corsOrigins : List String) (concurrencyLimit : Nat) :
    (validSettings corsOrigins concurrencyLimit).validate = .ok () := by
  have hvalid : (validSettings [] 0).validate.toOption = some () := by decide +kernel
  exact Except.eq_ok_of_toOption_eq_some hvalid

theorem start_for_one_page :
    let settings := validSettings ["https://a.example"] 100
    settings.validate = .ok () ∧ Store.ofSettings settings .empty = .ok (.memory .empty) ∧
      Store.checkHealth (.memory .empty) = .ok () ∧
      ∃ service, start .sample settings true .empty = .ok (service, .memory .empty) := by
  intro settings
  have hvalid : settings.validate = .ok () := validate_validSettings _ _
  have hopen : Store.ofSettings settings .empty = .ok (.memory .empty) := rfl
  have hservable : settings.Servable := by
    refine ⟨Or.inr ?_, by decide⟩
    unfold Http.Origins.Writable
    decide +kernel
  exact ⟨hvalid, hopen, rfl, (start_of_validated .sample hvalid hopen rfl true).1.mpr hservable⟩

-- One has an origin with a line break in it, the other one more request at a time than can be
-- counted.
theorem not_started_though_validated :
    let unwritable := validSettings ["bad\n"] 100
    let uncounted := validSettings ["*"] (maxConcurrency + 1)
    (unwritable.validate = .ok () ∧ Store.ofSettings unwritable .empty = .ok (.memory .empty) ∧
      Store.checkHealth (.memory .empty) = .ok () ∧
      start .sample unwritable true .empty = .error (.origin "bad\n")) ∧
    uncounted.validate = .ok () ∧ Store.ofSettings uncounted .empty = .ok (.memory .empty) ∧
      Store.checkHealth (.memory .empty) = .ok () ∧
      start .sample uncounted true .empty = .error (.concurrency maxConcurrency) :=
  ⟨⟨validate_validSettings _ _, rfl, rfl, rfl⟩, validate_validSettings _ _, rfl, rfl, rfl⟩

end Service

end Gallery
