import Gallery.Proofs.Except
import Gallery.Proofs.Http.Cors
import Gallery.Proofs.Word
import Gallery.Settings.Basic
import Gallery.Settings.EnvFile
import Mathlib.Data.List.Basic

namespace Gallery

-- The environment with the defaults of a file, if there is one.
def Environment.withDefaults (env : Environment) (file : Option String) : Environment :=
  file.elim env fun text => EnvFile.apply text env

-- The text that the origins are read from.
def Environment.originsText (env : Environment) : String :=
  (env.get? "CORS_ORIGINS").getD Settings.anyOrigin

namespace Settings

-- Where the service runs, the pages it is for, and its limit on images, which a word can hold, as
-- settings have it from an environment.
structure ReadFrom (s : Settings) (env : Environment) : Prop where
  place : s.place = env.placeName?.getD "development"
  origins : s.corsOrigins = listParts env.originsText
  notAlone : s.isProduction = true → Text.trim env.originsText ≠ anyOrigin
  limit : s.maxImageBytes < Word.limit

theorem bytesOfMegabytes_lt {megabytes bytes : Nat} (h : bytesOfMegabytes megabytes = .ok bytes) :
    bytes < Word.limit := by
  obtain ⟨_, _, hbytes⟩ := Except.exists_of_bind_eq_ok h
  exact (Word.mul_eq_ok_iff.mp hbytes).2

theorem readFrom_of_ofEnvironment {env : Environment} {s : Settings}
    (h : ofEnvironment env = .ok s) : s.ReadFrom env := by
  unfold ofEnvironment at h
  simp only at h
  split at h
  · cases h
  · rename_i hallowed
    split at h
    · obtain ⟨port, _, h⟩ := Except.exists_of_bind_eq_ok h
      split at h
      · split at h
        · -- the store that is asked for decides nothing here
          split at h <;> obtain ⟨backend, _, h⟩ := Except.exists_of_bind_eq_ok h <;>
            obtain ⟨bytes, hbytes, h⟩ := Except.exists_of_bind_eq_ok h <;> cases h
          all_goals exact ⟨rfl, rfl, fun hproduction halone => hallowed ⟨hproduction, halone⟩,
            bytesOfMegabytes_lt (Except.eq_ok_of_mapError_eq_ok hbytes)⟩
        · cases h
      · cases h
    · obtain ⟨port, hport, _⟩ := Except.exists_of_bind_eq_ok h
      cases hport

theorem mem_listParts_iff (raw part : String) :
    part ∈ listParts raw ↔
      part ≠ "" ∧ ∃ cs ∈ raw.toList.splitOn ',', Text.trimChars cs = part.toList := by
  simp only [listParts, List.mem_filter, List.mem_map, Bool.not_eq_true',
    String.isEmpty_eq_false_iff]
  constructor
  · rintro ⟨⟨cs, hcs, rfl⟩, hfilled⟩
    exact ⟨hfilled, cs, hcs, String.toList_ofList.symm⟩
  · rintro ⟨hfilled, cs, hcs, htrim⟩
    exact ⟨⟨cs, hcs, by rw [htrim, String.ofList_toList]⟩, hfilled⟩

-- Where the service is in use by its clients, it is for the pages of all origins exactly if a star
-- is one of several parts of the list that its origins are read from, be it next to nothing but
-- blanks. A star that stands alone is refused, but it is looked for in the whole text only.
theorem any_origin_in_production_iff (env : Environment) (file : Option String) {s : Settings}
    (h : ofEnvironment (env.withDefaults file) = .ok s) (hproduction : s.isProduction = true) :
    (Http.Origins.ofTexts s.corsOrigins = .ok .any ↔ anyOrigin ∈ s.corsOrigins) ∧
    (anyOrigin ∈ s.corsOrigins ↔
      ∃ raw, (env.withDefaults file).get? "CORS_ORIGINS" = some raw ∧ ',' ∈ raw.toList ∧
        ∃ part ∈ raw.toList.splitOn ',', Text.trimChars part = ['*']) := by
  refine ⟨Http.Origins.ofTexts_eq_any_iff _, ?_⟩
  have hread := readFrom_of_ofEnvironment h
  have halone := hread.notAlone hproduction
  rw [hread.origins, mem_listParts_iff]
  constructor
  · rintro ⟨_, part, hpart, htrim⟩
    cases hraw : (env.withDefaults file).get? "CORS_ORIGINS" with
    | none =>
        -- then the origins are all of them, which is refused
        rw [Environment.originsText, hraw] at halone
        exact absurd (by decide) halone
    | some raw =>
        rw [Environment.originsText, hraw, Option.getD_some] at hpart halone
        refine ⟨raw, rfl, ?_, part, hpart, htrim⟩
        by_contra hcomma
        rw [List.splitOn_eq_singleton hcomma, List.mem_singleton] at hpart
        subst hpart
        exact halone (by rw [Text.trim, htrim]; rfl)
  · rintro ⟨raw, hraw, _, part, hpart, htrim⟩
    rw [Environment.originsText, hraw, Option.getD_some]
    exact ⟨by decide, part, hpart, htrim⟩

-- An environment in which the service is in use, with these origins, and the settings it gives.
def productionEnvironment (origins : String) : Environment :=
  ⟨[("ENVIRONMENT", "production"), ("CORS_ORIGINS", origins), ("JWT_SECRET", "secret"),
    ("MASTER_API_KEY", "key")]⟩

def inProduction (corsOrigins : List String) : Settings where
  port := 3000
  corsOrigins
  tokenSecret := "secret"
  masterKey := "key"
  apiKeys := []
  concurrencyLimit := 10000
  place := "production"
  logFormat := .compact
  publicBaseUrl := "http://localhost:3000"
  backend := .files
  storePath := some "./data/images"
  defaultFolder := "general"
  maxImageBytes := 10 * 1024 * 1024
  allowedTypes := ["image/jpeg", "image/png", "image/gif", "image/webp", "image/bmp"]

theorem not_any_origin_for_one_page :
    let env := (productionEnvironment "https://a.example").withDefaults none
    let s := inProduction ["https://a.example"]
    ofEnvironment env = .ok s ∧ s.isProduction = true ∧
      Http.Origins.ofTexts s.corsOrigins ≠ .ok .any := by
  intro env s
  have hread : ofEnvironment env = .ok s := Except.eq_ok_of_toOption_eq_some (by decide +kernel)
  have hproduction : s.isProduction = true := by decide +kernel
  obtain ⟨hany, hlisted⟩ := any_origin_in_production_iff _ none hread hproduction
  refine ⟨hread, hproduction, fun h => ?_⟩
  obtain ⟨raw, hraw, hcomma, _⟩ := hlisted.mp (hany.mp h)
  have hwritten : env.get? "CORS_ORIGINS" = some "https://a.example" := by decide
  rw [hwritten] at hraw
  cases hraw
  exact absurd hcomma (by decide)

-- Here a star comes first and a page after it.
theorem any_origin_beside_one_page :
    let s := inProduction ["*", "https://a.example"]
    ofEnvironment ((productionEnvironment "*,https://a.example").withDefaults none) = .ok s ∧
      s.isProduction = true ∧ anyOrigin ∈ s.corsOrigins ∧
      Http.Origins.ofTexts s.corsOrigins = .ok .any :=
  ⟨Except.eq_ok_of_toOption_eq_some (by decide +kernel), by decide +kernel, by decide, rfl⟩

end Settings

end Gallery
