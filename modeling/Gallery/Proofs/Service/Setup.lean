import Gallery.Proofs.Except
import Gallery.Proofs.Service.Upload
import Gallery.Service.Setup

namespace Gallery

-- What a service has from its settings: its URLs, its limits on images, and its keys.
structure Service.Follows (s : Service) (settings : Settings) : Prop where
  urls : ImageUrls.ofBase settings.publicBaseUrl = .ok s.urls
  codec : ∃ folder, s.codec = .new folder settings.maxImageBytes settings.allowedTypes
  keys : s.keys = .ofConfigured settings.masterKey settings.apiKeys

theorem Service.follows_of_ofSettings {libraries : Libraries} {settings : Settings}
    {inProduction : Bool} {s : Service}
    (h : Service.ofSettings libraries settings inProduction = .ok s) : s.Follows settings := by
  unfold ofSettings at h
  obtain ⟨urls, hurls, h⟩ := Except.exists_of_bind_eq_ok h
  obtain ⟨folder, _, h⟩ := Except.exists_of_bind_eq_ok h
  obtain ⟨origins, _, h⟩ := Except.exists_of_bind_eq_ok h
  split at h
  · cases h
  · cases h
    exact ⟨Except.eq_ok_of_mapError_eq_ok hurls, ⟨folder, rfl⟩, rfl⟩

-- Settings to show general statements at, and the service that they ask for.
def Settings.sample : Settings where
  port := 3000
  corsOrigins := ["*"]
  tokenSecret := "secret"
  masterKey := "key"
  apiKeys := []
  concurrencyLimit := 100
  place := "production"
  logFormat := .compact
  publicBaseUrl := "http://[::1]/media/"
  backend := .memory
  storePath := none
  defaultFolder := "avatars"
  maxImageBytes := 1000
  allowedTypes := [" Image/GIF"]

def Service.ofSample : Service where
  libraries := .sample
  codec := .new ImageAddress.sample.folder 1000 [" Image/GIF"]
  urls := ⟨"http://[::1]/media"⟩
  keys := .ofConfigured "key" []
  tokenSecret := "secret"
  origins := .any
  maxBodyBytes := bodyLimit 1000
  inProduction := true

theorem Service.ofSettings_sample : Service.ofSettings .sample .sample true = .ok .ofSample := rfl

end Gallery
