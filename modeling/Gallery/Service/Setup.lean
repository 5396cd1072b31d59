import Gallery.Service.Basic
import Gallery.Settings.Validation

-- How the service is set up: the store is opened and tried, and what the settings say is put
-- together.

namespace Gallery

inductive SetupError where
  | settings (fault : SettingsFault)
  | logging
  | store (e : StoreError)
  | health (e : StoreError)
  | baseUrl (e : BaseUrlError)
  | defaultFolder (e : SegmentError)
  | origin (text : String)
  -- More requests at a time than can be counted.
  | concurrency (limit : Nat)

def SetupError.message : SetupError → String
  | .settings fault => "Configuration validation failed: " ++ fault.message
  | .logging =>
    "Failed to initialize telemetry: a global default trace dispatcher has already been set"
  | .store e => "Failed to initialize image storage: " ++ e.message
  | .health e => "Image storage failed its startup health check: " ++ e.message
  | .baseUrl e => "PUBLIC_BASE_URL is not a valid base URL: " ++ e.message
  | .defaultFolder e => "DEFAULT_FOLDER is invalid: " ++ e.message
  | .origin text =>
    "Invalid CORS origin " ++ Text.quoted text ++ ": failed to parse header value"
  | .concurrency limit =>
    "a semaphore may not have more than MAX_PERMITS permits (" ++ toString limit ++ ")"

-- What the body of a request may have on top of the base64 form of an image.
def bodyOverhead : Nat := 64 * 1024

-- The longest body of a request, for a limit of image bytes, on a machine with words of 64
-- bits.
def bodyLimit (maxImageBytes : Nat) : Nat :=
  Word.saturate ((Word.saturate (maxImageBytes * 4) + 2) / 3 + bodyOverhead)

-- The most requests that can be counted at a time.
def maxConcurrency : Nat := (1 <<< 61) - 1

namespace Store

-- Opens the store that the settings ask for, over a tree of files.
def ofSettings (settings : Settings) (tree : FileTree) : Except StoreError Store :=
  match settings.backend with
  | .memory => .ok (.memory .empty)
  | .files =>
    match settings.storePath with
    | none => .error (.configuration "LOCAL_STORAGE_PATH not configured")
    | some path => (FileStore.create path tree).map .files

end Store

namespace Service

variable (libraries : Libraries)

-- The service that the settings ask for.
def ofSettings (settings : Settings) (inProduction : Bool) : Except SetupError Service := do
  let urls ← (ImageUrls.ofBase settings.publicBaseUrl).mapError .baseUrl
  let folder ← (Segment.parse .folder settings.defaultFolder).mapError .defaultFolder
  let origins ← (Http.Origins.ofTexts settings.corsOrigins).mapError .origin
  if maxConcurrency < settings.concurrencyLimit then throw (.concurrency maxConcurrency)
  return {
    libraries
    codec := .new folder settings.maxImageBytes settings.allowedTypes
    urls
    keys := .ofConfigured settings.masterKey settings.apiKeys
    tokenSecret := settings.tokenSecret
    origins
    maxBodyBytes := bodyLimit settings.maxImageBytes
    inProduction }

-- The service with its store, which has been found to take images.
def start (settings : Settings) (inProduction : Bool) (tree : FileTree) :
    Except SetupError (Service × Store) := do
  let store ← (Store.ofSettings settings tree).mapError .store
  discard (store.checkHealth.mapError .health)
  let service ← ofSettings libraries settings inProduction
  return (service, store)

-- Checks the settings and starts logging, which can be done once only, before the service is
-- started. `isLogging` tells whether it has been done; the second result tells so for the next
-- time.
def boot (settings : Settings) (inProduction : Bool) (tree : FileTree)
    (isLogging : Bool) : Except SetupError (Service × Store) × Bool :=
  match settings.validate with
  | .error fault => (.error (.settings fault), isLogging)
  | .ok () =>
    if isLogging then (.error .logging, true)
    else (start libraries settings inProduction tree, true)

end Service

end Gallery
