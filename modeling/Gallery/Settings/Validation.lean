import Gallery.ImageUrls
import Gallery.Settings.Basic

-- What settings must say before the service starts with them.

namespace Gallery

inductive SettingsFault where
  | shortTokenSecret
  | shortMasterKey
  | shortApiKey
  | baseUrl (e : BaseUrlError)
  | defaultFolder (e : SegmentError)
  | noImageBytes
  | noTypes
  | notAnImageType (found : String)
  | noStorePath

def SettingsFault.message : SettingsFault → String
  | .shortTokenSecret => "JWT_SECRET must be at least 32 characters long"
  | .shortMasterKey => "MASTER_API_KEY must be at least 32 characters long"
  | .shortApiKey => "Every key in API_KEYS must be at least 32 characters long"
  | .baseUrl e => e.message
  | .defaultFolder e => "DEFAULT_FOLDER is not a valid folder: " ++ e.message
  | .noImageBytes => "MAX_FILE_SIZE_MB must be greater than 0"
  | .noTypes => "ALLOWED_CONTENT_TYPES must list at least one image type"
  | .notAnImageType found =>
    "ALLOWED_CONTENT_TYPES may only contain image types, found '" ++ found ++ "'"
  | .noStorePath => "LOCAL_STORAGE_PATH must be set when using local storage backend"

namespace Settings

-- The length in bytes that secrets and keys have at least.
def minSecretBytes : Nat := 32

def isShort (secret : String) : Bool := secret.utf8ByteSize < minSecretBytes

def isImageType (contentType : String) : Bool := contentType.startsWith "image/"

def validate (s : Settings) : Except SettingsFault Unit := do
  if isShort s.tokenSecret then throw .shortTokenSecret
  if isShort s.masterKey then throw .shortMasterKey
  if s.apiKeys.any isShort then throw .shortApiKey
  discard ((ImageUrls.ofBase s.publicBaseUrl).mapError .baseUrl)
  discard ((Segment.parse .folder s.defaultFolder).mapError .defaultFolder)
  if s.maxImageBytes = 0 then throw .noImageBytes
  if s.allowedTypes.isEmpty then throw .noTypes
  match s.allowedTypes.find? (!isImageType ·) with
  | some found => throw (.notAnImageType found)
  | none => pure ()
  if s.backend = .files ∧ s.storePath = none then throw .noStorePath

end Settings

end Gallery
