import Gallery.Settings.Environment
import Gallery.StorageBackend
import Gallery.Text.Number
import Gallery.Word

-- The settings of the service, and how they are read from the environment.

namespace Gallery

-- The form in which events are logged.
inductive LogFormat where
  | compact
  | json
deriving DecidableEq, Repr

def LogFormat.shown : LogFormat → String
  | .compact => "compact"
  | .json => "json"

structure Settings where
  port : Nat
  corsOrigins : List String
  tokenSecret : String
  masterKey : String
  apiKeys : List String
  concurrencyLimit : Nat
  place : String
  logFormat : LogFormat
  publicBaseUrl : String
  backend : StorageBackend
  storePath : Option String
  defaultFolder : String
  maxImageBytes : Nat
  allowedTypes : List String
deriving DecidableEq, Repr

inductive SettingsError where
  | anyOriginInProduction
  | invalidPort
  | missingTokenSecret
  | missingMasterKey
  | invalidBackend (reason : String)
  -- The program stops where the limit in bytes is too large for a word.
  | overflow (cause : Word.Overflow)
deriving DecidableEq, Repr

def SettingsError.message : SettingsError → String
  | .anyOriginInProduction =>
    "CORS_ORIGINS cannot be '*' in production. Please specify explicit origins."
  | .invalidPort => "SERVER_PORT must be a valid number"
  | .missingTokenSecret => "JWT_SECRET must be set"
  | .missingMasterKey => "MASTER_API_KEY environment variable not set"
  | .invalidBackend reason => reason
  | .overflow cause => cause.message

namespace Settings

-- The service is in use by its clients.
def isProduction (s : Settings) : Bool := isProductionName s.place

-- The parts of a list that commas separate, without blanks around them and without empty ones.
def listParts (raw : String) : List String :=
  ((raw.toList.splitOn ',').map fun part => String.ofList (Text.trimChars part)).filter
    (!·.isEmpty)

-- The origin that stands for all.
def anyOrigin : String := "*"

private def word (limit : Nat) (raw : String) : Option Nat := Text.naturalBelow? limit raw.toList

-- The bytes of so many megabytes.
def bytesOfMegabytes (megabytes : Nat) : Except Word.Overflow Nat := do
  Word.mul (← Word.mul megabytes 1024) 1024

-- The variables that settings are read from.
def variableNames : List String :=
  ["ENVIRONMENT", "APP_ENV", "CORS_ORIGINS", "SERVER_PORT", "PORT", "LOG_FORMAT", "JWT_SECRET",
   "MASTER_API_KEY", "API_KEYS", "HTTP_CONCURRENCY_LIMIT", "STORAGE_BACKEND", "MAX_FILE_SIZE_MB",
   "ALLOWED_CONTENT_TYPES", "PUBLIC_BASE_URL", "LOCAL_STORAGE_PATH", "DEFAULT_FOLDER"]

def ofEnvironment (env : Environment) : Except SettingsError Settings := do
  let place := env.placeName?.getD "development"
  let origins := (env.get? "CORS_ORIGINS").getD anyOrigin
  if isProductionName place ∧ Text.trim origins = anyOrigin then
    throw .anyOriginInProduction
  let port ←
    match word (1 <<< 16) ((env.either? "SERVER_PORT" "PORT").getD "3000") with
    | some port => pure port
    | none => throw .invalidPort
  let logFormat :=
    if Text.lower ((env.get? "LOG_FORMAT").getD "") = "json" then .json else .compact
  let some tokenSecret := env.get? "JWT_SECRET" | throw .missingTokenSecret
  let some masterKey := env.get? "MASTER_API_KEY" | throw .missingMasterKey
  let backend ←
    match (env.get? "STORAGE_BACKEND").map StorageBackend.parse with
    | none => pure .files
    | some (.ok backend) => pure backend
    | some (.error reason) => throw (.invalidBackend reason)
  let limit := ((env.get? "HTTP_CONCURRENCY_LIMIT").bind (word Word.limit)).getD 10000
  let megabytes := ((env.get? "MAX_FILE_SIZE_MB").bind (word Word.limit)).getD 10
  let maxImageBytes ← (bytesOfMegabytes megabytes).mapError .overflow
  let types := (env.get? "ALLOWED_CONTENT_TYPES").getD
    "image/jpeg,image/png,image/gif,image/webp,image/bmp"
  return {
    port
    corsOrigins := listParts origins
    tokenSecret
    masterKey
    apiKeys := listParts ((env.get? "API_KEYS").getD "")
    concurrencyLimit := max limit 1
    place
    logFormat
    publicBaseUrl := (env.get? "PUBLIC_BASE_URL").getD ("http://localhost:" ++ toString port)
    backend
    storePath := some ((env.get? "LOCAL_STORAGE_PATH").getD "./data/images")
    defaultFolder := (env.get? "DEFAULT_FOLDER").getD "general"
    maxImageBytes
    allowedTypes := (listParts types).map Text.lower }

end Settings

end Gallery
