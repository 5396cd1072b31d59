-- Errors of the service. Whatever goes wrong is one of these in the end, and each says by itself
-- how it is to be presented: with which status and code, whether to try again, and whether its
-- details may be shown.

namespace Gallery

inductive LogLevel where
  | debug
  | warn
  | error
deriving DecidableEq, Repr

inductive ServiceError where
  | invalidFolder (reason : String)
  | invalidPath (reason : String)
  | invalidEncoding (reason : String)
  | emptyImage (reason : String)
  | unsupportedMediaType (reason : String)
  | notFound (reason : String)
  | storeUnavailable (reason : String)
  | invalidInput (reason : String)
  | payloadTooLarge (reason : String)
  | unauthorized (reason : String)
  | internal (reason : String)
  -- An unexpected failure together with what led to it, the nearest cause first.
  | internalWithCauses (reason : String) (causes : List String)
deriving DecidableEq, Repr

structure Presentation where
  status : Nat
  code : String
  recoverable : Bool
  action : Option String
  sensitive : Bool
  logLevel : LogLevel
deriving DecidableEq, Repr

inductive RequestOutcome where
  | rejected
  | succeeded
  | failed
deriving DecidableEq, Repr

namespace ServiceError

-- An error of the caller: nothing to hide, and no use in trying again.
private def ofCaller (status : Nat) (code action : String) : Presentation :=
  ⟨status, code, false, some action, false, .debug⟩

-- An error of the service: to be tried again, and kept to itself.
private def ofService (status : Nat) (code : String) : Presentation :=
  ⟨status, code, true, some "Retry after a short delay", true, .error⟩

def presentation : ServiceError → Presentation
  | .invalidFolder _ =>
    ofCaller 400 "INVALID_FOLDER"
      "Use a folder made of letters, digits, '.', '_', '@', '+' or '-'"
  | .invalidPath _ =>
    ofCaller 400 "INVALID_PATH" "Remove separators and '..' from the path segments"
  | .invalidEncoding _ =>
    ofCaller 400 "INVALID_ENCODING" "Send the image as standard padded base64"
  | .emptyImage _ => ofCaller 400 "EMPTY_IMAGE" "Attach a non-empty image"
  | .unsupportedMediaType _ =>
    ofCaller 415 "UNSUPPORTED_MEDIA_TYPE" "Upload a JPEG, PNG, GIF, WebP or BMP image"
  | .notFound _ => ofCaller 404 "NOT_FOUND" "Verify the owner, folder and image name"
  | .storeUnavailable _ => ofService 503 "STORE_UNAVAILABLE"
  | .invalidInput _ => ofCaller 400 "INVALID_INPUT" "Check request parameters and try again"
  | .payloadTooLarge _ => ofCaller 413 "PAYLOAD_TOO_LARGE" "Reduce the image size"
  | .unauthorized _ => ofCaller 401 "UNAUTHORIZED" "Check API key or authentication token"
  | .internal _ => ofService 500 "INTERNAL_ERROR"
  | .internalWithCauses _ _ => ofService 500 "INTERNAL_ERROR"

-- The name of the kind of error; both internal ones have the same.
def kind : ServiceError → String
  | .invalidFolder _ => "InvalidFolder"
  | .invalidPath _ => "InvalidPath"
  | .invalidEncoding _ => "InvalidEncoding"
  | .emptyImage _ => "EmptyImage"
  | .unsupportedMediaType _ => "UnsupportedMediaType"
  | .notFound _ => "NotFound"
  | .storeUnavailable _ => "StoreUnavailable"
  | .invalidInput _ => "InvalidInput"
  | .payloadTooLarge _ => "PayloadTooLarge"
  | .unauthorized _ => "Unauthorized"
  | .internal _ | .internalWithCauses _ _ => "Internal"

-- The whole message, for logs and details.
def message : ServiceError → String
  | .invalidFolder reason => "Invalid folder: " ++ reason
  | .invalidPath reason => "Invalid path: " ++ reason
  | .invalidEncoding reason => "Invalid encoding: " ++ reason
  | .emptyImage reason => "Empty image: " ++ reason
  | .unsupportedMediaType reason => "Unsupported media type: " ++ reason
  | .notFound reason => "Not found: " ++ reason
  | .storeUnavailable reason => "Store unavailable: " ++ reason
  | .invalidInput reason => "Invalid input: " ++ reason
  | .payloadTooLarge reason => "File too large: " ++ reason
  | .unauthorized reason => "Unauthorized: " ++ reason
  | .internal reason => "Internal error: " ++ reason
  | .internalWithCauses _ _ => "Internal error with source"

-- What a client is told: nothing of what went wrong inside.
def clientMessage : ServiceError → String
  | .invalidFolder reason | .invalidPath reason | .invalidEncoding reason | .emptyImage reason
  | .unsupportedMediaType reason | .notFound reason | .invalidInput reason
  | .payloadTooLarge reason | .unauthorized reason => reason
  | .storeUnavailable _ => "Image store is unavailable"
  | .internal _ | .internalWithCauses _ _ => "Internal server error"

-- The causes of an error, the nearest first.
def causes : ServiceError → List String
  | .internalWithCauses _ causes => causes
  | _ => []

def shownCauses : Nat := 5

-- The message with the causes under it, as far as they are shown.
def details (e : ServiceError) : String :=
  let shown := (e.causes.take shownCauses).map ("\n  Caused by: " ++ ·)
  let rest := if shownCauses < e.causes.length then "\n  ... (truncated)" else ""
  e.message ++ String.join shown ++ rest

-- An unexpected failure, from a chain of messages with the outermost first.
def ofChain (chain : List String) : ServiceError :=
  .internalWithCauses (chain.headD "") chain

-- The error of a text that is no JSON of the expected form, with what is wrong about it.
def ofJson (fault : String) : ServiceError := .invalidInput ("JSON parsing error: " ++ fault)

-- The caller caused the error, and nothing reached the store.
def isCallerError (e : ServiceError) : Bool :=
  400 ≤ e.presentation.status && e.presentation.status < 500

end ServiceError

namespace RequestOutcome

def of {α : Type} : Except ServiceError α → RequestOutcome
  | .ok _ => .succeeded
  | .error e => if e.isCallerError then .rejected else .failed

def shown : RequestOutcome → String
  | .rejected => "rejected"
  | .succeeded => "succeeded"
  | .failed => "failed"

end RequestOutcome

end Gallery
