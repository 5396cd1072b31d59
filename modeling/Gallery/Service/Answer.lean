import Gallery.Access.Token
import Gallery.Http.ErrorReport
import Gallery.Receipt
import Gallery.Service.Basic
import Gallery.Service.Document
import Gallery.Service.Route
import Gallery.Upload.FormData

-- Answers to requests. A request to an image route must carry an API key, and an upload a token
-- that says whose it is; only then is anything read or stored. Around this stand the limit on
-- bodies, the rules for pages of other origins, and the identifier of the request.

namespace Gallery.Service

open Http

def keyHeader : String := "x-api-key"

-- The header that carries the identifier of a request.
def requestIdHeader : String := "x-request-id"

-- The longest identifier that a request may bring along.
def maxRequestId : Nat := 128

def refuse (s : Service) (e : ServiceError) : Response := .ofError s.inProduction e

-- The request may use the image routes.
def checkKey (s : Service) (r : Request) : Except ServiceError Unit :=
  match r.textHeader? keyHeader with
  | none => .error (.unauthorized "Missing API key")
  | some key => if s.keys.accepts key then .ok () else .error (.unauthorized "Invalid API key")

def ownerOf (s : Service) (now : Instant) (r : Request) : Except ServiceError Owner :=
  match r.textHeader? "authorization" with
  | none => .error (.unauthorized "Missing authorization header")
  | some header =>
    match Access.bearerToken header with
    | none => .error (.unauthorized "Invalid authorization header format")
    | some token =>
      (Access.Token.verify s.tokenSecret now.second token).mapError (·.toServiceError)

-- What is done in the name of the owner that a request comes from; without one it is refused.
def forOwner (s : Service) (store : Store) (now : Instant) (r : Request)
    (next : Owner → Response × Store) : Response × Store :=
  match s.ownerOf now r with
  | .error e => (s.refuse e, store)
  | .ok owner => next owner

-- How long the body may be: the limit of the service, or the length that the request gives, if
-- that is less. A request that says it is too long is refused at once.
def bodyAllowance (s : Service) (r : Request) : Option Nat :=
  match (r.textHeader? "content-length").bind fun v => Text.naturalBelow? Word.limit v.toList with
  | none => some s.maxBodyBytes
  | some length => if s.maxBodyBytes < length then none else some (min s.maxBodyBytes length)

-- A body in JSON that asks for an upload.
def base64Form : Json.Reader UploadForm :=
  let withText (text : String) (form : UploadForm) : UploadForm :=
    { form with payload := .base64 text }
  Json.Reader.record "Base64UploadRequest"
    [.of "folder" .defaulted (.option .text) fun folder form => { form with folder },
     .of "name" .defaulted (.option .text) fun name form => { form with name },
     .of "image" .defaulted .text withText]
    ⟨none, none, .base64 ""⟩

-- The form that a body in JSON holds.
def readBase64Form (allowance : Nat) (r : Request) : Except ServiceError UploadForm :=
  if !r.mediaType?.any (·.isJson) then
    .error (.invalidInput "Invalid request body: expected Content-Type: application/json")
  else if allowance < r.body.length then
    .error (.payloadTooLarge "Failed to buffer the request body: length limit exceeded")
  else (base64Form.run r.body).mapError fun fault =>
    let start := if fault.cause.isAboutContent then
        "Failed to deserialize the JSON body into the target type: "
      else "Failed to parse the request body as JSON: "
    .invalidInput ("Invalid request body: " ++ start ++ fault.messageWithPath r.body)

-- The form that a body in parts holds.
def readPartsForm (wide : Text.WideReader) (allowance : Nat) (r : Request) :
    Except ServiceError UploadForm :=
  match (r.mediaType?.filter (·.isForm)).bind (·.parameter? "boundary") with
  | none => .error (.invalidInput
      "Invalid multipart request: Invalid `boundary` for `multipart/form-data` request")
  | some boundary =>
    if allowance < r.body.length then .error (.payloadTooLarge "Request payload is too large")
    else (UploadForm.ofParts wide (Multipart.read boundary r.body)).mapError (·.toServiceError)

def answerUpload (s : Service) (store : Store) (m : Moment) (owner : Owner)
    (form : Except ServiceError UploadForm) : Response × Store :=
  match form with
  | .error e => (s.refuse e, store)
  | .ok form =>
    match s.upload store m owner form with
    | (.error e, store) => (s.refuse e, store)
    | (.ok stored, store) =>
      (.json 201 (UploadReceipt.new stored.completedAt stored.url).toJson, store)

def imageResponse (image : StoredImage) : Response :=
  let type := Text.utf8 image.contentType
  let type := if type.all Header.isValueByte then type else Text.utf8 "application/octet-stream"
  { status := 200
    headers := [("content-type", type), .ofText "x-content-type-options" "nosniff",
      .ofText "last-modified" image.lastModified.headerDate]
    body := image.content }

def badWord (name : String) : Response :=
  .plain 400 ("Invalid URL: Invalid UTF-8 in `" ++ name ++ "`")

-- What a request to read is told: one for an image gets it, and one for a folder its listing.
def readReply (s : Service) (forImage : Bool) : Except ServiceError Retrieved → Response
  | .ok (.image found) =>
    if forImage then imageResponse found
    else s.refuse (.internal "listing request returned an image")
  | .ok (.listing found) => .json 200 found.toJson
  | .error e => s.refuse e

-- The answer to such a request, by what the words of its path stand for.
def readVia {M : Type → Type} [Monad M] (s : Service) (reads : Reads M) (owner folder : String)
    (name : Option String) : M Response :=
  s.readReply name.isSome <$> s.retrieveVia reads owner folder name

def answerFolder (s : Service) (store : Store) (owner folder : String) : Response :=
  match Route.decodeWords [("owner", owner), ("folder", folder)] with
  | .ok [owner, folder] => Id.run (s.readVia store.reads owner folder none)
  | .ok _ => s.refuse (.internal "listing request without a folder")
  | .error name => badWord name

def answerImage (s : Service) (store : Store) (owner folder name : String) : Response :=
  match Route.decodeWords [("owner", owner), ("folder", folder), ("name", name)] with
  | .ok [owner, folder, name] => Id.run (s.readVia store.reads owner folder (some name))
  | .ok _ => s.refuse (.internal "image request without a name")
  | .error name => badWord name

def answerHealth (store : Store) : Response :=
  let report (status : Nat) (word : String) : Response :=
    .json status (.object [("status", .text word), ("storage", .text word)])
  match store.checkHealth with
  | .ok () => report 200 "healthy"
  | .error _ => report 503 "unhealthy"

def status (store : Store) : ServiceStatus where
  name := "folio"
  version := "0.1.0"
  description := "Authenticated image storage and retrieval"
  canonicalName := "folio-image-service"
  storageBackend := store.backend.shown

def notAllowed : Response := .empty 405

-- The form in the body of a request to a route for uploads.
def readForm (s : Service) (route : Route) (allowance : Nat) (r : Request) :
    Except ServiceError UploadForm :=
  if route = .upload then readPartsForm s.libraries.readWide allowance r
  else readBase64Form allowance r

-- The answer to a request for an upload that comes from an owner.
def answerOwned (s : Service) (store : Store) (m : Moment) (allowance : Nat) (r : Request)
    (route : Route) (owner : Owner) : Response × Store :=
  if !route.serves r.method then (notAllowed, store)
  else s.answerUpload store m owner (s.readForm route allowance r)

-- The answer to a request to an image route that carries a key.
def answerKeyed (s : Service) (store : Store) (m : Moment) (allowance : Nat) (r : Request)
    (route : Route) : Response × Store :=
  if route.isUpload then s.forOwner store m.now r (s.answerOwned store m allowance r route)
  else if !route.serves r.method then (notAllowed, store)
  else match route with
    | .folder owner folder => (s.answerFolder store owner folder, store)
    | .image owner folder name => (s.answerImage store owner folder name, store)
    | _ => (.json 200 (status store).toJson, store)

-- The answer at a route that needs no key, to a method that it has.
def answerOpen (s : Service) (store : Store) : Route → Response
  | .health => answerHealth store
  | .documentPage => .page s.libraries.documentPage
  | _ => .json 200 Document.toJson

def answerRoute (s : Service) (store : Store) (m : Moment) (allowance : Nat) (r : Request)
    (route : Route) : Response × Store :=
  if route.isOpen then
    (if route.serves r.method then s.answerOpen store route else notAllowed, store)
  else
    match s.checkKey r with
    | .error e => (s.refuse e, store)
    | .ok () => s.answerKeyed store m allowance r route

-- The answer to a request that is no question about other origins.
def answerInside (s : Service) (store : Store) (m : Moment) (r : Request) : Response × Store :=
  match s.bodyAllowance r with
  | none => (.plain 413 "length limit exceeded", store)
  | some allowance =>
    match Route.ofPath r.path with
    | none => (s.refuse (.notFound "Nothing to see here"), store)
    | some route => s.answerRoute store m allowance r route

-- The identifier of a request: the one it brings along, if that is short and printable.
def requestId (m : Moment) (r : Request) : String :=
  match r.textHeader? requestIdHeader with
  | some id => if id.isEmpty || maxRequestId < id.utf8ByteSize then m.requestId.hyphenated else id
  | none => m.requestId.hyphenated

-- What every response has: the methods of its path if the request came with another, its length,
-- and the identifier of the request. A request for the head of a response gets no body.
def finish (m : Moment) (r : Request) (response : Response) : Response :=
  let response := match Route.ofPath r.path with
    | some route =>
      if route.serves r.method then response
      else response.withDefault (.ofText "allow" route.allowed)
    | none => response
  let response :=
    response.withDefault (.ofText "content-length" (toString response.body.size))
  let response := if r.method = "HEAD" then { response with body := .empty } else response
  response.withHeader (.ofText requestIdHeader (requestId m r))

-- The answer to a request, and the store after it.
def answer (s : Service) (store : Store) (m : Moment) (r : Request) : Response × Store :=
  if r.method = "OPTIONS" then (finish m r (s.origins.preflight r), store)
  else
    let (response, store) := s.answerInside store m r
    (finish m r (s.origins.mark r response), store)

end Gallery.Service
