import Gallery.Json.Value

-- The document that describes the routes of the service to machines.

namespace Gallery.Service.Document

open Gallery.Json

private def reference (schema : String) : Value :=
  .object [("$ref", .text ("#/components/schemas/" ++ schema))]

private def jsonContent (schema : Value) : Value :=
  .object [("application/json", .object [("schema", schema)])]

-- A response: its status, what it means, and the schema of its body.
private def response (status description : String) (schema : Option String) : String × Value :=
  (status, .object (("description", .text description)
    :: Value.optional "content" (schema.map fun s => jsonContent (reference s))))

private def failure (status description : String) : String × Value :=
  response status description (some "ErrorResponse")

private def pathParameter (name description : String) : Value :=
  .object [("name", .text name), ("in", .text "path"), ("description", .text description),
    ("required", .boolean true), ("schema", .object [("type", .text "string")])]

private def apiKey : String × Value := ("api_key", .array [])

private def bearer : String × Value := ("bearer", .array [])

-- An operation of a path.
private structure Operation where
  method : String
  group : String
  summary : String
  description : Option String
  id : String
  parameters : List Value
  body : Option Value
  responses : List (String × Value)
  security : List (String × Value)

private def listed (items : List Value) : Option Value :=
  if items.isEmpty then none else some (.array items)

private def Operation.toJson (o : Operation) : Value :=
  .object [(o.method, .object (
    [("tags", .array [.text o.group]), ("summary", .text o.summary)]
    ++ Value.optional "description" (o.description.map .text)
    ++ [("operationId", .text o.id)]
    ++ Value.optional "parameters" (listed o.parameters)
    ++ Value.optional "requestBody" (o.body.map fun content =>
        .object [("content", content), ("required", .boolean true)])
    ++ [("responses", .object o.responses)]
    ++ Value.optional "security"
        (if o.security.isEmpty then none else some (.array [.object o.security]))))]

private def uploadResponses (badRequest : String) : List (String × Value) :=
  [response "201" "Image stored" (some "UploadResponse"),
   failure "400" badRequest,
   failure "401" "Missing or invalid credentials",
   failure "413" "Image too large",
   failure "415" "Not an allowed image format",
   failure "503" "Image store unavailable"]

private def upload : Operation where
  method := "put"
  group := "images"
  summary := "Upload image handler (multipart)"
  description := some ("\n".intercalate
    ["Accepts a multipart form with an `image` file part and optional `folder` and",
     "`name` text fields, and stores the image under the token's owner.",
     "",
     "# Errors",
     "- `AppError::InvalidFolder` - Folder is not a valid segment",
     "- `AppError::EmptyImage` - Image part carries no bytes",
     "- `AppError::UnsupportedMediaType` - Content is not an allowed image format",
     "- `AppError::PayloadTooLarge` - Image exceeds the size limit",
     "- `AppError::StoreUnavailable` - The write failed"])
  id := "upload_image"
  parameters := []
  body := some (.object
    [("multipart/form-data", .object [("schema", .object [("type", .text "object")])])])
  responses := uploadResponses "Invalid input"
  security := [apiKey, bearer]

private def base64Upload : Operation where
  method := "put"
  group := "images"
  summary := "Upload image handler (base64 JSON)"
  description := none
  id := "upload_image_base64"
  parameters := []
  body := some (jsonContent (reference "Base64UploadRequest"))
  responses := uploadResponses "Invalid input or encoding"
  security := [apiKey, bearer]

private def viewImage : Operation where
  method := "get"
  group := "images"
  summary := "Serve one stored image"
  description := none
  id := "view_image"
  parameters := [pathParameter "owner" "Owner of the image",
    pathParameter "folder" "Folder containing the image",
    pathParameter "name" "Image name"]
  body := none
  responses := [response "200" "Image bytes with their stored content type" none,
    failure "400" "Invalid path segment",
    failure "401" "Missing or invalid API key",
    failure "404" "Image not found",
    failure "503" "Image store unavailable"]
  security := [apiKey]

private def listFolder : Operation where
  method := "get"
  group := "images"
  summary := "List the images in a folder"
  description := none
  id := "list_folder"
  parameters := [pathParameter "owner" "Owner of the folder",
    pathParameter "folder" "Folder to list"]
  body := none
  responses := [response "200" "Images in the folder, ordered by name" (some "FolderListing"),
    failure "400" "Invalid path segment",
    failure "401" "Missing or invalid API key",
    failure "404" "Folder holds no images",
    failure "503" "Image store unavailable"]
  security := [apiKey]

private def status : Operation where
  method := "get"
  group := "service"
  summary := "Service identity and version"
  description := none
  id := "status"
  parameters := []
  body := none
  responses := [response "200" "Service status" (some "StatusResponse"),
    failure "401" "Missing or invalid API key"]
  security := [apiKey]

private def health : Operation where
  method := "get"
  group := "service"
  summary := "Health check"
  description := none
  id := "health_check"
  parameters := []
  body := none
  responses := [response "200" "Service and store are healthy" (some "HealthCheckResponse"),
    response "503" "Image store is unreachable" (some "HealthCheckResponse")]
  security := []

-- A member of an object: its name, whether it is always there, and its schema.
private structure Property where
  name : String
  required : Bool
  schema : List (String × Value)

private def described (description : String) : List (String × Value) :=
  [("description", .text description)]

private def text : List (String × Value) := [("type", .text "string")]

private def optionalText : List (String × Value) :=
  [("type", .array [.text "string", .text "null"])]

private def schema (description : Option String) (properties : List Property) : Value :=
  let required := (properties.filter (·.required)).map fun p => Value.text p.name
  .object ([("type", .text "object")]
    ++ Value.optional "description" (description.map .text)
    ++ Value.optional "required" (listed required)
    ++ [("properties", .object (properties.map fun p => (p.name, .object p.schema)))])

private def schemas : List (String × Value) :=
  [("Base64UploadRequest", schema (some "JSON body of a base64 upload.")
      [⟨"folder", false, optionalText ++ described
          "Target folder. Falls back to the configured default when absent or empty."⟩,
       ⟨"image", false, text ++ described
          "Standard padded base64, optionally as a `data:` URI."⟩,
       ⟨"name", false, optionalText ++ described
          "Image name. Generated when absent or empty."⟩]),
   ("ErrorResponse", schema none
      [⟨"error", true, text⟩,
       ⟨"details", false, optionalText⟩,
       ⟨"error_type", false, optionalText⟩,
       ⟨"code", true, text ++ described
          "Machine-readable error code for programmatic handling"⟩,
       ⟨"recoverable", true, [("type", .text "boolean")] ++ described
          "Whether this error is recoverable (can be retried)"⟩,
       ⟨"suggested_action", false, optionalText⟩]),
   ("FolderListing", schema
      (some "Direct children of `(owner, folder)`, ordered by name. Computed on demand.")
      [⟨"owner", true, text⟩,
       ⟨"folder", true, text⟩,
       ⟨"url", false, optionalText⟩,
       ⟨"entries", true, [("type", .text "array"), ("items", reference "ListingEntry")]⟩]),
   ("HealthCheckResponse", schema none [⟨"status", true, text⟩, ⟨"storage", true, text⟩]),
   ("ListingEntry", schema (some "One image inside a folder listing.")
      [⟨"name", true, text⟩,
       ⟨"size", true, [("type", .text "integer"), ("format", .text "int64"),
          ("minimum", .number 0)]⟩,
       ⟨"content_type", true, text⟩,
       ⟨"last_modified", true, text ++ [("format", .text "date-time")]⟩,
       ⟨"url", false, optionalText ++ described
          "Public URL of the image. Filled in by the retrieval service."⟩]),
   ("StatusResponse", schema none
      [⟨"name", true, text⟩,
       ⟨"version", true, text⟩,
       ⟨"description", true, text⟩,
       ⟨"canonical_name", true, text⟩,
       ⟨"storage_backend", true, text⟩]),
   ("UploadResponse", schema (some "Body returned by both upload routes.")
      [⟨"time", true, text ++ described
          "Server time at which the upload completed (RFC 3339)."
          ++ [("example", .text "2026-10-16T09:30:15.123Z")]⟩,
       ⟨"url", true, text ++ described "Address the image can be fetched from."⟩])]

private def securitySchemes : List (String × Value) :=
  [("api_key", .object [("type", .text "apiKey"), ("in", .text "header"),
      ("name", .text "x-api-key")]),
   ("bearer", .object [("type", .text "http"), ("scheme", .text "bearer"),
      ("bearerFormat", .text "JWT")])]

private def group (name description : String) : Value :=
  .object [("name", .text name), ("description", .text description)]

-- The name of the path of an image, with its words in braces.
private def word (name : String) : String := "/\x7b" ++ name ++ "\x7d"

def toJson : Value :=
  .object
    [("openapi", .text "3.1.0"),
     ("info", .object
        [("title", .text "Folio API"),
         ("description", .text ("Authenticated image storage (v0). Images are uploaded as "
            ++ "multipart files or base64 JSON into per-owner folders and served back by path. "
            ++ "All image endpoints live under /api/v0/images/.")),
         ("license", .object [("name", .text "")]),
         ("version", .text "0.1.0")]),
     ("paths", .object
        [("/api/v0/images/status", status.toJson),
         ("/api/v0/images/upload", upload.toJson),
         ("/api/v0/images/upload/base64", base64Upload.toJson),
         ("/api/v0/images" ++ word "owner" ++ word "folder", listFolder.toJson),
         ("/api/v0/images" ++ word "owner" ++ word "folder" ++ word "name", viewImage.toJson),
         ("/health", health.toJson)]),
     ("components", .object
        [("schemas", .object schemas), ("securitySchemes", .object securitySchemes)]),
     ("tags", .array
        [group "images" "Image upload, retrieval and folder listing",
         group "service" "Service status and health checks"])]

end Gallery.Service.Document
