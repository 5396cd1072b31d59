import Gallery.Json.Decode
import Gallery.Json.Value
import Gallery.Time.Instant

-- What the service says about itself, and what it answers to an upload.

namespace Gallery

open Json

-- The answer to an upload: when it was complete, and where the image can be fetched.
structure UploadReceipt where
  time : String
  url : String
deriving DecidableEq

namespace UploadReceipt

-- The time of a receipt has milliseconds.
def new (time : Instant) (url : String) : UploadReceipt := ⟨time.rfc3339Millis, url⟩

def toJson (r : UploadReceipt) : Value := .object [("time", .text r.time), ("url", .text r.url)]

def reader : Reader UploadReceipt :=
  Reader.record "UploadResponse"
    [.of "time" .required .text fun s r => { r with time := s },
     .of "url" .required .text fun s r => { r with url := s }]
    ⟨"", ""⟩

end UploadReceipt

structure ServiceStatus where
  name : String
  version : String
  description : String
  canonicalName : String
  storageBackend : String
deriving DecidableEq

namespace ServiceStatus

def toJson (s : ServiceStatus) : Value :=
  .object [("name", .text s.name), ("version", .text s.version),
    ("description", .text s.description), ("canonical_name", .text s.canonicalName),
    ("storage_backend", .text s.storageBackend)]

def reader : Reader ServiceStatus :=
  Reader.record "StatusResponse"
    [.of "name" .required .text fun t s => { s with name := t },
     .of "version" .required .text fun t s => { s with version := t },
     .of "description" .required .text fun t s => { s with description := t },
     .of "canonical_name" .required .text fun t s => { s with canonicalName := t },
     .of "storage_backend" .required .text fun t s => { s with storageBackend := t }]
    ⟨"", "", "", "", ""⟩

end ServiceStatus

end Gallery
