import Gallery.Json.Decode
import Gallery.Text.Blank
import Gallery.Text.LetterCase

-- The kinds of store that images can be kept in.

namespace Gallery

inductive StorageBackend where
  | files
  | memory
deriving DecidableEq, Repr

namespace StorageBackend

def shown : StorageBackend → String
  | .files => "local"
  | .memory => "memory"

-- The kind of store that a setting names, in letters of either case.
def parse (raw : String) : Except String StorageBackend :=
  match Text.lower (Text.trim raw) with
  | "local" => .ok .files
  | "memory" => .ok .memory
  | _ => .error ("Invalid storage backend: " ++ raw)

def reader : Json.Reader StorageBackend :=
  .variant [("local", .files), ("memory", .memory)]

end StorageBackend

end Gallery
