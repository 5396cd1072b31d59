import Gallery.Json.Decode
import Gallery.Segment

-- Segments in JSON: texts that are checked like any other.

namespace Gallery.Segment

open Json

def toJson {role : Coordinate} (s : Segment role) : Value := .text s.text

def reader (role : Coordinate) : Reader (Segment role) := do
  let raw ← Reader.text
  match parse role raw with
  | .ok s => return s
  | .error e => Reader.failSomewhere (.refused e.message)

end Gallery.Segment
