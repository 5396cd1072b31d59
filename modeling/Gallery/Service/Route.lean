import Gallery.ImageUrls
import Gallery.Text.Percent
import Gallery.Text.Utf8

-- Routes: what the paths of requests stand for. A word that has a meaning of its own goes before
-- one that stands for an owner, as long as the whole path fits.

namespace Gallery

-- What a path stands for. The words of an address are as they were written.
inductive Route where
  | health
  | document
  | documentPage
  | upload
  | base64Upload
  | status
  | folder (owner folder : String)
  | image (owner folder name : String)
deriving DecidableEq, Repr

namespace Route

-- What the words after the start of all image routes stand for. The last word of an address is
-- not empty; a slash may follow a folder.
def ofWords : List String → Option Route
  | ["upload"] => some .upload
  | ["upload", "base64"] => some .base64Upload
  | ["status"] => some .status
  | [first, second] => if second.isEmpty then none else some (.folder first second)
  | [first, second, third] =>
    if third.isEmpty then some (.folder first second) else some (.image first second third)
  | _ => none

def wordsOf (path : String) : List String :=
  (path.toList.splitOn '/').map String.ofList

-- The words that the paths of all image routes begin with.
def imageWords : List String := wordsOf imageRoutes

def ofPath (path : String) : Option Route :=
  let words := wordsOf path
  if words = ["", "health"] then some .health
  else if words = ["", "api", "openapi.json"] then some .document
  else if words = ["", "docs"] then some .documentPage
  else if imageWords.isPrefixOf words then ofWords (words.drop imageWords.length)
  else none

-- Routes that need no key.
def isOpen : Route → Bool
  | .health | .document | .documentPage => true
  | _ => false

-- Uploads are put; all else is got.
def isUpload : Route → Bool
  | .upload | .base64Upload => true
  | _ => false

-- The methods of a route, as a header lists them.
def allowed (r : Route) : String := if r.isUpload then "PUT" else "GET,HEAD"

-- A route of a method; what can be got can also be asked for without its body.
def serves (r : Route) (method : String) : Bool :=
  if r.isUpload then method = "PUT" else method = "GET" || method = "HEAD"

-- The text that a word of a path stands for.
def decodeWord? (word : String) : Option String :=
  Text.ofUtf8? ⟨(Text.percentDecode (Text.utf8 word)).toArray⟩

-- The texts that named words stand for, or the name of the first that stands for none.
def decodeWords : List (String × String) → Except String (List String)
  | [] => .ok []
  | (name, word) :: rest =>
    match decodeWord? word with
    | some text => (decodeWords rest).map (text :: ·)
    | none => .error name

end Route

end Gallery
