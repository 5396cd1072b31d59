import Gallery.Address
import Gallery.Url.Reading

-- The URLs that images and folders are found under: the public base URL of the service, the path
-- of its image routes, and the key of the image or of the folder.

namespace Gallery

def imageRoutes : String := "/api/v0/images"

-- Why a text cannot be the public base URL.
inductive BaseUrlError where
  | invalid (written : String) (e : UrlError)
  | scheme (found : String)
  | carriesMore

def BaseUrlError.message : BaseUrlError → String
  | .invalid written e => "Invalid public base URL '" ++ written ++ "': " ++ e.message
  | .scheme found => "Public base URL must use http or https, got '" ++ found ++ "'"
  | .carriesMore => "Public base URL must not carry a query or fragment"

-- Makes the URLs of images and folders. `root` is the public base URL without slashes at its
-- end.
structure ImageUrls where
  root : String

namespace ImageUrls

def withoutEndSlashes (cs : List Char) : List Char :=
  (cs.reverse.dropWhile (· == '/')).reverse

-- The URLs below a public base URL, which is an address of the web and ends with its path.
def ofBase (written : String) : Except BaseUrlError ImageUrls :=
  match Url.ofText (Text.trimChars written.toList) with
  | .error e => .error (.invalid written e)
  | .ok (.foreign scheme) => .error (.scheme scheme)
  | .ok (.located scheme authority path carriesMore) =>
    if scheme ≠ "http" ∧ scheme ≠ "https" then .error (.scheme scheme)
    else if carriesMore then .error .carriesMore
    else .ok ⟨String.ofList (withoutEndSlashes (Url.locatedText scheme authority path))⟩

def base (u : ImageUrls) : String := u.root ++ imageRoutes

def image (u : ImageUrls) (a : ImageAddress) : String := u.base ++ "/" ++ a.key

def folder (u : ImageUrls) (a : FolderAddress) : String := u.base ++ "/" ++ a.keyStart

end ImageUrls

end Gallery
