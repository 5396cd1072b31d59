import Gallery.Text.Blank
import Gallery.Url.Host
import Gallery.Url.Path

-- Reading a URL: its scheme, then for a scheme of the web the credentials, the host, the port and
-- the path. Controls and spaces at the ends are passed over, and tabs and line ends everywhere.

namespace Gallery.Url

-- How schemes differ: those of the web, that of files, and all others.
inductive Kind where
  | web
  | file
  | foreign
deriving DecidableEq

private def defaultPort : String → Option Nat
  | "http" | "ws" => some 80
  | "https" | "wss" => some 443
  | "ftp" => some 21
  | _ => none

def Kind.of (scheme : String) : Kind :=
  if scheme = "file" then .file
  else if (defaultPort scheme).isSome then .web
  else .foreign

-- The characters that end an authority.
def Kind.ends (kind : Kind) (c : Char) : Bool :=
  c == '/' || c == '?' || c == '#' || (c == '\\' && kind != .foreign)

private def isScheme (c : Char) : Bool := c.isAlphanum || c == '+' || c == '-' || c == '.'

-- A scheme and what follows its colon.
private def splitScheme (cs : List Char) : Except UrlError (String × List Char) :=
  match cs.takeWhile isScheme, cs.dropWhile isScheme with
  | first :: others, ':' :: rest =>
    if first.isAlpha then .ok (String.ofList ((first :: others).map Char.toLower), rest)
    else .error .noScheme
  | _, _ => .error .noScheme

-- The characters of credentials that stand for themselves.
def keepsInCredentials (c : Char) : Bool :=
  Path.keeps c && !"/:;=@[\\]^|".toList.contains c

-- A user and a password, with `@` after them if there is either.
def credentials (cs : List Char) : List Char :=
  let user := Text.percentEncode keepsInCredentials (cs.takeWhile (· != ':'))
  let password := Text.percentEncode keepsInCredentials ((cs.dropWhile (· != ':')).drop 1)
  let password := if password.isEmpty then [] else ':' :: password
  if user.isEmpty && password.isEmpty then [] else user ++ password ++ ['@']

-- The credentials of an authority as they are written, and what follows their `@`.
def splitCredentials (kind : Kind) (cs : List Char) :
    Except UrlError (List Char × List Char) :=
  let authority := cs.takeWhile (!kind.ends ·)
  let afterAt := authority.reverse.takeWhile (· != '@')
  if afterAt.length = authority.length then .ok ([], cs)
  else
    let written := authority.take (authority.length - afterAt.length - 1)
    let rest := cs.drop (written.length + 1)
    if written.isEmpty && rest.head?.any kind.ends then .error .emptyHost
    else .ok (credentials written, rest)

-- The characters of a host: up to what ends the authority, or a colon outside brackets.
private def hostPart (kind : Kind) (inBrackets : Bool) : List Char → List Char
  | [] => []
  | c :: rest =>
    if kind.ends c || (c == ':' && !inBrackets) then []
    else c :: hostPart kind (c == '[' || (inBrackets && c != ']')) rest

-- The port after a host and what follows it; the port that the scheme implies is left out.
def readPort (scheme : String) (cs : List Char) :
    Except UrlError (Option Nat × List Char) :=
  match cs with
  | ':' :: rest =>
    let digits := rest.takeWhile Char.isDigit
    let rest := rest.dropWhile Char.isDigit
    let port := digits.foldl (fun n c => 10 * n + (c.toNat - 48)) 0
    if 65535 < port || !rest.head?.all (Kind.web.ends ·) then .error .invalidPort
    else .ok (if digits.isEmpty || defaultPort scheme = some port then none else some port, rest)
  | _ => .ok (none, cs)

-- Reads what follows the slashes of a scheme of the web.
def readLocated (scheme : String) (cs : List Char) : Except UrlError Url := do
  let (credentials, rest) ← splitCredentials .web cs
  let written := hostPart .web false rest
  if written.isEmpty then .error .emptyHost
  else
    let host ← Host.ofText written
    let (port, rest) ← readPort scheme (rest.drop written.length)
    let isPath (c : Char) : Bool := c != '?' && c != '#'
    .ok (.located scheme ⟨credentials, host, port⟩ (Path.ofText (rest.takeWhile isPath))
      (rest.any (!isPath ·)))

-- Checks what follows the slashes of another scheme.
private def checkForeign (scheme : String) (cs : List Char) : Except UrlError Unit := do
  let (credentials, rest) ← splitCredentials .foreign cs
  let written := hostPart .foreign false rest
  Host.checkForeign written
  let rest := rest.drop written.length
  if written.isEmpty && rest.head? = some ':' then .error .emptyHost
  else
    discard (readPort scheme rest)
    if written.isEmpty && !credentials.isEmpty then .error .emptyHost else .ok ()

-- Checks the host of a file. A drive is no host, and a file need not have one.
private def checkFile (cs : List Char) : Except UrlError Unit :=
  match cs with
  | a :: b :: rest =>
    if (a == '/' || a == '\\') && (b == '/' || b == '\\') then
      let written := rest.takeWhile (!Kind.file.ends ·)
      let isDrive := match written with
        | [letter, mark] => letter.isAlpha && (mark == ':' || mark == '|')
        | _ => false
      if written.isEmpty || isDrive then .ok () else discard (Host.ofText written)
    else .ok ()
  | _ => .ok ()

-- The characters that count.
private def significant (cs : List Char) : List Char :=
  let isEdge (c : Char) : Bool := c.toNat ≤ 32
  (((cs.dropWhile isEdge).reverse.dropWhile isEdge).reverse).filter
    fun c => c != '\t' && c != '\n' && c != '\r'

def ofText (cs : List Char) : Except UrlError Url := do
  let (scheme, rest) ← splitScheme (significant cs)
  match Kind.of scheme with
  | .web => readLocated scheme (rest.dropWhile fun c => c == '/' || c == '\\')
  | .file =>
    checkFile rest
    .ok (.foreign scheme)
  | .foreign =>
    match rest with
    | '/' :: '/' :: rest => checkForeign scheme rest
    | _ => .ok ()
    .ok (.foreign scheme)

-- A URL of the web without what follows its path.
def locatedText (scheme : String) (authority : UrlAuthority) (path : List Char) : List Char :=
  scheme.toList ++ "://".toList ++ authority.text ++ path

end Gallery.Url
