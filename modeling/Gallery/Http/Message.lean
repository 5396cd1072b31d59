import Gallery.Json.Value
import Gallery.Text.Utf8

-- Requests and responses. Header names are in lower case; a header value is any bytes but control
-- characters, and is a text if all its characters are printable ASCII or tabs.

namespace Gallery.Http

abbrev Header := String × List UInt8

namespace Header

-- The byte may stand in a header value.
def isValueByte (b : UInt8) : Bool := b = 9 || (32 ≤ b && b ≠ 127)

-- The byte stands for a printable character of ASCII, or a tab.
def isPrintable (b : UInt8) : Bool := b = 9 || (32 ≤ b && b < 127)

def ofText (name value : String) : Header := (name, Text.utf8 value)

-- Characters of names, and of words in many headers: letters, digits and some signs.
def isTokenByte (b : UInt8) : Bool :=
  let c := Char.ofNat b.toNat
  c.isAlphanum || "!#$%&'*+-.^_\x60|~".toList.contains c

end Header

structure Request where
  method : String
  -- The path, without a query, as it was written.
  path : String
  headers : List Header
  body : List UInt8

namespace Request

-- The value of the first header of a name.
def header? (r : Request) (name : String) : Option (List UInt8) := r.headers.lookup name

-- The value of the first header of a name, if it is a text.
def textHeader? (r : Request) (name : String) : Option String := do
  let value ← r.header? name
  if value.all Header.isPrintable then
    some (String.ofList (value.map fun b => Char.ofNat b.toNat))
  else none

end Request

structure Response where
  status : Nat
  headers : List Header
  body : ByteArray

namespace Response

-- The response with a header, in the place of any others of its name.
def withHeader (r : Response) (h : Header) : Response :=
  { r with headers := h :: r.headers.filter (·.1 ≠ h.1) }

-- The response with a header, unless it has one of that name.
def withDefault (r : Response) (h : Header) : Response :=
  if r.headers.any (·.1 = h.1) then r else r.withHeader h

def empty (status : Nat) : Response := ⟨status, [], .empty⟩

def plain (status : Nat) (text : String) : Response :=
  ⟨status, [.ofText "content-type" "text/plain; charset=utf-8"], text.toUTF8⟩

def page (html : String) : Response :=
  ⟨200, [.ofText "content-type" "text/html; charset=utf-8"], html.toUTF8⟩

def json (status : Nat) (value : Json.Value) : Response :=
  ⟨status, [.ofText "content-type" "application/json"], value.render.toUTF8⟩

end Response

end Gallery.Http
