import Gallery.Http.Message

-- Which pages of other origins may use the service. A browser asks with the method `OPTIONS`, and
-- reads the answer off headers that each other response has too.

namespace Gallery.Http

-- The origins whose pages may use the service.
inductive Origins where
  | any
  | listed (values : List (List UInt8))

namespace Origins

-- The origins that a list of texts names; a star stands for all of them. The error is the first
-- text that no header can hold.
def ofTexts (texts : List String) : Except String Origins :=
  if texts.contains "*" then .ok .any
  else match texts.find? fun text => !(Text.utf8 text).all Header.isValueByte with
    | some text => .error text
    | none => .ok (.listed (texts.map Text.utf8))

-- The origin that is named as allowed in the response to a request.
def allowed? (o : Origins) (r : Request) : Option (List UInt8) :=
  match o with
  | .any => some (Text.utf8 "*")
  | .listed values => (r.header? "origin").filter values.contains

-- What the response depends on besides the path.
def vary : Header :=
  .ofText "vary" "origin, access-control-request-method, access-control-request-headers"

def common (o : Origins) (r : Request) : List Header :=
  vary :: ((o.allowed? r).map fun origin => ("access-control-allow-origin", origin)).toList

-- The answer to the question of a browser.
def preflight (o : Origins) (r : Request) : Response where
  status := 200
  headers :=
    [.ofText "access-control-allow-methods" "GET,HEAD,PUT,OPTIONS",
     .ofText "access-control-allow-headers" ("accept,accept-encoding,authorization,"
        ++ "content-length,content-type,x-requested-with,x-csrf-token,x-api-key,x-request-id")]
    ++ common o r
  body := .empty

-- A response to a request, with the headers that say who may read it.
def mark (o : Origins) (r : Request) (response : Response) : Response :=
  { response with
    headers := .ofText "access-control-expose-headers" "x-request-id" :: common o r
      ++ response.headers }

end Origins

end Gallery.Http
