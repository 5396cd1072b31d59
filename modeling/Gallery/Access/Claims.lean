import Gallery.Access.PublicKey

-- What a token says: the header, which names the algorithm, and the claims about its owner.

namespace Gallery.Access

open Json

inductive Algorithm where
  | hmacSha256
  -- Any other algorithm that tokens can have.
  | other (name : String)
deriving DecidableEq, Repr

-- The claims of a token: whom it speaks for, until when, and since when.
structure TokenClaims where
  subject : String
  expiry : Int
  issuedAt : Option Int
deriving DecidableEq, Repr

namespace Algorithm

def choices : List (String × Algorithm) :=
  ("HS256", .hmacSha256) :: ["HS384", "HS512", "ES256", "ES384", "RS256", "RS384", "RS512",
    "PS256", "PS384", "PS512", "EdDSA"].map fun name => (name, .other name)

def textMember (name : String) : Reader.Member Algorithm :=
  .checked name .optional (Reader.option .text)

def members : List (Reader.Member Algorithm) :=
  [textMember "typ",
   .of "alg" .required (.variant choices) fun chosen _ => chosen,
   textMember "cty",
   textMember "jku",
   .checked "jwk" .optional (Reader.option (PublicKey.pass (Reader.maxDepth - 2))),
   textMember "kid",
   textMember "x5u",
   .checked "x5c" .optional (Reader.option (.list .text)),
   textMember "x5t",
   textMember "x5t#S256"]

-- The header of a token, of which only the algorithm is kept.
def headerReader : Reader Algorithm := Reader.record "Header" members .hmacSha256

end Algorithm

namespace TokenClaims

def toJson (c : TokenClaims) : Value :=
  .object ([("sub", .text c.subject), ("exp", .number c.expiry)]
    ++ Value.optional "iat" (c.issuedAt.map .number))

def members : List (Reader.Member TokenClaims) :=
  [.of "sub" .required .text fun s c => { c with subject := s },
   .of "exp" .required .signedWord fun n c => { c with expiry := n },
   .of "iat" .defaulted (.option .signedWord) fun n c => { c with issuedAt := n }]

def reader : Reader TokenClaims := Reader.record "JwtClaims" members ⟨"", 0, none⟩

end TokenClaims

-- What is validated of the claims, whatever else they are: an expiry that is a time, and whether
-- an audience is named.
structure ClaimChecks where
  expiry : Option Nat
  hasAudience : Bool

namespace ClaimChecks

-- The time that a value is, in seconds since 1970.
def timeOf : Value → Option Nat
  | .number n => if n < 0 then none else some n.toNat
  | _ => none

-- Of an array or object only the opening bracket is read, and the closing one if it follows.
def bracket (close : UInt8) : Reader (Option Nat) := do
  Reader.skip 1
  if (← Reader.peekWord) = some close then Reader.skip 1
  return none

-- A time, if the next value is one.
def time : Reader (Option Nat) := do
  match ← Reader.peekWord with
  | some 91 => bracket 93
  | some 123 => bracket 125
  | _ => return timeOf (← Reader.value 0)

-- A text or a list of texts names an audience.
def audience : Reader Bool := do
  let single ← Reader.lookAhead Reader.text
  let several ← Reader.lookAhead (Reader.list Reader.text)
  Reader.pass
  return single.isSome || several.isSome

def members : List (Reader.Member ClaimChecks) :=
  [.of "exp" .defaulted time fun t c => { c with expiry := t },
   .checked "nbf" .defaulted time,
   .checked "sub" .optional Reader.pass,
   .checked "iss" .optional Reader.pass,
   .of "aud" .optional audience fun b c => { c with hasAudience := b }]

def reader : Reader ClaimChecks := Reader.record "ClaimsForValidation" members ⟨none, false⟩

end ClaimChecks

end Gallery.Access
