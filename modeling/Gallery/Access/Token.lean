import Gallery.Access.Claims
import Gallery.Access.Sha256
import Gallery.Segment
import Gallery.ServiceError
import Gallery.Text.Base64
import Gallery.Text.Blank

-- Bearer tokens. A token is a header, claims and a signature, joined by full stops; it is accepted
-- when the signature is the code of the first two parts under the secret, it has not expired, it
-- is for no other audience, and its subject can be an owner.

namespace Gallery.Access

open Json

inductive TokenError where
  | fewParts
  | base64 (cause : Text.Base64.DecodeError)
  | json (message : String)
  | algorithm
  | signature
  | noExpiry
  | expired
  | audience
  | subject (reason : SegmentError)

namespace TokenError

private def base64Message : Text.Base64.DecodeError → String
  | .invalidByte offset byte => s!"Invalid symbol {byte}, offset {offset}."
  | .invalidLength length => s!"Invalid input length: {length}"
  | .invalidLastSymbol offset byte => s!"Invalid last symbol {byte}, offset {offset}."
  | .invalidPadding => "Invalid padding"

def message : TokenError → String
  | .fewParts => "Invalid or expired token: InvalidToken"
  | .base64 cause => "Invalid or expired token: Base64 error: " ++ base64Message cause
  | .json message => "Invalid or expired token: JSON error: " ++ message
  | .algorithm => "Unsupported token algorithm"
  | .signature => "Invalid token signature"
  | .noExpiry => "Token is missing the exp claim"
  | .expired => "Token has expired"
  | .audience => "Invalid or expired token: InvalidAudience"
  | .subject reason => "Invalid token subject: " ++ reason.message

def toServiceError (e : TokenError) : ServiceError := .unauthorized e.message

end TokenError

namespace Token

-- The full stop.
def separator : UInt8 := 46

-- What is before the last full stop of some bytes, and what is after it.
def splitLast (bytes : List UInt8) : Option (List UInt8 × List UInt8) :=
  let reversed := bytes.reverse
  match reversed.dropWhile (· ≠ separator) with
  | [] => none
  | _ :: before => some (before.reverse, (reversed.takeWhile (· ≠ separator)).reverse)

def decoded (part : List UInt8) : Except TokenError (List UInt8) :=
  (Text.Base64.decodeUrlSafe part).mapError .base64

def parsed {α : Type} (r : Reader α) (text : List UInt8) : Except TokenError α :=
  (Reader.run r text).mapError fun fault => .json (fault.message text)

-- The owner that a token speaks for, at a time in seconds since 1970.
def verify (secret : String) (now : Int) (token : String) : Except TokenError Owner := do
  let (message, signature) ← (splitLast (Text.utf8 token)).elim (.error .fewParts) .ok
  let (header, payload) ← (splitLast message).elim (.error .fewParts) .ok
  let algorithm ← parsed Algorithm.headerReader (← decoded header)
  if algorithm ≠ .hmacSha256 then .error .algorithm
  else if signature ≠ Text.Base64.encodeUrlSafe (mac (Text.utf8 secret) message) then
    .error .signature
  else
    let text ← decoded payload
    let claims ← parsed TokenClaims.reader text
    let checks ← parsed ClaimChecks.reader text
    match checks.expiry with
    | none => .error .noExpiry
    | some expiry =>
      if (expiry : Int) < now then .error .expired
      else if checks.hasAudience then .error .audience
      else (Segment.parse .owner claims.subject).mapError .subject

end Token

-- The token in the value of an authorization header: what follows the word `bearer`, in letters
-- of either case, and a blank.
def bearerToken (header : String) : Option String :=
  let cs := Text.trimChars header.toList
  let scheme := cs.takeWhile (· ≠ ' ')
  match cs.dropWhile (· ≠ ' ') with
  | [] => none
  | _ :: rest =>
    if String.ofList (scheme.map Char.toLower) ≠ "bearer" then none
    else match Text.trimChars rest with
      | [] => none
      | token => some (String.ofList token)

end Gallery.Access
