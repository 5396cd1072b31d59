-- Web addresses, and the reasons why a text is none. Two kinds are told apart: addresses of the
-- web, whose parts are known, and all others, of which the scheme alone is.

namespace Gallery

inductive UrlError where
  | noScheme
  | emptyHost
  | invalidPort
  | invalidIpv4
  | invalidIpv6
  | invalidDomain
  | forbiddenCharacter
deriving DecidableEq, Repr

def UrlError.message : UrlError → String
  | .noScheme => "relative URL without a base"
  | .emptyHost => "empty host"
  | .invalidPort => "invalid port number"
  | .invalidIpv4 => "invalid IPv4 address"
  | .invalidIpv6 => "invalid IPv6 address"
  | .invalidDomain => "invalid international domain name"
  | .forbiddenCharacter => "invalid domain character"

-- What a URL that is read at the web says before its path. The texts are written as they stand
-- in the URL.
structure UrlAuthority where
  credentials : List Char
  host : List Char
  port : Option Nat

inductive Url where
  -- One with an authority and a path of segments. `carriesMore` tells that a query or a fragment
  -- follows the path.
  | located (scheme : String) (authority : UrlAuthority) (path : List Char) (carriesMore : Bool)
  | foreign (scheme : String)

namespace Url

def scheme : Url → String
  | located scheme .. | foreign scheme => scheme

end Url

namespace UrlAuthority

def text (a : UrlAuthority) : List Char :=
  a.credentials ++ a.host ++ (match a.port with
    | some port => ':' :: Nat.toDigits 10 port
    | none => [])

end UrlAuthority

end Gallery
