-- Request targets: a path with a query, or a whole URI of which the path counts. A target holds no
-- characters that belong in percent encoding, and no fragment is looked at.

namespace Gallery.Http

inductive TargetError where
  | empty
  | tooLong
  | character
  | scheme
  | authority
  | format
deriving DecidableEq, Repr

def TargetError.message : TargetError → String
  | .empty => "empty string"
  | .tooLong => "uri too long"
  | .character => "invalid uri character"
  | .scheme => "scheme too long"
  | .authority => "invalid authority"
  | .format => "invalid format"

namespace Target

-- The characters that a path is made of; a few that belong in percent encoding are let through.
def isPathChar (c : Char) : Bool :=
  let n := c.toNat
  n == 0x21 || n == 0x22 || (0x24 ≤ n && n ≤ 0x3b) || n == 0x3d || (0x40 ≤ n && n ≤ 0x5f)
    || (0x61 ≤ n && n ≤ 0x7e) || 0x7f ≤ n

private def isQueryChar (c : Char) : Bool :=
  let n := c.toNat
  n == 0x21 || (0x24 ≤ n && n ≤ 0x3b) || n == 0x3d || 0x3f ≤ n

-- The path at the front, once the query after it has been looked at.
def readPath (cs : List Char) : Except TargetError (List Char) :=
  let path := cs.takeWhile fun c => c != '?' && c != '#'
  let query := match cs.drop path.length with
    | '?' :: rest => rest.takeWhile (· != '#')
    | _ => []
  if path.all isPathChar && query.all isQueryChar then .ok path else .error .character

private def isSchemeChar (c : Char) : Bool :=
  c.isAlphanum || c == '+' || c == '-' || c == '.' || c == '~'

-- What follows a scheme and `://`, if the text begins so.
private def afterScheme? (cs : List Char) : Except TargetError (Option (List Char)) :=
  match cs.dropWhile isSchemeChar with
  | ':' :: '/' :: '/' :: rest =>
    if 64 < (cs.takeWhile isSchemeChar).length then .error .scheme else .ok (some rest)
  | _ => .ok none

private def isAuthorityChar (c : Char) : Bool :=
  c.isAlphanum || "!$&'()*+,-.:;=@[]_~".toList.contains c

-- What has been seen of an authority: colons since the last bracket or sign of a user, brackets,
-- and whether a percent sign or nothing at all follows the user.
private structure Seen where
  colons : Nat
  opened : Bool
  closed : Bool
  percent : Bool
  atSign : Bool

private def see (s : Seen) (c : Char) : Except TargetError Seen :=
  if c = ':' then
    if 8 ≤ s.colons then .error .authority
    else .ok { s with colons := s.colons + 1, atSign := false }
  else if c = '[' then
    if s.percent || s.opened then .error .authority
    else .ok { s with opened := true, atSign := false }
  else if c = ']' then
    if !s.opened || s.closed then .error .authority
    else .ok { s with closed := true, colons := 0, percent := false, atSign := false }
  else if c = '@' then .ok { s with colons := 0, percent := false, atSign := true }
  else if c = '%' then .ok { s with percent := true, atSign := false }
  else if isAuthorityChar c then .ok { s with atSign := false }
  else .error .character

-- The authority at the front, and what follows it.
private def splitAuthority (cs : List Char) : Except TargetError (List Char × List Char) := do
  let isEnd (c : Char) : Bool := c == '/' || c == '?' || c == '#'
  let authority := cs.takeWhile (!isEnd ·)
  let s ← authority.foldlM see ⟨0, false, false, false, false⟩
  if s.opened != s.closed || 1 < s.colons || s.atSign || s.percent then .error .authority
  else .ok (authority, cs.drop authority.length)

-- The path of a request target. A URI without a path has the path `/`; an authority alone has
-- none.
def path (target : String) : Except TargetError String := do
  let cs := target.toList
  if 65534 < target.utf8ByteSize then .error .tooLong
  else match cs with
    | [] => .error .empty
    | ['*'] => .ok "*"
    | '/' :: _ => return String.ofList (← readPath cs)
    | _ =>
      match ← afterScheme? cs with
      | none =>
        let (_, rest) ← splitAuthority cs
        if rest.isEmpty then .ok ""
        else .error (if cs.length = 1 then .character else .format)
      | some rest =>
        let (authority, rest) ← splitAuthority rest
        if authority.isEmpty then .error .format
        else
          let path ← readPath rest
          return if path.isEmpty then "/" else String.ofList path

end Target

end Gallery.Http
