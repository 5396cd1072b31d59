import Gallery.Url.Basic
import Gallery.Url.Domain
import Gallery.Url.Ipv4
import Gallery.Url.Ipv6

-- Hosts: addresses in numbers, and names. A host of the web is a domain name, or numbers that
-- stand for one; any other host is kept as it is written.

namespace Gallery.Url.Host

-- What stands between brackets.
def bracketed (cs : List Char) : Except UrlError (List Char) :=
  match cs.getLast? with
  | some ']' =>
    match Ipv6.ofText? cs.dropLast with
    | some address => .ok (['['] ++ address.text ++ [']'])
    | none => .error .invalidIpv6
  | _ => .error .invalidIpv6

-- A host of the web, as it is written in a URL.
def ofText (cs : List Char) : Except UrlError (List Char) :=
  match cs with
  | '[' :: rest => bracketed rest
  | _ =>
    let bytes := Text.percentDecode (String.ofList cs).toUTF8.data.toList
    match Domain.ascii? ⟨bytes.toArray⟩ with
    | none => .error .invalidDomain
    | some [] => .error .emptyHost
    | some name =>
      if Ipv4.isMeant name then
        match Ipv4.ofHost? name with
        | some address => .ok address.text
        | none => .error .invalidIpv4
      else .ok name

-- A host of another scheme may be any text without the characters that end a host.
def checkForeign (cs : List Char) : Except UrlError Unit :=
  match cs with
  | '[' :: rest => discard (bracketed rest)
  | _ =>
    if cs.any ("\x00\t\n\r #/:<>?@[\\]^|".toList.contains ·) then .error .forbiddenCharacter
    else .ok ()

end Gallery.Url.Host
