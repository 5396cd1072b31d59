import Gallery.Http.Message

-- Media types, such as `multipart/form-data; boundary=x`: a type, a subtype perhaps with a suffix,
-- and parameters.

namespace Gallery.Http

-- A media type. All of it is in lower case but the values of parameters.
structure MediaType where
  type : String
  subtype : String
  -- What follows the last `+` of the subtype.
  suffix : Option String
  parameters : List (String × String)
  -- The whole of it as it was written, but for letters that count in either case.
  written : String

namespace MediaType

private def isToken (c : Char) : Bool := c.toNat < 128 && Header.isTokenByte c.toNat.toUInt8

private def isQuotable (c : Char) : Bool := 31 < c.toNat && c.toNat ≠ 127

-- A value in quotes, after the first quote; there is no empty one.
private def quotedValue : List Char → Option (List Char × List Char)
  | [] => none
  | first :: rest =>
    let more := rest.takeWhile fun c => c != '"' && isQuotable c
    match rest.drop more.length with
    | '"' :: rest =>
      if !isQuotable first then none
      else match rest.dropWhile (· == ' ') with
        | [] => some (first :: more, [])
        | ';' :: rest => some (first :: more, rest)
        | _ => none
    | _ => none

-- The value of a parameter, and the parameters after it.
private def value : List Char → Option (List Char × List Char)
  | '"' :: rest => quotedValue rest
  | cs =>
    match cs.takeWhile isToken, cs.dropWhile isToken with
    | v, [] => some (v, [])
    | v, ';' :: rest => if v.isEmpty then none else some (v, rest)
    | _, _ => none

private def lower (cs : List Char) : String := String.ofList (cs.map Char.toLower)

-- The parameters after a semicolon, and how they were written. Blanks may stand before each. The
-- value of a character set counts in either case.
private def readParameters : Nat → List Char → Option (List (String × String) × List Char)
  | 0, _ => some ([], [])
  | fuel + 1, cs =>
    let blanks := cs.takeWhile (· == ' ')
    match cs.drop blanks.length with
    | [] => some ([], blanks)
    | cs =>
      let name := cs.takeWhile isToken
      match name, cs.drop name.length with
      | _ :: _, '=' :: rest => do
        let (v, after) ← value rest
        let (parameters, written) ← readParameters fuel after
        let name := lower name
        let fold := if name = "charset" then lower else String.ofList
        let source := fold (rest.take (rest.length - after.length))
        return ((name, fold v) :: parameters,
          blanks ++ name.toList ++ '=' :: source.toList ++ written)
      | _, _ => none

def ofText? (text : String) : Option MediaType :=
  let cs := text.toList
  let type := cs.takeWhile isToken
  match type, cs.drop type.length with
  | _ :: _, '/' :: rest =>
    let whole := rest.takeWhile isToken
    let withParameters (parameters : List (String × String)) (written : List Char) : MediaType :=
      let last := (whole.reverse.takeWhile (· != '+')).reverse
      let before := whole.take (whole.length - last.length - 1)
      let written := lower type ++ "/" ++ lower whole ++ String.ofList written
      if before.isEmpty then ⟨lower type, lower whole, none, parameters, written⟩
      else ⟨lower type, lower before, some (lower last), parameters, written⟩
    match rest.drop whole.length with
    | [] => some (withParameters [] [])
    | ';' :: rest =>
      if whole.isEmpty then none
      else match readParameters (rest.length + 1) rest with
        | some ([], _) => some (withParameters [] [])
        | some (parameters, written) => some (withParameters parameters (';' :: written))
        | none => none
    | _ => none
  | _, _ => none

def parameter? (m : MediaType) (name : String) : Option String := m.parameters.lookup name

-- JSON, or a format that is written in JSON.
def isJson (m : MediaType) : Bool :=
  m.type == "application" && (m.subtype == "json" || m.suffix == some "json")

def isForm (m : MediaType) : Bool :=
  m.type == "multipart" && m.subtype == "form-data"

end MediaType

def Request.mediaType? (r : Request) : Option MediaType :=
  (r.textHeader? "content-type").bind MediaType.ofText?

end Gallery.Http
