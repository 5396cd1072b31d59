import Gallery.Json.Decode

-- Keys in the header of a token. They are not used, but a header with a key that is none is
-- refused.

namespace Gallery.Access.PublicKey

open Json

private def algorithms : List String :=
  ["HS256", "HS384", "HS512", "ES256", "ES384", "RS256", "RS384", "RS512", "PS256", "PS384",
   "PS512", "EdDSA", "RSA1_5", "RSA-OAEP", "RSA-OAEP-256"]

private def curves : List String := ["P-256", "P-384", "P-521", "Ed25519"]

private def found : Value → Found
  | .null => .null
  | .boolean b => .boolean b
  | .number n => .number (if n < 0 then .negative n else .natural n.toNat)
  | .floating x => .number (.floating x)
  | .text s => .text s
  | .array _ => .sequence
  | .object _ => .object

private def text (v : Value) : Except Cause Unit :=
  match v with
  | .text _ => .ok ()
  | v => .error (.wrongType (found v) "a string")

private def texts (v : Value) : Except Cause Unit :=
  match v with
  | .array items => items.forM text
  | v => .error (.wrongType (found v) "a sequence")

private def algorithm (v : Value) : Except Cause Unit :=
  match v with
  | .text s => if algorithms.contains s then .ok () else .error (.unknownVariant s algorithms)
  | v => .error (.wrongType (found v) "string or map")

-- The members that every key can have, each of which may be null.
private def commonMembers : List (String × (Value → Except Cause Unit)) :=
  [("use", text), ("key_ops", texts), ("alg", algorithm), ("kid", text), ("x5u", text),
   ("x5c", texts), ("x5t", text), ("x5t#S256", text)]

private def checkCommon (seen : List String) : List (String × Value) → Except Cause Unit
  | [] => .ok ()
  | (name, v) :: rest =>
    match commonMembers.lookup name with
    | none => checkCommon seen rest
    | some check =>
      if seen.contains name then .error (.doubleMember name)
      else do
        match v with
        | .null => pure ()
        | v => check v
        checkCommon (name :: seen) rest

-- The members are those of a key of one of the four types.
def isKey (members : List (String × Value)) : Bool :=
  let only (name : String) : Option String :=
    match members.filter (·.1 == name) with
    | [(_, .text s)] => some s
    | _ => none
  let has (name : String) : Bool := (only name).isSome
  let curve : Bool := (only "crv").any curves.contains
  match only "kty" with
  | some "EC" => curve && has "x" && has "y"
  | some "RSA" => has "n" && has "e"
  | some "oct" => has "k"
  | some "OKP" => curve && has "x"
  | _ => false

private def noKey : Cause :=
  .refused "data did not match any variant of untagged enum AlgorithmParameters"

-- Reads over a key.
def pass (depth : Nat) : Reader Unit :=
  Reader.located do
    let members ← Reader.object "struct Jwk" (Reader.value depth)
    match checkCommon [] members with
    | .error cause => Reader.failSomewhere cause
    | .ok () => if isKey members then return () else Reader.failSomewhere noKey

end Gallery.Access.PublicKey
