import Gallery.Http.MediaType
import Gallery.Text.Quoted

-- Bodies in parts. A boundary stands before each part and after the last one; a part has headers,
-- an empty line and a content. `Parts` is what a body comes to: its parts in order, up to the end
-- or up to what is wrong with it.

namespace Gallery.Http

structure PartHead where
  name : Option String
  mediaType : Option MediaType

inductive MultipartError where
  | headers
  | incompleteStream
  | incompletePart (name : Option String)

def MultipartError.message : MultipartError → String
  | .headers => "failed to read headers"
  | .incompleteStream => "incomplete multipart stream"
  | .incompletePart name =>
    "field " ++ Text.quoted (name.getD "<unknown>") ++ " received with incomplete data"

inductive Parts where
  | done
  | failed (e : MultipartError)
  -- A part whose content does not end.
  | cut (head : PartHead)
  | part (head : PartHead) (content : List UInt8) (rest : Parts)

namespace Parts

-- Well-formed parts, one after the other.
def ofList : List (PartHead × List UInt8) → Parts
  | [] => done
  | (head, content) :: rest => part head content (ofList rest)

end Parts

namespace Multipart

private def lineEnd : List UInt8 := [13, 10]

private def dashes : List UInt8 := [45, 45]

private def quoteMark : UInt8 := 34

private def isBlank (b : UInt8) : Bool := b = 32 || b = 9

-- What stands before the first place of a pattern, and what stands after it; `before` is what
-- has been passed, last byte first.
private def splitFirst (pattern before : List UInt8) : List UInt8 → Option (List UInt8 × List UInt8)
  | [] => if pattern.isEmpty then some (before.reverse, []) else none
  | b :: rest =>
    if pattern.isPrefixOf (b :: rest) then
      some (before.reverse, (b :: rest).drop pattern.length)
    else splitFirst pattern (b :: before) rest

private def lowerByte (b : UInt8) : UInt8 := if 65 ≤ b && b ≤ 90 then b + 32 else b

-- The bytes without the blanks at their end.
private def withoutEndBlanks (bytes : List UInt8) : List UInt8 :=
  (bytes.reverse.dropWhile isBlank).reverse

-- The headers that a block of lines holds, up to an empty line; there are at most so many.
private def readHeaders : Nat → List UInt8 → Option (List (List UInt8 × List UInt8))
  | _, [] => none
  | _, 13 :: 10 :: _ => some []
  | _, 10 :: _ => some []
  | 0, _ => none
  | most + 1, line =>
    let name := line.takeWhile Header.isTokenByte
    match name, line.drop name.length with
    | _ :: _, 58 :: rest =>
      let rest := rest.dropWhile isBlank
      let value := rest.takeWhile Header.isValueByte
      let following := match rest.drop value.length with
        | 13 :: 10 :: rest => some rest
        | 10 :: rest => some rest
        | _ => none
      following.bind fun rest =>
        (readHeaders most rest).map ((name.map lowerByte, withoutEndBlanks value) :: ·)
    | _, _ => none

-- The value of the last header of a name.
private def header? (headers : List (List UInt8 × List UInt8)) (name : String) :
    Option (List UInt8) :=
  headers.reverse.lookup (Text.utf8 name)

private def isSpace (b : UInt8) : Bool := b = 32 || (9 ≤ b && b ≤ 13 && b ≠ 11)

-- What follows a byte, with spaces before it.
private def after? (byte : UInt8) (bytes : List UInt8) : Option (List UInt8) :=
  match bytes.dropWhile isSpace with
  | b :: rest => if b = byte then some rest else none
  | [] => none

-- A text up to its closing quote. A quote after a backslash does not close it, but the first of
-- all does; the flag tells whether there was such a quote.
private def quotedPart (done : List UInt8) (escaped : Bool) :
    List UInt8 → Option (List UInt8 × Bool)
  | [] => none
  | b :: rest =>
    if b = quoteMark then
      if done.head? = some 92 then quotedPart (b :: done) true rest
      else some (done.reverse, escaped)
    else quotedPart (b :: done) escaped rest

private def unescaped : List Char → List Char
  | '\\' :: '"' :: rest => '"' :: unescaped rest
  | c :: rest => c :: unescaped rest
  | [] => []

-- The value that follows `name` in a header.
private def nameValue (bytes : List UInt8) : Option String := do
  let rest ← after? 61 bytes
  let (value, escaped) ←
    match after? quoteMark rest with
    | some rest => quotedPart [] false rest
    | none => some ((rest.dropWhile isSpace).takeWhile fun b => b ≠ 59 && b ≠ 32, false)
  let text ← Text.ofUtf8? ⟨value.toArray⟩
  return if escaped then String.ofList (unescaped text.toList) else text

-- The name that a disposition gives to a part; `previous` is the byte before. The word `name` may
-- be the end of another word, which is passed over.
private def nameOf (previous : Option UInt8) : List UInt8 → Option String
  | [] => none
  | b :: rest =>
    if (Text.utf8 "name").isPrefixOf (b :: rest) then
      if previous.all fun p => isSpace p || p = 59 then nameValue (rest.drop 3)
      else nameOf none (rest.drop 3)
    else nameOf (some b) rest
termination_by bytes => bytes.length
decreasing_by
  · simp only [List.length_drop, List.length_cons]
    omega
  · simp

private def headOf (headers : List (List UInt8 × List UInt8)) : PartHead where
  name := (header? headers "content-disposition").bind (nameOf none)
  mediaType := do
    let value ← header? headers "content-type"
    if value.all Header.isPrintable then
      MediaType.ofText? (String.ofList (value.map fun b => Char.ofNat b.toNat))
    else none

def maxHeaders : Nat := 32

-- The parts after a boundary.
private def partsAfter (boundary : List UInt8) : Nat → List UInt8 → Parts
  | 0, _ => .failed .incompleteStream
  | fuel + 1, bytes =>
    if dashes.isPrefixOf bytes then .done
    else match bytes.dropWhile isBlank with
      | 13 :: 10 :: rest =>
        match splitFirst (lineEnd ++ lineEnd) [] rest with
        | none => .failed .incompleteStream
        | some (block, rest) =>
          match readHeaders maxHeaders (block ++ lineEnd ++ lineEnd) with
          | none => .failed .headers
          | some headers =>
            let head := headOf headers
            match splitFirst (lineEnd ++ dashes ++ boundary) [] rest with
            | none => .cut head
            | some (content, rest) => .part head content (partsAfter boundary fuel rest)
      | _ => .failed .incompleteStream

-- The parts of a body with the given boundary. What stands before the first boundary and after
-- the last one does not count.
def read (boundary : String) (body : List UInt8) : Parts :=
  let boundary := Text.utf8 boundary
  match splitFirst (dashes ++ boundary) [] body with
  | none => .failed .incompleteStream
  | some (_, rest) => partsAfter boundary (rest.length + 1) rest

end Multipart

end Gallery.Http
