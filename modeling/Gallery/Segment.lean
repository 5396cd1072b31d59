import Gallery.Text.Quoted

-- Segments: the words that owners, folders and images are called by. A segment can hold no
-- separator, no `..` and no NUL, so three of them joined by `/` name one image and no other.
-- `Segment.fault?` says why a text is refused, and the type `Segment` holds what is accepted.

namespace Gallery

-- The longest segment, in bytes.
def Segment.maxBytes : Nat := 255

inductive SegmentError where
  | empty
  | tooLong (bytes : Nat)
  | nullByte
  | traversal
  | separator
  | hidden
  | invalidCharacter (c : Char)
deriving DecidableEq, Repr

def SegmentError.message : SegmentError → String
  | .empty => "segment is empty"
  | .tooLong bytes =>
    "segment is " ++ toString bytes ++ " bytes long, the limit is " ++ toString Segment.maxBytes
  | .nullByte => "segment contains a NUL byte"
  | .traversal => "segment contains a '..' traversal sequence"
  | .separator => "segment contains a path separator"
  | .hidden => "segment starts with '.'"
  | .invalidCharacter c => "segment contains the disallowed character " ++ Text.quotedSingle c

-- What a segment says about an image.
inductive Coordinate where
  | owner
  | folder
  | name
deriving DecidableEq, Repr

namespace Segment

-- The characters a segment is made of: ASCII letters and digits, and `.`, `_`, `@`, `+`, `-`.
def allows (c : Char) : Bool :=
  c.isAlphanum || c == '.' || c == '_' || c == '@' || c == '+' || c == '-'

-- Two full stops in a row.
def hasTraversal : List Char → Bool
  | '.' :: '.' :: _ => true
  | _ :: rest => hasTraversal rest
  | [] => false

-- The reason to refuse a text, the most telling one first: `../x` is a traversal and not
-- merely a bad character.
def fault? (raw : String) : Option SegmentError :=
  let cs := raw.toList
  if cs.isEmpty then some .empty
  else if maxBytes < raw.utf8ByteSize then some (.tooLong raw.utf8ByteSize)
  else if cs.contains '\x00' then some .nullByte
  else if hasTraversal cs then some .traversal
  else if cs.contains '/' || cs.contains '\\' then some .separator
  else if cs.head? = some '.' then some .hidden
  else (cs.find? (!allows ·)).map .invalidCharacter

end Segment

-- A text that was accepted as a segment, with what it stands for.
structure Segment (role : Coordinate) where
  text : String
  accepted : Segment.fault? text = none
deriving DecidableEq

-- The identity that images belong to.
abbrev Owner := Segment .owner

-- A group of images of one owner; it exists once an image is stored in it.
abbrev Folder := Segment .folder

-- The name of an image in its folder.
abbrev ImageName := Segment .name

namespace Segment

-- A text as a segment, or the reason why it is none.
def parse (role : Coordinate) (raw : String) : Except SegmentError (Segment role) :=
  match h : fault? raw with
  | some e => .error e
  | none => .ok ⟨raw, h⟩

-- Parsing keeps the text.
theorem text_of_parse {role : Coordinate} {raw : String} {s : Segment role}
    (h : parse role raw = .ok s) : s.text = raw := by
  unfold parse at h
  split at h
  · cases h
  · cases h
    rfl

end Segment

end Gallery
