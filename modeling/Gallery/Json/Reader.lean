import Gallery.Json.Fault
import Gallery.Text.Utf8

-- Reading JSON, as bytes, into values of a known type. A reader goes on in the text and knows how
-- far it has come, so that a fault can name the place where it was noticed.

namespace Gallery.Json

-- What is still to be read, and how many bytes have been.
structure Cursor where
  rest : List UInt8
  offset : Nat

-- A reader keeps its place when it fails.
abbrev Reader (α : Type) := EStateM Fault Cursor α

namespace Reader

variable {α : Type}

-- A fault whose place is not known yet.
def failSomewhere (cause : Cause) : Reader α := throw ⟨cause, none, []⟩

-- A fault that is noticed after what has been read.
def fail (cause : Cause) : Reader α := do throw ⟨cause, some (← get).offset, []⟩

-- A fault that is noticed at the next byte.
def failNext (cause : Cause) : Reader α := do
  let cursor ← get
  throw ⟨cause, some (if cursor.rest.isEmpty then cursor.offset else cursor.offset + 1), []⟩

-- A fault of this reader that has no place yet is given the place where the reader stopped.
def located (r : Reader α) : Reader α := fun cursor =>
  match r cursor with
  | .ok a after => .ok a after
  | .error fault after => .error { fault with offset := fault.offset.or (some after.offset) } after

-- The faults of this reader are in a part of the value.
def within (part : PathPart) (r : Reader α) : Reader α := fun cursor =>
  match r cursor with
  | .ok a after => .ok a after
  | .error fault after => .error { fault with path := part :: fault.path } after

-- The end of something is read also when its inside had a fault, which then counts.
def closedBy (close : Reader Unit) (inside : Reader α) : Reader α := fun cursor =>
  match inside cursor with
  | .ok a after =>
    match close after with
    | .ok _ after => .ok a after
    | .error fault after => .error fault after
  | .error fault after =>
    match close after with
    | .ok _ after => .error fault after
    | .error _ after => .error fault after

-- The next byte stays to be read.
def peek : Reader (Option UInt8) := return (← get).rest.head?

def skip (count : Nat) : Reader Unit :=
  modify fun cursor => ⟨cursor.rest.drop count, cursor.offset + (cursor.rest.take count).length⟩

def next : Reader (Option UInt8) := do
  let byte ← peek
  skip 1
  return byte

def isSpace (byte : UInt8) : Bool := byte = 32 || byte = 10 || byte = 9 || byte = 13

-- The next byte that is no blank.
def peekWord : Reader (Option UInt8) := do
  let spaces := (← get).rest.takeWhile isSpace
  skip spaces.length
  peek

-- The rest of a word whose first letter has been read.
def wordRest : List UInt8 → Reader Unit
  | [] => return ()
  | letter :: rest => do
    match ← next with
    | none => fail .endInValue
    | some byte => if byte = letter then wordRest rest else fail .expectedWord

-- A word of the language, which the next byte begins.
def word (text : String) : Reader Unit := do
  skip 1
  wordRest ((Text.utf8 text).drop 1)

end Reader

end Gallery.Json
