import Gallery.Json.Reader

-- Strings of JSON: what stands between two quotes, with its escapes.

namespace Gallery.Json

namespace Reader

-- A place in a string, and what is read from it on.
abbrev Step (α : Type) := Except (Cause × Nat) α

def hexValue? (byte : UInt8) : Option Nat :=
  let n := byte.toNat
  if 48 ≤ n && n ≤ 57 then some (n - 48)
  else if 97 ≤ n && n ≤ 102 then some (n - 87)
  else if 65 ≤ n && n ≤ 70 then some (n - 55)
  else none

-- The four digits of an escape by number.
def unit (offset : Nat) : List UInt8 → Step (Nat × List UInt8)
  | a :: b :: c :: d :: rest =>
    match hexValue? a, hexValue? b, hexValue? c, hexValue? d with
    | some w, some x, some y, some z => .ok (((w * 16 + x) * 16 + y) * 16 + z, rest)
    | _, _, _, _ => .error (.invalidEscape, offset + 4)
  | short => .error (.endInString, offset + short.length)

def isLow (n : Nat) : Bool := 0xdc00 ≤ n && n ≤ 0xdfff

def isHigh (n : Nat) : Bool := 0xd800 ≤ n && n ≤ 0xdbff

-- A character given by number, of which a pair of surrogates may be the halves.
def numbered (offset : Nat) (bytes : List UInt8) : Step (Char × Nat × List UInt8) := do
  let (n, rest) ← unit offset bytes
  let offset := offset + 4
  if isLow n then .error (.loneSurrogate, offset)
  else if !isHigh n then .ok (Char.ofNat n, offset, rest)
  else match rest with
    | [] => .error (.endInString, offset)
    | b :: rest =>
      if b ≠ 92 then .error (.unfinishedPair, offset + 1)
      else match rest with
        | [] => .error (.endInString, offset + 1)
        | u :: rest =>
          if u ≠ 117 then .error (.unfinishedPair, offset + 2)
          else do
            let (m, rest) ← unit (offset + 2) rest
            if isLow m then
              .ok (Char.ofNat (0x10000 + (n - 0xd800) * 1024 + (m - 0xdc00)), offset + 6, rest)
            else
              .error (.loneSurrogate, offset + 6)

-- What the escape after a backslash stands for.
def escape (offset : Nat) : List UInt8 → Step (Char × Nat × List UInt8)
  | [] => .error (.endInString, offset)
  | byte :: rest =>
    let simple (c : Char) : Step (Char × Nat × List UInt8) := .ok (c, offset + 1, rest)
    match Char.ofNat byte.toNat with
    | '"' => simple '"'
    | '\\' => simple '\\'
    | '/' => simple '/'
    | 'b' => simple '\x08'
    | 'f' => simple '\x0c'
    | 'n' => simple '\n'
    | 'r' => simple '\r'
    | 't' => simple '\t'
    | 'u' => numbered (offset + 1) rest
    | _ => .error (.invalidEscape, offset + 1)

-- The bytes up to the closing quote, with escapes resolved; `done` has those read so far, the
-- last first.
def stringFrom (offset : Nat) (done : List UInt8) (bytes : List UInt8) :
    Nat → Step (List UInt8 × Nat × List UInt8)
  | 0 => .error (.endInString, offset)
  | fuel + 1 =>
    match bytes with
    | [] => .error (.endInString, offset)
    | byte :: rest =>
      if byte = 34 then .ok (done.reverse, offset + 1, rest)
      else if byte = 92 then do
        let (c, offset, rest) ← escape (offset + 1) rest
        stringFrom offset ((String.utf8EncodeChar c).reverse ++ done) rest fuel
      else if byte < 32 then .error (.controlCharacter, offset + 1)
      else stringFrom (offset + 1) (byte :: done) rest fuel

-- The string that begins with the quote at which the reader stands.
def stringBody : Reader String := do
  let cursor ← get
  let bytes := cursor.rest.drop 1
  match stringFrom (cursor.offset + 1) [] bytes (bytes.length + 1) with
  | .error (cause, offset) => throw ⟨cause, some offset, []⟩
  | .ok (found, offset, rest) =>
    set (Cursor.mk rest offset)
    match Text.ofUtf8? ⟨found.toArray⟩ with
    | some s => return s
    | none => fail .invalidCodePoint

-- The escape after a backslash in a string that is passed over: an escape by number may stand
-- for half of a pair.
def passEscape (offset : Nat) : List UInt8 → Step (Nat × List UInt8)
  | 117 :: rest => do
    let (_, rest) ← unit (offset + 1) rest
    .ok (offset + 5, rest)
  | bytes => do
    let (_, offset, rest) ← escape offset bytes
    .ok (offset, rest)

def passFrom (offset : Nat) (bytes : List UInt8) : Nat → Step (Nat × List UInt8)
  | 0 => .error (.endInString, offset)
  | fuel + 1 =>
    match bytes with
    | [] => .error (.endInString, offset)
    | byte :: rest =>
      if byte = 34 then .ok (offset + 1, rest)
      else if byte = 92 then do
        let (offset, rest) ← passEscape (offset + 1) rest
        passFrom offset rest fuel
      else if byte < 32 then .error (.controlCharacter, offset)
      else passFrom (offset + 1) rest fuel

-- The string that begins with the quote at which the reader stands, whatever it is.
def passString : Reader Unit := do
  let cursor ← get
  let bytes := cursor.rest.drop 1
  match passFrom (cursor.offset + 1) bytes (bytes.length + 1) with
  | .error (cause, offset) => throw ⟨cause, some offset, []⟩
  | .ok (offset, rest) => set (Cursor.mk rest offset)

end Reader

end Gallery.Json
