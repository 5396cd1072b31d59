-- Base64: three bytes as four symbols of six bits. The standard form is padded to whole groups;
-- the form for addresses has other symbols for the last two values and is not padded. Only what
-- encoding writes is accepted, so each text stands for one sequence of bytes.

namespace Gallery.Text.Base64

-- The symbols for the values 62 and 63.
inductive Alphabet where
  | standard
  | urlSafe
deriving DecidableEq, Repr

-- Why a text is not base64: a byte that may not stand where it does, a length that no bytes
-- have, a last symbol with bits left over, or padding that is missing or not allowed.
inductive DecodeError where
  | invalidByte (offset : Nat) (byte : UInt8)
  | invalidLength (length : Nat)
  | invalidLastSymbol (offset : Nat) (byte : UInt8)
  | invalidPadding
deriving DecidableEq, Repr

-- The byte that fills the last group: `=`.
def pad : UInt8 := 61

namespace Alphabet

-- The symbol of a value below 64.
def symbol (a : Alphabet) (value : Nat) : UInt8 :=
  if value < 26 then (65 + value).toUInt8
  else if value < 52 then (71 + value).toUInt8
  else if value < 62 then (value - 4).toUInt8
  else match a with
    | .standard => if value = 62 then 43 else 47
    | .urlSafe => if value = 62 then 45 else 95

def value? (a : Alphabet) (byte : UInt8) : Option Nat :=
  let n := byte.toNat
  if 65 ≤ n && n ≤ 90 then some (n - 65)
  else if 97 ≤ n && n ≤ 122 then some (n - 71)
  else if 48 ≤ n && n ≤ 57 then some (n + 4)
  else match a with
    | .standard => if n = 43 then some 62 else if n = 47 then some 63 else none
    | .urlSafe => if n = 45 then some 62 else if n = 95 then some 63 else none

end Alphabet

-- The text of some bytes, with its last group padded or not.
def encodeIn (a : Alphabet) (padded : Bool) : List UInt8 → List UInt8
  | [] => []
  | [x] =>
    a.symbol (x.toNat / 4) :: a.symbol (x.toNat % 4 * 16) :: if padded then [pad, pad] else []
  | [x, y] =>
    a.symbol (x.toNat / 4) :: a.symbol (x.toNat % 4 * 16 + y.toNat / 16)
      :: a.symbol (y.toNat % 16 * 4) :: if padded then [pad] else []
  | x :: y :: z :: rest =>
    a.symbol (x.toNat / 4) :: a.symbol (x.toNat % 4 * 16 + y.toNat / 16)
      :: a.symbol (y.toNat % 16 * 4 + z.toNat / 64) :: a.symbol (z.toNat % 64)
      :: encodeIn a padded rest

-- The standard text of some bytes, padded to whole groups.
def encode (bytes : List UInt8) : List UInt8 := encodeIn .standard true bytes

-- The text of some bytes for addresses, without padding.
def encodeUrlSafe (bytes : List UInt8) : List UInt8 := encodeIn .urlSafe false bytes

-- The bytes of two, three and four symbols, by their values.
def firstByte (a b : Nat) : UInt8 := (4 * a + b / 16).toUInt8

def secondByte (b c : Nat) : UInt8 := (16 * (b % 16) + c / 4).toUInt8

def thirdByte (c d : Nat) : UInt8 := (64 * (c % 4) + d).toUInt8

variable (alphabet : Alphabet)

def valueAt (offset : Nat) (byte : UInt8) : Except DecodeError Nat :=
  match alphabet.value? byte with
  | some v => .ok v
  | none => .error (.invalidByte offset byte)

-- A group of two symbols at an offset, with no bits left over.
def pair (offset : Nat) (b : UInt8) (x y : Nat) : Except DecodeError (List UInt8) :=
  if y % 16 = 0 then .ok [firstByte x y] else .error (.invalidLastSymbol (offset + 1) b)

-- A group of three symbols at an offset, with no bits left over.
def triple (offset : Nat) (c : UInt8) (x y z : Nat) : Except DecodeError (List UInt8) :=
  if z % 4 = 0 then .ok [firstByte x y, secondByte y z]
  else .error (.invalidLastSymbol (offset + 2) c)

-- The last group of a text at an offset: up to four bytes, of which the last two may be
-- padding.
def lastGroup (padded : Bool) (offset : Nat) :
    List UInt8 → Except DecodeError (List UInt8)
  | [] => .ok []
  | [a] => do
    let _ ← valueAt alphabet offset a
    .error (.invalidLength (offset + 1))
  | [a, b] => do
    let x ← valueAt alphabet offset a
    let y ← valueAt alphabet (offset + 1) b
    if padded then .error .invalidPadding else pair offset b x y
  | [a, b, c] => do
    let x ← valueAt alphabet offset a
    let y ← valueAt alphabet (offset + 1) b
    if c = pad then .error .invalidPadding
    else
      let z ← valueAt alphabet (offset + 2) c
      if padded then .error .invalidPadding else triple offset c x y z
  | a :: b :: c :: d :: _ => do
    let x ← valueAt alphabet offset a
    let y ← valueAt alphabet (offset + 1) b
    if c = pad then
      if d ≠ pad then .error (.invalidByte (offset + 2) c)
      else if padded then pair offset b x y
      else .error .invalidPadding
    else
      let z ← valueAt alphabet (offset + 2) c
      if d = pad then
        if padded then triple offset c x y z else .error .invalidPadding
      else
        let w ← valueAt alphabet (offset + 3) d
        .ok [firstByte x y, secondByte y z, thirdByte z w]

-- The groups of a text from an offset on; `done` holds the bytes read so far, the last
-- first.
def groups (padded : Bool) (offset : Nat) (done : List UInt8) :
    List UInt8 → Except DecodeError (List UInt8)
  | a :: b :: c :: d :: e :: rest => do
    let x ← valueAt alphabet offset a
    let y ← valueAt alphabet (offset + 1) b
    let z ← valueAt alphabet (offset + 2) c
    let w ← valueAt alphabet (offset + 3) d
    groups padded (offset + 4) (thirdByte z w :: secondByte y z :: firstByte x y :: done)
      (e :: rest)
  | group => do
    return done.reverse ++ (← lastGroup alphabet padded offset group)

-- The bytes of a text that is padded, or is not, to whole groups. A last byte outside of the
-- alphabet is reported first when it spoils the length.
def decodeWith (padded : Bool) (text : List UInt8) : Except DecodeError (List UInt8) :=
  match text.length % 4, text.getLast? with
  | 1, some last =>
    if last ≠ pad && (alphabet.value? last).isNone then
      .error (.invalidByte (text.length - 1) last)
    else if padded then .error (.invalidLength text.length)
    else groups alphabet padded 0 [] text
  | _, _ => groups alphabet padded 0 [] text

-- The bytes of standard padded text.
def decode (text : List UInt8) : Except DecodeError (List UInt8) :=
  decodeWith .standard true text

-- The bytes of text for addresses, which has no padding.
def decodeUrlSafe (text : List UInt8) : Except DecodeError (List UInt8) :=
  decodeWith .urlSafe false text

end Gallery.Text.Base64
