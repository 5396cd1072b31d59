import Gallery.Text.Blank
import Gallery.Time.Instant

-- Reading instants in the form of RFC 3339. Blanks around the parts and numbers with fewer digits
-- are accepted; the first thing that cannot be accepted decides what the fault is.

namespace Gallery

inductive TimeFault where
  | outOfRange
  | impossible
  | invalid
  | tooShort
  | tooLong
deriving DecidableEq, Repr

def TimeFault.message : TimeFault → String
  | .outOfRange => "input is out of range"
  | .impossible => "no possible date and time matching input"
  | .invalid => "input contains invalid characters"
  | .tooShort => "premature end of input"
  | .tooLong => "trailing input"

namespace Rfc3339

-- A reader of the front of a text, which gives what it read and the rest.
abbrev Reader (α : Type) := StateT (List Char) (Except TimeFault) α

private def skipBlanks : Reader Unit := modify (·.dropWhile Text.isBlank)

-- Between one and `most` digits, the value of which a signed word of 64 bits can hold.
private def number (most : Nat) : Reader Nat := do
  let cs ← get
  let digits := (cs.take most).takeWhile Char.isDigit
  match Text.digits? digits with
  | none => throw (if cs.isEmpty then .tooShort else .invalid)
  | some n =>
    if n < 1 <<< 63 then
      set (cs.drop digits.length)
      return n
    else
      throw .outOfRange

private def numberWithin (low high : Nat) : Reader Nat := do
  skipBlanks
  let n ← number 2
  if low ≤ n && n ≤ high then return n else throw .outOfRange

private def mark (c : Char) : Reader Unit := do
  skipBlanks
  match ← get with
  | [] => throw .tooShort
  | d :: rest => if c == d then set rest else throw .invalid

-- Four digits, or more with a sign in front.
private def year : Reader Int := do
  skipBlanks
  let cs ← get
  let value : Int ← match cs with
    | '-' :: rest => do
      set rest
      pure (-(← number rest.length : Nat) : Int)
    | '+' :: rest => do
      set rest
      pure (← number rest.length : Nat)
    | _ => do pure (← number 4 : Nat)
  if -0x80000000 ≤ value && value < 0x80000000 then return value else throw .outOfRange

-- The nanoseconds after a point; digits beyond the ninth do not count.
private def fraction : Reader Nat := do
  match ← get with
  | '.' :: rest =>
    set rest
    let n ← number 9
    let width := rest.length - (← get).length
    modify (·.dropWhile Char.isDigit)
    return n * Nat.pow 10 (9 - width)
  | _ => return 0

private def digit? (c : Char) : Option Nat := if c.isDigit then some (c.toNat - 48) else none

private def isColonOrBlank (c : Char) : Bool := c == ':' || Text.isBlank c

-- How many minutes the local time is ahead, up to 99 hours.
private def offsetMinutes (cs : List Char) : Except TimeFault (Nat × List Char) := do
  -- a character of more than one byte stands for two that are no digits
  let wide (rest : List Char) : Bool := rest.any fun c => 1 < c.utf8Size
  let (hours, cs) ← match cs with
    | a :: b :: rest =>
      match digit? a, digit? b with
      | some x, some y => pure (10 * x + y, rest)
      | _, _ => throw .invalid
    | short => throw (if wide short then .invalid else .tooShort)
  let cs := cs.dropWhile isColonOrBlank
  match cs with
  | a :: b :: rest =>
    match digit? a, digit? b with
    | some x, some y =>
      if x < 6 then return (60 * hours + 10 * x + y, rest) else throw .outOfRange
    | _, _ => throw .invalid
  | short => throw (if wide short then .invalid else .tooShort)

-- How many seconds the local time is ahead of universal time.
private def offset : Reader Int := do
  match ← get with
  | [] => throw .tooShort
  | c :: rest =>
    if c == 'Z' || c == 'z' then
      set rest
      return 0
    else if c == '+' || c == '-' || c == '\u2212' then
      let (minutes, rest) ← offsetMinutes rest
      set rest
      let seconds : Int := 60 * minutes
      return if c == '+' then seconds else -seconds
    else
      throw .invalid

-- The offset of a zone, or the name of universal time.
private def zone : Reader Int := do
  skipBlanks
  match ← get with
  | u :: t :: c :: rest =>
    if u.toLower == 'u' && t.toLower == 't' && c.toLower == 'c' then
      set rest
      return 0
    else
      offset
  | _ => offset

private def between : Reader Unit := do
  match ← get with
  | [] => throw .tooShort
  | c :: rest => if c == 't' || c == 'T' || c == ' ' then set rest else throw .invalid

private def instant : Reader Instant := do
  let year ← year
  mark '-'
  let month ← numberWithin 1 12
  mark '-'
  let day ← numberWithin 1 31
  between
  let hour ← numberWithin 0 23
  mark ':'
  let minute ← numberWithin 0 59
  mark ':'
  let second ← numberWithin 0 60
  let nano ← fraction
  skipBlanks
  let ahead ← zone
  skipBlanks
  if !(← get).isEmpty then throw .tooLong
  let date : Date := ⟨year, month, day⟩
  if !date.isValid then throw .outOfRange
  -- the second 60 is the second half of the second 59
  let (second, nano) :=
    if second = 60 then (59, nano + Instant.nanosPerSecond) else (second, nano)
  if ahead.natAbs ≥ 86400 then throw .outOfRange
  let timeOfDay : Int := (3600 * hour + 60 * minute + second : Nat)
  match Instant.ofUnix? (86400 * date.toDay + timeOfDay - ahead) nano with
  | some t => return t
  | none => throw .impossible

def read (text : String) : Except TimeFault Instant := instant.run' text.toList

end Rfc3339

end Gallery
