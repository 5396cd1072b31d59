import Gallery.Json.Reader

-- Numbers of JSON. A whole number that fits into a word is kept as it is, and any other number is
-- a floating point one: the digits that fit into a word, scaled by a power of ten.

namespace Gallery.Json

-- The largest power of ten that one step scales by.
def maxScale : Nat := 308

-- A word scaled by a power of ten, in steps; none when it is too large.
def scale (x : Float) (exponent : Int) : Nat → Option Float
  | 0 => some x
  | fuel + 1 =>
    if exponent.natAbs ≤ maxScale then
      let power := Float.ofScientific 1 false exponent.natAbs
      if 0 ≤ exponent then
        let y := x * power
        if y.isInf then none else some y
      else some (x / power)
    else if x == 0.0 then some x
    else if 0 ≤ exponent then none
    else scale (x / Float.ofScientific 1 false maxScale) (exponent + maxScale) fuel

-- An unsigned number: the digits that were kept, as a word, and the power of ten that they are
-- to be multiplied with.
def floating (positive : Bool) (significand : Nat) (exponent : Int) : Option Number :=
  (scale significand.toUInt64.toFloat exponent (exponent.natAbs / maxScale + 2)).map fun x =>
    .floating (if positive then x else -x)

-- Digits are taken into the number as long as it fits into a word; their count is given, too.
def keepDigits (n count : Nat) : List UInt8 → Nat × Nat
  | [] => (n, count)
  | d :: rest =>
    let m := 10 * n + (d.toNat - 48)
    if m < 1 <<< 64 then keepDigits m (count + 1) rest else (n, count)

def isDigit (byte : UInt8) : Bool := 48 ≤ byte && byte ≤ 57

namespace Reader

def digits : Reader (List UInt8) := do
  let ds := (← get).rest.takeWhile isDigit
  skip ds.length
  return ds

def scaled (positive : Bool) (significand : Nat) (exponent : Int) : Reader Number :=
  match floating positive significand exponent with
  | some n => return n
  | none => fail .numberOutOfRange

-- The exponents that are told apart are below this.
def exponentLimit : Nat := 1 <<< 31

-- The sign of an exponent, if it has one: whether it is not negative.
def exponentSign : Reader Bool := do
  match ← peek with
  | some 43 => do
    skip 1
    return true
  | some 45 => do
    skip 1
    return false
  | _ => return true

-- The exponent that digits add up to, how many of them can be read before it becomes too large, and
-- whether these are all.
def exponentOf (e count : Nat) : List UInt8 → Nat × Nat × Bool
  | [] => (e, count, true)
  | d :: rest =>
    let e' := 10 * e + (d.toNat - 48)
    if e' < exponentLimit then exponentOf e' (count + 1) rest else (e, count + 1, false)

-- What follows the letter of an exponent.
def exponentPart (positive : Bool) (significand : Nat) (before : Int) : Reader Number := do
  skip 1
  let upward ← exponentSign
  match ← next with
  | none => fail .endInValue
  | some d =>
    if !isDigit d then fail .invalidNumber
    else
      let (e, count, whole) := exponentOf (d.toNat - 48) 0 ((← get).rest.takeWhile isDigit)
      skip count
      if whole then
        let exponent : Int := if upward then before + e else before - e
        scaled positive significand exponent
      else if significand ≠ 0 && upward then fail .numberOutOfRange
      else
        let _ ← digits
        return .floating (if positive then 0.0 else -0.0)

-- What follows the point of a number; `before` is the power of ten of the digits before it.
def fractionPart (positive : Bool) (significand : Nat) (before : Int) : Reader Number := do
  skip 1
  let ds ← digits
  if ds.isEmpty then
    match ← peek with
    | some _ => failNext .invalidNumber
    | none => failNext .endInValue
  else
    let (n, count) := keepDigits significand 0 ds
    let exponent := before - count
    match ← peek with
    | some 101 | some 69 => exponentPart positive n exponent
    | _ => scaled positive n exponent

def afterDigits (positive : Bool) (significand : Nat) (dropped : Nat) : Reader Number := do
  match ← peek with
  | some 46 => fractionPart positive significand dropped
  | some 101 | some 69 => exponentPart positive significand dropped
  | _ =>
    if dropped ≠ 0 then scaled positive significand dropped
    else if positive then return .natural significand
    else if significand = 0 || 1 <<< 63 < significand then
      return .floating (-significand.toUInt64.toFloat)
    else return .negative (-(significand : Int))

-- A number, without the sign that may have been before it.
def unsigned (positive : Bool) : Reader Number := do
  match ← next with
  | none => fail .endInValue
  | some d =>
    if d = 48 then
      match ← peek with
      | some e => if isDigit e then failNext .invalidNumber else afterDigits positive 0 0
      | none => afterDigits positive 0 0
    else if isDigit d then
      let ds ← digits
      let (n, count) := keepDigits 0 0 (d :: ds)
      afterDigits positive n (ds.length + 1 - count)
    else fail .invalidNumber

-- The number that the next byte begins.
def number : Reader Number := do
  if (← peek) = some 45 then
    skip 1
    unsigned false
  else
    unsigned true

-- A digit, and all that follow it.
def passDigits : Reader Unit := do
  match ← next with
  | some d => if isDigit d then discard digits else fail .invalidNumber
  | none => fail .invalidNumber

-- The digits before the point. Of more than one, none may be a zero in front.
def passWhole : Reader Unit := do
  if (← peek) = some 48 then
    skip 1
    if (← peek).any isDigit then failNext .invalidNumber
  else
    passDigits

def passFraction : Reader Unit := do
  if (← peek) = some 46 then
    skip 1
    if (← digits).isEmpty then failNext .invalidNumber

def passExponent : Reader Unit := do
  if (← peek) = some 101 || (← peek) = some 69 then
    skip 1
    discard exponentSign
    passDigits

-- A number, whatever it is.
def passNumber : Reader Unit := do
  if (← peek) = some 45 then skip 1
  passWhole
  passFraction
  passExponent

end Reader

end Gallery.Json
