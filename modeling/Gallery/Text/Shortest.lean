import Gallery.Text.Number

-- The shortest decimal text of a floating point number: the fewest digits that read back as the
-- number and, of those, the nearest to it.

namespace Gallery.Text

-- A finite positive number: `significand * 2 ^ exponent`. The numbers that round to it lie within
-- half a step of its neighbours; `narrow` says that the step below is half the step above, and the
-- ends belong to the interval when the significand is even.
structure Binary where
  significand : Nat
  exponent : Int
  narrow : Bool

namespace Binary

-- The number with the given bits, without its sign; none for infinities, for what is no number
-- and for zero.
def ofBits? (bits : Nat) : Option Binary :=
  let fraction : Nat := bits % (1 <<< 52)
  let biased : Nat := (bits >>> 52) % (1 <<< 11)
  if biased = 2047 || (biased = 0 && fraction = 0) then none
  else if biased = 0 then some ⟨fraction, -1074, false⟩
  else some ⟨(1 <<< 52) + fraction, (biased : Int) - 1075, fraction = 0 && biased ≠ 1⟩

-- A fourth of the number's step is the unit in which the bounds of its interval are whole.
private def inUnits (b : Binary) (n : Nat) : Nat × Nat :=
  let shift := b.exponent - 2
  if 0 ≤ shift then (n <<< shift.toNat, 1) else (n, 1 <<< (-shift).toNat)

-- The number as a quotient.
def quotient (b : Binary) : Nat × Nat := b.inUnits (4 * b.significand)

-- The quotient at `n` lies in the interval of the numbers that round to this one.
def roundsHere (b : Binary) (numerator denominator : Nat) : Bool :=
  let (low, d) := b.inUnits (4 * b.significand - if b.narrow then 1 else 2)
  let (high, _) := b.inUnits (4 * b.significand + 2)
  if b.significand % 2 = 0 then
    low * denominator ≤ numerator * d && numerator * d ≤ high * denominator
  else
    low * denominator < numerator * d && numerator * d < high * denominator

-- The power of ten that the first digit of a quotient stands for.
def leadingPower (numerator denominator : Nat) : Int :=
  if denominator ≤ numerator then (Nat.toDigits 10 (numerator / denominator)).length - 1
  else -(Nat.toDigits 10 ((denominator - 1) / numerator)).length

-- The neighbours of the number on the grid of the multiples of `10 ^ power`, as far as they round
-- to it; the nearer one, or the even one of two that are equally near.
private def onGrid (b : Binary) (power : Int) : Option Nat :=
  let (n, d) := b.quotient
  let (n, d) :=
    if 0 ≤ power then (n, d * Nat.pow 10 power.toNat) else (n * Nat.pow 10 (-power).toNat, d)
  let rounds (k : Nat) : Bool :=
    if 0 ≤ power then b.roundsHere (k * Nat.pow 10 power.toNat) 1
    else b.roundsHere k (Nat.pow 10 (-power).toNat)
  let below := n / d
  let fraction := n % d
  match rounds below, rounds (below + 1) with
  | true, true =>
    if 2 * fraction < d || (2 * fraction = d && below % 2 = 0) then some below
    else some (below + 1)
  | true, false => some below
  | false, true => some (below + 1)
  | false, false => none

private def digitsFrom (b : Binary) (lead : Int) : Nat → Nat → Nat × Int
  | _, 0 => (0, 0)
  | count, fuel + 1 =>
    let power : Int := lead - (count : Int) + 1
    match onGrid b power with
    | some k => if k = 0 then digitsFrom b lead (count + 1) fuel else (k, power)
    | none => digitsFrom b lead (count + 1) fuel

-- The shortest decimal that reads back as the number: a whole number and the power of ten that
-- it is multiplied with. Seventeen digits are always enough.
def shortest (b : Binary) : Nat × Int :=
  let (n, d) := b.quotient
  digitsFrom b (leadingPower n d) 1 17

end Binary

-- The numbers between these powers of ten are written without an exponent.
def plainPowers : Int × Int := (-5, 15)

-- A decimal, given by its digits and the power of ten of the first one.
private def writeDecimal (digits : List Char) (lead : Int) : List Char :=
  if plainPowers.1 ≤ lead && lead ≤ plainPowers.2 then
    if lead < 0 then
      '0' :: '.' :: List.replicate (-lead - 1).toNat '0' ++ digits
    else
      let whole := digits.take (lead.toNat + 1)
      let part := digits.drop (lead.toNat + 1)
      whole ++ List.replicate (lead.toNat + 1 - whole.length) '0'
        ++ '.' :: if part.isEmpty then ['0'] else part
  else
    let part := digits.drop 1
    digits.take 1 ++ (if part.isEmpty then [] else '.' :: part)
      ++ 'e' :: (if lead < 0 then '-' else '+') :: padded 2 lead.natAbs

def shortestDecimal (x : Float) : String :=
  let bits := x.toBits.toNat
  let unsigned := match Binary.ofBits? bits with
    | none => ['0', '.', '0']
    | some b =>
      let (k, power) := b.shortest
      let all := Nat.toDigits 10 k
      let digits := (all.reverse.dropWhile (· == '0')).reverse
      writeDecimal digits (power + (all.length - 1 : Nat))
  String.ofList (if bits >>> 63 = 1 then '-' :: unsigned else unsigned)

end Gallery.Text
