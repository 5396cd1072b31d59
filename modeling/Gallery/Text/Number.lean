-- Numbers written in decimal.

namespace Gallery.Text

-- The value of decimal digits, when there is one and all are digits.
def digits? (cs : List Char) : Option Nat :=
  if cs.isEmpty || !cs.all Char.isDigit then none
  else some (cs.foldl (fun n c => 10 * n + (c.toNat - 48)) 0)

-- The digits of a number, with zeros in front up to a width.
def padded (width n : Nat) : List Char :=
  let digits := Nat.toDigits 10 n
  List.replicate (width - digits.length) '0' ++ digits

-- A natural number below a limit, written in digits after an optional plus.
def naturalBelow? (limit : Nat) (cs : List Char) : Option Nat := do
  let n ← digits? (match cs with | '+' :: rest => rest | _ => cs)
  if n < limit then some n else none

-- The digits at the front, and what follows them.
private def spanDigits (cs : List Char) : List Char × List Char := cs.span Char.isDigit

-- A text is a decimal number: an optional sign, digits with at most one point among or beside
-- them, and an optional exponent; or the name of an infinity or of no number.
def isDecimalNumber (cs : List Char) : Bool :=
  let unsigned := match cs with
    | '+' :: rest | '-' :: rest => rest
    | _ => cs
  let name := String.ofList (unsigned.map Char.toLower)
  if name == "inf" || name == "infinity" || name == "nan" then true
  else
    let (whole, rest) := spanDigits unsigned
    let (part, rest) := match rest with
      | '.' :: rest => spanDigits rest
      | _ => ([], rest)
    if whole.isEmpty && part.isEmpty then false
    else match rest with
      | [] => true
      | e :: rest =>
        if e == 'e' || e == 'E' then
          (digits? (match rest with | '+' :: r | '-' :: r => r | _ => rest)).isSome
        else false

end Gallery.Text
