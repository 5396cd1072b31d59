-- Punycode: a word in any letters written in ASCII. The ASCII letters come first; after a hyphen
-- follow, as numbers of varying length, the steps from one other letter to the next.

namespace Gallery.Url.Punycode

private def digitChar (d : Nat) : Char := Char.ofNat (if d < 26 then 97 + d else 22 + d)

private def digitValue? (c : Char) : Option Nat :=
  if c.isDigit then some (c.toNat - 22)
  else if c.isLower then some (c.toNat - 97)
  else if c.isUpper then some (c.toNat - 65)
  else none

-- How many values a digit may have before the number ends with it; `position` counts by 36.
private def threshold (position bias : Nat) : Nat :=
  if position ≤ bias then 1 else if bias + 26 ≤ position then 26 else position - bias

private theorem threshold_pos (position bias : Nat) : 0 < threshold position bias := by
  unfold threshold
  split
  · omega
  · split <;> omega

private def flatten (delta steps : Nat) : Nat :=
  if 455 < delta then flatten (delta / 35) (steps + 36) else steps + 36 * delta / (delta + 38)
termination_by delta

-- The bias for the next number, after one that brought the `count`-th letter.
private def adapted (delta count : Nat) (isFirst : Bool) : Nat :=
  let damped := if isFirst then delta / 700 else delta / 2
  flatten (damped + damped / count) 0

private def numberDigits (position bias q : Nat) : List Char :=
  let t := threshold position bias
  if q < t then [digitChar q]
  else digitChar (t + (q - t) % (36 - t)) :: numberDigits (position + 36) bias ((q - t) / (36 - t))
termination_by q
decreasing_by
  have := threshold_pos position bias
  have := Nat.div_le_self (q - threshold position bias) (36 - threshold position bias)
  omega

-- How far the writing is: what is written, the step to be written next, the bias, and how many
-- letters have been written.
private structure Progress where
  written : List Char
  delta : Nat
  bias : Nat
  count : Nat

-- One pass over the word for the letter `n`.
private def passFor (n plain : Nat) (state : Progress) (word : List Nat) : Progress :=
  word.foldl (fun s c =>
    if c < n then { s with delta := s.delta + 1 }
    else if c = n then
      ⟨s.written ++ numberDigits 36 s.bias s.delta, 0,
        adapted s.delta (s.count + 1) (s.count == plain), s.count + 1⟩
    else s) state

-- The passes for the letters of the word that are not ASCII, in order.
private def passes (word : List Nat) (plain : Nat) : List Nat → Nat → Progress → Progress
  | [], _, s => s
  | n :: rest, reached, s =>
    let s := passFor n plain { s with delta := s.delta + (n - reached) * (s.count + 1) } word
    passes word plain rest (n + 1) { s with delta := s.delta + 1 }

-- A word in ASCII.
def encode (word : List Nat) : List Char :=
  let plain := word.filter (· < 128)
  let others := ((word.filter (128 ≤ ·)).mergeSort).eraseDups
  let s := passes word plain.length others 128 ⟨[], 0, 72, plain.length⟩
  plain.map Char.ofNat ++ (if plain.isEmpty then [] else ['-']) ++ s.written

-- Reads one number: its value and what is left. Numbers are kept below 2 ^ 32.
private def readNumber (bias : Nat) (position weight value : Nat) :
    List Char → Option (Nat × List Char)
  | [] => none
  | c :: rest => do
    let d ← digitValue? c
    let value := value + d * weight
    let t := threshold position bias
    if 1 <<< 32 ≤ value then none
    else if d < t then some (value, rest)
    else if 1 <<< 32 ≤ weight * (36 - t) then none
    else readNumber bias (position + 36) (weight * (36 - t)) value rest

private def readLetters : Nat → List Char → (word : List Nat) → (n at' bias : Nat) →
    (isFirst : Bool) → Option (List Nat)
  | _, [], word, _, _, _, _ => some word
  | 0, _, _, _, _, _, _ => none
  | fuel + 1, cs, word, n, at', bias, isFirst => do
    let (delta, rest) ← readNumber bias 36 1 0 cs
    let count := word.length + 1
    let place := at' + delta
    let n := n + place / count
    let place := place % count
    if n.isValidChar then
      readLetters fuel rest (word.insertIdx place n) n (place + 1)
        (adapted delta count isFirst) false
    else none

-- The word that a text in ASCII stands for, if it does.
def decode? (text : List Char) : Option (List Nat) :=
  let tail := (text.reverse.takeWhile (· != '-')).reverse
  let plain := text.take (text.length - tail.length - 1)
  let tail := if plain.isEmpty then text else tail
  readLetters tail.length tail (plain.map Char.toNat) 128 0 72 true

end Gallery.Url.Punycode
