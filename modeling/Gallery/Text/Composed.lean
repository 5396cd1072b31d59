import Gallery.Text.Decomposition

-- Composed text: among the ways to write a text, the one in which marks follow their base in a
-- fixed order and each base takes in the marks that it has a character for.

namespace Gallery.Text

-- A code point with its combining class.
private structure Marked where
  code : Nat
  rank : Nat

-- Syllables of Hangul are counted, not listed: a first letter, a vowel and perhaps a last letter.
private def hangulFirst : Nat := 0x1100
private def hangulVowel : Nat := 0x1161
private def hangulLast : Nat := 0x11a7
private def hangulSyllable : Nat := 0xac00

private def hangulParts (n : Nat) : List Nat :=
  let k := n - hangulSyllable
  let pair := [hangulFirst + k / 588, hangulVowel + k % 588 / 28]
  if k % 28 = 0 then pair else pair ++ [hangulLast + k % 28]

-- A character taken apart as often as it can be, up to a depth that no character reaches.
private def takenApart : Nat → Nat → List Nat
  | 0, n => [n]
  | depth + 1, n =>
    if hangulSyllable ≤ n && n < hangulSyllable + 11172 then hangulParts n
    else match parts? n with
      | some parts => parts.flatMap (takenApart depth)
      | none => [n]

-- A mark is put before the marks of a higher class that end the text; the text is given last
-- character first.
private def place (m : Marked) : List Marked → List Marked
  | last :: before =>
    if m.rank ≠ 0 && m.rank < last.rank then last :: place m before else m :: last :: before
  | [] => [m]

private def ordered (codes : List Nat) : List Marked :=
  (codes.foldl (fun done n => place ⟨n, combiningClass n⟩ done) []).reverse

-- The character that a base and the character after it make.
private def joined? (base next : Nat) : Option Nat :=
  if hangulFirst ≤ base && base < hangulFirst + 19
      && hangulVowel ≤ next && next < hangulVowel + 21 then
    some (hangulSyllable + ((base - hangulFirst) * 21 + (next - hangulVowel)) * 28)
  else if hangulSyllable ≤ base && base < hangulSyllable + 11172
      && (base - hangulSyllable) % 28 = 0
      && hangulLast < next && next < hangulLast + 28 then
    some (base + (next - hangulLast))
  else
    pairComposed? base next

-- Goes on after a base; `between` are the characters after it that it did not take in, the
-- last one first. A mark reaches its base past marks of lower classes only.
private def joinFrom (base : Nat) (between : List Marked) : List Marked → List Nat
  | [] => base :: between.reverse.map (·.code)
  | m :: rest =>
    let reached := match between with
      | [] => true
      | last :: _ => last.rank < m.rank
    match if reached then joined? base m.code else none with
    | some whole => joinFrom whole between rest
    | none =>
      if m.rank = 0 then base :: between.reverse.map (·.code) ++ joinFrom m.code [] rest
      else joinFrom base (m :: between) rest

private def joinAll : List Marked → List Nat
  | [] => []
  | m :: rest => if m.rank = 0 then joinFrom m.code [] rest else m.code :: joinAll rest

def composed (codes : List Nat) : List Nat :=
  joinAll (ordered (codes.flatMap (takenApart 4)))

end Gallery.Text
