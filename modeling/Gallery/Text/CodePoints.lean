-- Sets of Unicode code points, given by the code points at which membership changes.

namespace Gallery.Text

-- The numbers written from here on, with blanks and line ends between them; `number` is the
-- one being read.
private def hexWordsFrom (number : Option Nat) (done : List Nat) : List Char → List Nat
  | [] => (number.toList ++ done).reverse
  | c :: rest =>
    if c.isWhitespace then hexWordsFrom none (number.toList ++ done) rest
    else
      let digit := if c.isDigit then c.toNat - 48 else c.toNat - 87
      hexWordsFrom (some (16 * number.getD 0 + digit)) done rest

-- The numbers of a table written in hexadecimal.
def hexWords (text : String) : List Nat := hexWordsFrom none [] text.toList

-- A set of code points: the first boundary is its first member, the second the next code
-- point that is not in it, and so on.
structure CodePoints where
  boundaries : Array Nat

namespace CodePoints

def ofText (text : String) : CodePoints := ⟨(hexWords text).toArray⟩

-- How many of the boundaries from `low` up to `high` do not exceed `n`, plus `low`; the
-- boundaries increase, so each step halves the span.
private def countUpTo (s : CodePoints) (n low high : Nat) : Nat :=
  if low < high then
    let middle := (low + high) / 2
    if s.boundaries.getD middle 0 ≤ n then
      countUpTo s n (middle + 1) high
    else
      countUpTo s n low middle
  else
    low
termination_by high - low

-- Membership: an odd number of boundaries has been passed.
def contains (s : CodePoints) (n : Nat) : Bool :=
  countUpTo s n 0 s.boundaries.size % 2 == 1

end CodePoints

end Gallery.Text
