-- Numbers as a machine holds them. A sum or product that no word can hold stops whatever asks for
-- it, unless it is taken so that it saturates.

namespace Gallery.Word

-- The numbers that a machine word can hold are below this.
def limit : Nat := 1 <<< 64

-- What it stops at: a number that is too large for a word, by what it was to come of.
inductive Overflow where
  | sum
  | product
deriving DecidableEq, Repr

def Overflow.message : Overflow → String
  | .sum => "attempt to add with overflow"
  | .product => "attempt to multiply with overflow"

def add (m n : Nat) : Except Overflow Nat :=
  if m + n < limit then .ok (m + n) else .error .sum

def mul (m n : Nat) : Except Overflow Nat :=
  if m * n < limit then .ok (m * n) else .error .product

-- A number, or the largest that a word can hold.
def saturate (n : Nat) : Nat := min n (limit - 1)

end Gallery.Word
