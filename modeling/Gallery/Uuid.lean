-- Random identifiers of 128 bits, in the layout that marks them as random.

namespace Gallery

-- An identifier, as two words of which the first is written first.
structure Uuid where
  high : UInt64
  low : UInt64
deriving DecidableEq, Repr

namespace Uuid

-- The identifier made of random words: the thirteenth digit says that it is random, and the top
-- bits of the seventeenth say what layout that refers to.
def ofRandom (high low : UInt64) : Uuid :=
  ⟨(high &&& 0xffffffffffff0fff) ||| 0x4000, (low &&& 0x3fffffffffffffff) ||| 0x8000000000000000⟩

-- The sixteen digits of a word.
def wordDigits (w : UInt64) : List Char :=
  let digits := Nat.toDigits 16 w.toNat
  List.replicate (16 - digits.length) '0' ++ digits

-- The 32 digits, in lower case.
def digits (id : Uuid) : List Char := wordDigits id.high ++ wordDigits id.low

-- The digits in groups of 8, 4, 4, 4 and 12.
def hyphenated (id : Uuid) : String :=
  let ds := id.digits
  String.ofList (ds.take 8 ++ '-' :: (ds.drop 8).take 4 ++ '-' :: (ds.drop 12).take 4
    ++ '-' :: (ds.drop 16).take 4 ++ '-' :: ds.drop 20)

end Uuid

end Gallery
