-- Blank characters (the white space of Unicode) and trimming.

namespace Gallery.Text

-- The characters with the Unicode property White_Space.
def isBlank (c : Char) : Bool :=
  let n := c.toNat
  (9 ≤ n && n ≤ 13) || n == 32 || n == 0x85 || n == 0xa0 || n == 0x1680
    || (0x2000 ≤ n && n ≤ 0x200a) || n == 0x2028 || n == 0x2029 || n == 0x202f
    || n == 0x205f || n == 0x3000

-- The characters of a text without the blanks at both ends.
def trimChars (cs : List Char) : List Char :=
  ((cs.dropWhile isBlank).reverse.dropWhile isBlank).reverse

-- A text without the blanks at both ends.
def trim (s : String) : String := String.ofList (trimChars s.toList)

end Gallery.Text
