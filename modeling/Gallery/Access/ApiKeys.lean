import Gallery.Text.Utf8

-- Keys that let a client use the images at all. How long the comparison of a candidate with a key
-- takes tells nothing of the key but its length, and which of the keys it was is not told either.

namespace Gallery.Access

structure ApiKeys where
  accepted : List String

namespace ApiKeys

-- The master key and all further keys but empty ones.
def ofConfigured (master : String) (keys : List String) : ApiKeys :=
  ⟨master :: keys.filter (!·.isEmpty)⟩

-- One if two bytes are the same, and else nothing, without a branch: a number and its opposite
-- both have no highest bit only if it is zero.
def sameByte (x y : UInt8) : UInt8 :=
  let difference := x ^^^ y
  ((difference ||| (0 - difference)) >>> 7) ^^^ 1

-- One if the bytes in each place are the same; all places are looked at.
def sameBytes (xs ys : List UInt8) : UInt8 :=
  (xs.zip ys).foldl (fun same (x, y) => same &&& sameByte x y) 1

-- The candidate is the key, byte by byte.
def isKey (candidate key : String) : Bool :=
  if candidate.utf8ByteSize ≠ key.utf8ByteSize then false
  else sameBytes (Text.utf8 candidate) (Text.utf8 key) = 1

-- The candidate is one of the keys. It is compared with all of them, also when one was found.
def accepts (k : ApiKeys) (candidate : String) : Bool :=
  k.accepted.foldl (fun matched key => isKey candidate key || matched) false

end ApiKeys

end Gallery.Access
