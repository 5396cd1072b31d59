import Gallery.Text.Percent

-- Addresses of four bytes. A host whose last part is a number is read as such an address; parts
-- may be written in decimal, octal or hexadecimal, and the last one fills all bytes that are left.

namespace Gallery.Url

-- An address of four bytes, as a number.
structure Ipv4 where
  value : Nat
  value_lt : value < 1 <<< 32

namespace Ipv4

private def valueIn (base : Nat) (digits : List Char) : Option Nat :=
  digits.foldlM (fun n c => do
    let d ← Text.hexValue? c
    if d < base then some (base * n + d) else none) 0

-- The number that one part of an address is.
private def part? (cs : List Char) : Option Nat :=
  match cs with
  | [] => none
  | '0' :: 'x' :: rest | '0' :: 'X' :: rest => valueIn 16 rest
  | '0' :: c :: rest => valueIn 8 (c :: rest)
  | _ => valueIn 10 cs

-- The parts of a host; a full stop at its end begins no further part.
private def parts (host : List Char) : List (List Char) :=
  let all := host.splitOn '.'
  if 1 < all.length && all.getLast? = some [] then all.dropLast else all

-- A host is to be read as a number: its last part is one, or at least has digits only.
def isMeant (host : List Char) : Bool :=
  match (parts host).getLast? with
  | none | some [] => false
  | some last => last.all Char.isDigit || (part? last).isSome

def ofHost? (host : List Char) : Option Ipv4 := do
  let numbers ← (parts host).mapM part?
  let last ← numbers.getLast?
  let bytes := numbers.dropLast
  if 3 < bytes.length || bytes.any (255 < ·) then none
  else
    let free := 4 - bytes.length
    if last < 1 <<< (8 * free) then
      let value := (bytes.foldl (fun n b => 256 * n + b) 0) <<< (8 * free) + last
      if h : value < 1 <<< 32 then some ⟨value, h⟩ else none
    else none

-- Four numbers with full stops between them.
def text (a : Ipv4) : List Char :=
  ['.'].intercalate ([24, 16, 8, 0].map fun shift =>
    Nat.toDigits 10 ((a.value >>> shift) % 256))

end Ipv4

end Gallery.Url
