import Gallery.Text.Percent

-- Addresses of eight groups of sixteen bits. Two colons stand for a row of zero groups, and the
-- last two groups may be written as four decimal numbers.

namespace Gallery.Url

structure Ipv6 where
  groups : List Nat

namespace Ipv6

-- The groups that have been read, last one first, and how many of them stand before the gap.
private structure Progress where
  done : List Nat
  gap : Option Nat

-- How many of the eight places are taken; the gap takes at least one.
private def Progress.taken (p : Progress) : Nat :=
  p.done.length + (if p.gap.isSome then 1 else 0)

-- A decimal number of at most 255 without a zero in front.
private def byte? (digits : List Char) : Option Nat :=
  match digits with
  | [] => none
  | ['0'] => some 0
  | '0' :: _ => none
  | _ =>
    let n := digits.foldl (fun n c => 10 * n + (c.toNat - 48)) 0
    if n < 256 then some n else none

-- The two groups that four decimal numbers make.
private def dotted? (cs : List Char) : Option (List Nat) :=
  let bytes := (cs.splitOn '.').mapM fun part => if part.all Char.isDigit then byte? part else none
  match bytes with
  | some [a, b, c, d] => some [256 * a + b, 256 * c + d]
  | _ => none

-- The groups in their places, with zeros for the gap.
private def Progress.finish (p : Progress) : Option Ipv6 :=
  let groups := p.done.reverse
  match p.gap with
  | some before =>
    some ⟨groups.take before ++ List.replicate (8 - groups.length) 0 ++ groups.drop before⟩
  | none => if groups.length = 8 then some ⟨groups⟩ else none

private def hexDigits (cs : List Char) : List Char :=
  (cs.take 4).takeWhile fun c => (Text.hexValue? c).isSome

private def readGroups (fuel : Nat) (p : Progress) (cs : List Char) : Option Ipv6 :=
  match fuel, cs with
  | _, [] => p.finish
  | 0, _ => none
  | fuel + 1, ':' :: rest =>
    if p.taken = 8 || p.gap.isSome then none
    else readGroups fuel { p with gap := some p.done.length } rest
  | fuel + 1, cs =>
    if p.taken = 8 then none
    else
      let digits := hexDigits cs
      let value := digits.foldl (fun n c => 16 * n + (Text.hexValue? c).getD 0) 0
      match cs.drop digits.length with
      | [] => readGroups fuel { p with done := value :: p.done } []
      | '.' :: _ =>
        if digits.isEmpty || 6 < p.taken then none
        else match dotted? cs with
          | some [high, low] => readGroups fuel { p with done := low :: high :: p.done } []
          | _ => none
      | ':' :: next :: rest => readGroups fuel { p with done := value :: p.done } (next :: rest)
      | _ => none

def ofText? (cs : List Char) : Option Ipv6 :=
  match cs with
  | ':' :: ':' :: rest => readGroups rest.length ⟨[], some 0⟩ rest
  | ':' :: _ | [] | [_] => none
  | _ => readGroups cs.length ⟨[], none⟩ cs

-- How many zeros a list begins with.
private def zeros (groups : List Nat) : Nat := (groups.takeWhile (· = 0)).length

-- Where the longest row of zeros begins and how long it is; the first of equal rows.
private def longestZeros (groups : List Nat) : Nat × Nat :=
  (List.range groups.length).foldl (fun best i =>
    let n := zeros (groups.drop i)
    if best.2 < n then (i, n) else best) (0, 0)

def shown (groups : List Nat) : List Char :=
  [':'].intercalate (groups.map (Nat.toDigits 16))

-- The shortest way to write an address: two colons for its longest row of at least two zero
-- groups.
def text (a : Ipv6) : List Char :=
  let (start, count) := longestZeros a.groups
  if count < 2 then shown a.groups
  else shown (a.groups.take start) ++ [':', ':'] ++ shown (a.groups.drop (start + count))

end Ipv6

end Gallery.Url
