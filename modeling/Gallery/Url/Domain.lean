import Gallery.Text.Composed
import Gallery.Text.Direction
import Gallery.Text.Joining
import Gallery.Text.Utf8
import Gallery.Url.DomainTable
import Gallery.Url.Punycode

-- Domain names in any letters, brought to the one ASCII form under which they are looked up. A
-- name is mapped and composed; its labels must hold what a label may, which is also asked of the
-- labels that were written in Punycode already; then each label that is not ASCII is encoded.

namespace Gallery.Url.Domain

-- The longest label that is encoded, in characters, and the longest that is decoded, in letters.
private def longestEncoded : Nat := 1000
private def longestDecoded : Nat := 2000

-- A label: its letters, and whether they were written in Punycode.
private structure Label where
  letters : List Nat
  encoded : Option (List Nat)

private def isAscii (n : Nat) : Bool := n < 128

private def ofLetters (letters : List Nat) : Option Label :=
  match letters with
  | 0x78 :: 0x6e :: 0x2d :: 0x2d :: rest =>
    if !rest.all isAscii || longestDecoded < rest.length then none
    else do
      let decoded ← Punycode.decode? (rest.map Char.ofNat)
      if decoded.all isAscii then none
      else some ⟨decoded, some letters⟩
  | _ => some ⟨letters, none⟩

-- A sign that asks for the letters beside it to be joined, or kept apart, stands after a vowel
-- killer; the one that keeps apart may also stand between letters that would join.
private def joinersFit (before : List Nat) : List Nat → Bool
  | [] => true
  | c :: rest =>
    let afterKiller := before.head?.any Text.isVowelKiller
    let between :=
      (before.dropWhile Text.isTransparent).head?.any Text.joinsNext
        && (rest.dropWhile Text.isTransparent).head?.any Text.joinsPrevious
    let fits := if c = 0x200c then afterKiller || between
      else if c = 0x200d then afterKiller
      else true
    fits && joinersFit (c :: before) rest

private def fits (label : Label) : Bool :=
  (label.encoded.isNone ||
    (label.letters.all DomainTable.stays && Text.composed label.letters == label.letters))
  && !label.letters.head?.any Text.isMark
  && joinersFit [] label.letters

private def turns (n : Nat) : Bool :=
  match Text.Direction.of n with
  | .rightToLeft | .arabicNumber => true
  | _ => false

-- A label of a name that holds letters written from right to left runs in one direction.
private def runsOneWay : List Nat → Bool
  | [] => true
  | first :: rest =>
    let ds := rest.map Text.Direction.of
    let core := (ds.reverse.dropWhile (· == .mark)).reverse
    match Text.Direction.of first with
    | .leftToRight =>
      core.all (· matches .leftToRight | .europeanNumber | .neutral | .mark)
        && core.getLast?.all (· matches .leftToRight | .europeanNumber)
    | .rightToLeft =>
      core.all (· matches .rightToLeft | .arabicNumber | .europeanNumber | .neutral | .mark)
        && core.getLast?.all (· matches .rightToLeft | .arabicNumber | .europeanNumber)
        && !(core.contains .europeanNumber && core.contains .arabicNumber)
    | _ => false

private def written (label : Label) : Option (List Char) :=
  match label.encoded with
  | some letters => some (letters.map Char.ofNat)
  | none =>
    if label.letters.all isAscii then some (label.letters.map Char.ofNat)
    else if longestEncoded < label.letters.length then none
    else some ("xn--".toList ++ Punycode.encode label.letters)

-- The ASCII characters that no domain name holds.
def isForbidden (c : Char) : Bool :=
  c.toNat ≤ 32 || 127 ≤ c.toNat || "%#/:<>?@[\\]^|".toList.contains c

-- The ASCII form of the domain name that the bytes spell, if they spell one.
def ascii? (bytes : ByteArray) : Option (List Char) := do
  let text ← Text.ofUtf8? bytes
  let mapped ← text.toList.mapM fun c => DomainTable.mapped? c.toNat
  let labels ← ((Text.composed mapped.flatten).splitOn 0x2e).mapM ofLetters
  if !labels.all fits then none
  else if labels.any (fun l => l.letters.any turns) && !labels.all (fun l => runsOneWay l.letters)
  then none
  else
    let name := ['.'].intercalate (← labels.mapM written)
    if name.any isForbidden then none else some name

end Gallery.Url.Domain
