import Gallery.Text.Percent

-- The path of a web address. Its segments are put into the form in which they are compared: `.`
-- and `..` are carried out, and what may not stand in a path is percent encoded.

namespace Gallery.Url.Path

-- The characters of a path that stand for themselves.
def keeps (c : Char) : Bool :=
  32 < c.toNat && c.toNat < 127 && !"\"<>\x60#?\x7b\x7d".toList.contains c

-- A segment in which `%2e`, in either case, is read as a full stop.
private def withStops : List Char → List Char
  | '%' :: '2' :: 'e' :: rest | '%' :: '2' :: 'E' :: rest => '.' :: withStops rest
  | c :: rest => c :: withStops rest
  | [] => []

-- A segment that names the path itself.
def isSame (segment : List Char) : Bool := withStops segment == ['.']

-- A segment that names what is above.
def isParent (segment : List Char) : Bool := withStops segment == ['.', '.']

-- A letter and a colon name a drive, which has nothing above it.
private def isDrive : List Char → Bool
  | [letter, mark] => letter.isAlpha && (mark == ':' || mark == '|')
  | _ => false

-- The segments before the last one, last first, with the last one taken away.
def above : List (List Char) → List (List Char)
  | last :: before => if isDrive last then last :: before else before
  | [] => []

-- The finished segments, last first, after each of those that are left. The last segment of a
-- path is the one that no slash ends; `.` and `..` leave an empty one.
def resolve (done : List (List Char)) : List (List Char) → List (List Char)
  | [] => done
  | [last] =>
    if isParent last then [] :: above done
    else if isSame last then [] :: done
    else last :: done
  | segment :: rest =>
    if isParent segment then resolve (above done) rest
    else if isSame segment then resolve done rest
    else resolve (segment :: done) rest

-- The path that is written; a slash begins each segment.
def ofText (cs : List Char) : List Char :=
  let cs := match cs with
    | '/' :: rest | '\\' :: rest => rest
    | _ => cs
  let segments := cs.splitOnP fun c => c == '/' || c == '\\'
  let segments := (segments.map (Text.percentEncode keeps))
  (resolve [] segments).reverse.flatMap ('/' :: ·)

end Gallery.Url.Path
