import Gallery.Settings.Environment
import Gallery.Text.Alphanumeric
import Gallery.Text.Blank

-- Files that give defaults to environment variables, one assignment a line: `NAME=value`, with
-- `export` in front if one likes. Values may be quoted, may run over several lines then, and may
-- refer to variables. The first line that is no assignment ends the reading.

namespace Gallery.EnvFile

-- Where in a line the reading stands. A `#` after one blank begins a comment; after a second
-- blank it is no longer seen as such here.
private inductive Position where
  | plain
  | blank
  | escape
  | single
  | singleEscape
  | double
  | doubleEscape
deriving DecidableEq

private def Position.opened (c : Char) : Position :=
  if c = '\\' then .escape else if c = '"' then .double else if c = '\'' then .single else .plain

private def Position.next (p : Position) (c : Char) : Position :=
  match p with
  | .plain => if Text.isBlank c && c != '\n' && c != '\r' then .blank else .opened c
  | .blank => .opened c
  | .escape => .plain
  | .single => if c = '\\' then .singleEscape else if c = '\'' then .plain else .single
  | .singleEscape => .single
  | .double => if c = '\\' then .doubleEscape else if c = '"' then .plain else .double
  | .doubleEscape => .double

-- How a line ends: in a comment, with what stands before it, or in a position.
private def ending (p : Position) (kept : List Char) : List Char → List Char ⊕ Position
  | [] => .inr p
  | c :: rest =>
    if p = .blank ∧ c = '#' then .inl kept.reverse else ending (p.next c) (c :: kept) rest

private def isComment (cs : List Char) : Bool := (cs.dropWhile Text.isBlank).head? = some '#'

-- A text without one line end at its end.
private def withoutLineEnd (cs : List Char) : List Char :=
  match cs.reverse with
  | '\n' :: '\r' :: rest | '\n' :: rest => rest.reverse
  | _ => cs

-- The assignments and other lines of a file, from its lines with their line ends; `begun` is
-- what has been read of one that goes on. `none` stands for one that never ends.
private def statements (begun : List Char) (p : Position) :
    List (List Char) → List (Option (List Char))
  | [] => if p = .plain then [] else [none]
  | line :: rest =>
    let whole := begun ++ line
    if isComment whole then statements [] .plain rest
    else match ending p [] line with
      | .inl kept => some (begun ++ kept) :: statements [] .plain rest
      | .inr .plain => some (withoutLineEnd whole) :: statements [] .plain rest
      | .inr p => statements whole p rest

-- Lines, each with the line end that ends it.
private def linesOf (cs : List Char) : List (List Char) :=
  let lines := cs.splitOn '\n'
  (lines.dropLast.map (· ++ ['\n'])) ++ lines.getLast?.toList.filter (!·.isEmpty)

-- What a value is read as: plain text, text in quotes, the character after a backslash, the name
-- of a variable with or without braces, and what may follow a value.
private inductive Reading where
  | plain
  | single
  | double
  | escape (inDouble : Bool)
  | name (inDouble : Bool) (read : List Char)
  | braced (inDouble : Bool) (read : List Char)
  | ended

private def Reading.around (inDouble : Bool) : Reading := if inDouble then .double else .plain

private def value (env : Environment) (r : Reading) (out : List Char) :
    List Char → Option (List Char)
  | [] => match r with
    | .plain | .ended | .escape false => some out.reverse
    | .name false read => some (out.reverse ++ valueOf read)
    | _ => none
  | c :: rest => match r with
    | .ended =>
      if c = ' ' ∨ c = '\t' then value env .ended out rest
      else if c = '#' then some out.reverse
      else none
    | .escape inDouble =>
      if c = 'n' then value env (.around inDouble) ('\n' :: out) rest
      else if "\\'\"$ ".toList.contains c then value env (.around inDouble) (c :: out) rest
      else none
    | .single =>
      if c = '\'' then value env .plain out rest else value env .single (c :: out) rest
    | .name inDouble read =>
      if Text.isAlphanumeric c then value env (.name inDouble (c :: read)) out rest
      else if c = '\x7b' ∧ read = [] then value env (.braced inDouble []) out rest
      else
        let out := (valueOf read).reverse ++ out
        if c = '$' then value env (.name inDouble []) out rest
        else value env (.around inDouble) (c :: out) rest
    | .braced inDouble read =>
      if Text.isAlphanumeric c ∨ c ≠ '\x7d' then value env (.braced inDouble (c :: read)) out rest
      else value env (.around inDouble) ((valueOf read).reverse ++ out) rest
    | .double =>
      if c = '$' then value env (.name true []) out rest
      else if c = '"' then value env .plain out rest
      else if c = '\\' then value env (.escape true) out rest
      else value env .double (c :: out) rest
    | .plain =>
      if c = '$' then value env (.name false []) out rest
      else if c = '\'' then value env .single out rest
      else if c = '"' then value env .double out rest
      else if c = '\\' then value env (.escape false) out rest
      else if c = ' ' ∨ c = '\t' then value env .ended out rest
      else value env .plain (c :: out) rest
where
  -- The value of a variable whose name is given last letter first.
  valueOf (read : List Char) : List Char :=
    ((env.get? (String.ofList read.reverse)).getD "").toList

private def skipBlanks (cs : List Char) : List Char := cs.dropWhile Text.isBlank

private def isNameChar (c : Char) : Bool := c.isAlphanum || c == '_' || c == '.'

-- The name of a variable and what follows it and the blanks after it.
private def readName (cs : List Char) : Option (List Char × List Char) :=
  match cs.takeWhile isNameChar with
  | first :: others =>
    if first.isAlpha || first == '_' then
      some (first :: others, skipBlanks (cs.dropWhile isNameChar))
    else none
  | [] => none

-- A name and what follows its equals sign. `export` may be a name itself.
private def readTarget (cs : List Char) : Option (List Char × List Char) := do
  match ← readName cs with
  | (name, '=' :: rest) => some (name, skipBlanks rest)
  | (name, rest) =>
    if name = "export".toList then
      match ← readName rest with
      | (name, '=' :: rest) => some (name, skipBlanks rest)
      | _ => none
    else none

-- An assignment: nothing for an empty line, and an error for what is none.
private def assignment (env : Environment) (line : List Char) :
    Except Unit (Option (String × String)) :=
  match Text.trimChars line with
  | [] | '#' :: _ => .ok none
  | cs =>
    match readTarget cs with
    | none => .error ()
    | some (name, []) | some (name, '#' :: _) => .ok (some (String.ofList name, ""))
    | some (name, rest) =>
      match value env .plain [] rest with
      | some v => .ok (some (String.ofList name, String.ofList v))
      | none => .error ()

private def applyAll (env : Environment) : List (Option (List Char)) → Environment
  | some line :: rest =>
    match assignment env line with
    | .ok (some (name, v)) => applyAll (env.setDefault name v) rest
    | .ok none => applyAll env rest
    | .error () => env
  | none :: _ | [] => env

-- The environment with the defaults that a file gives; a byte order mark may begin it.
def apply (text : String) (env : Environment) : Environment :=
  let cs := match text.toList with
    | '\ufeff' :: rest => rest
    | cs => cs
  applyAll env (statements [] .plain (linesOf cs))

end Gallery.EnvFile
