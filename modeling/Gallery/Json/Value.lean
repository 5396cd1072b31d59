import Gallery.Text.Shortest

-- JSON values and their text, without blanks. Members of an object keep their order.

namespace Gallery.Json

inductive Value where
  | null
  | boolean (b : Bool)
  | number (n : Int)
  | floating (x : Float)
  | text (s : String)
  | array (items : List Value)
  | object (members : List (String × Value))

def hexDigit (n : Nat) : Char := (Nat.toDigits 16 n).headD '0'

-- How a character stands in a string: as itself, unless it is a quote, a backslash or a control
-- character below the blank.
def escaped (c : Char) : List Char :=
  if c = '"' then ['\\', '"']
  else if c = '\\' then ['\\', '\\']
  else if c = '\n' then ['\\', 'n']
  else if c = '\r' then ['\\', 'r']
  else if c = '\t' then ['\\', 't']
  else if c = '\x08' then ['\\', 'b']
  else if c = '\x0c' then ['\\', 'f']
  else if c.toNat < 32 then
    ['\\', 'u', '0', '0', hexDigit (c.toNat / 16), hexDigit (c.toNat % 16)]
  else [c]

def quotedText (s : String) : List Char := '"' :: s.toList.flatMap escaped ++ ['"']

private def integer (n : Int) : List Char :=
  if n < 0 then '-' :: Nat.toDigits 10 n.natAbs else Nat.toDigits 10 n.natAbs

namespace Value

mutual

def characters : Value → List Char
  | .null => ['n', 'u', 'l', 'l']
  | .boolean true => ['t', 'r', 'u', 'e']
  | .boolean false => ['f', 'a', 'l', 's', 'e']
  | .number n => integer n
  | .floating x => (Text.shortestDecimal x).toList
  | .text s => quotedText s
  | .array items => '[' :: itemCharacters items
  | .object members => '\x7b' :: memberCharacters members

-- What stands after the opening bracket of an array.
def itemCharacters : List Value → List Char
  | [] => [']']
  | [v] => characters v ++ [']']
  | v :: rest => characters v ++ ',' :: itemCharacters rest

def memberCharacters : List (String × Value) → List Char
  | [] => ['\x7d']
  | [(name, v)] => quotedText name ++ ':' :: characters v ++ ['\x7d']
  | (name, v) :: rest => quotedText name ++ ':' :: characters v ++ ',' :: memberCharacters rest

end

def render (v : Value) : String := String.ofList v.characters

-- A member that is left out when there is nothing in it.
def optional (name : String) (value : Option Value) : List (String × Value) :=
  (value.map (name, ·)).toList

end Value

end Gallery.Json
