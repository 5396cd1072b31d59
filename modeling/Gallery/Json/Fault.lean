import Gallery.Text.Quoted
import Gallery.Text.Shortest

-- Why a text is not the JSON form of what is read from it, and where the reader noticed.

namespace Gallery.Json

-- A number as it was read: floating point if it has a point, an exponent, or does not fit into a
-- word.
inductive Number where
  | natural (n : Nat)
  | negative (n : Int)
  | floating (x : Float)

-- What was found in the place of something else.
inductive Found where
  | null
  | boolean (b : Bool)
  | number (n : Number)
  | text (s : String)
  | sequence
  | object

inductive Cause where
  | endInValue
  | endInList
  | endInObject
  | endInString
  | expectedColon
  | expectedItemEnd
  | expectedMemberEnd
  | expectedWord
  | expectedValue
  | invalidEscape
  | invalidNumber
  | numberOutOfRange
  | invalidCodePoint
  | controlCharacter
  | keyNotString
  | loneSurrogate
  | unfinishedPair
  | trailingComma
  | trailingCharacters
  | tooDeep
  | wrongType (found : Found) (expected : String)
  | wrongValue (found : Found) (expected : String)
  | wrongLength (length : Nat) (expected : String)
  | missingMember (name : String)
  | doubleMember (name : String)
  | unknownVariant (name : String) (expected : List String)
  -- The value has the right type but is not accepted, for the reason given.
  | refused (reason : String)

-- A step on the way from the whole value to a part of it.
inductive PathPart where
  | member (name : String)
  | item (index : Nat)

-- A cause, the number of bytes before the place where it was noticed, and the way to the part
-- that was being read.
structure Fault where
  cause : Cause
  offset : Option Nat
  path : List PathPart

def Number.shown : Number → String
  | .natural n => "integer `" ++ toString n ++ "`"
  | .negative n => "integer `" ++ toString n ++ "`"
  | .floating x => "floating point `" ++ Text.shortestDecimal x ++ "`"

def Found.shown : Found → String
  | .null => "null"
  | .boolean b => "boolean `" ++ (if b then "true" else "false") ++ "`"
  | .number n => n.shown
  | .text s => "string " ++ Text.quoted s
  | .sequence => "sequence"
  | .object => "map"

-- The names of the variants that there are.
private def oneOf : List String → String
  | [] => "there are no variants"
  | [a] => "expected `" ++ a ++ "`"
  | [a, b] => "expected `" ++ a ++ "` or `" ++ b ++ "`"
  | names => "expected one of " ++ String.intercalate ", " (names.map fun n => "`" ++ n ++ "`")

namespace Cause

def message : Cause → String
  | .endInValue => "EOF while parsing a value"
  | .endInList => "EOF while parsing a list"
  | .endInObject => "EOF while parsing an object"
  | .endInString => "EOF while parsing a string"
  | .expectedColon => "expected `:`"
  | .expectedItemEnd => "expected `,` or `]`"
  | .expectedMemberEnd => "expected `,` or `\x7d`"
  | .expectedWord => "expected ident"
  | .expectedValue => "expected value"
  | .invalidEscape => "invalid escape"
  | .invalidNumber => "invalid number"
  | .numberOutOfRange => "number out of range"
  | .invalidCodePoint => "invalid unicode code point"
  | .controlCharacter =>
    "control character (\\u0000-\\u001F) found while parsing a string"
  | .keyNotString => "key must be a string"
  | .loneSurrogate => "lone leading surrogate in hex escape"
  | .unfinishedPair => "unexpected end of hex escape"
  | .trailingComma => "trailing comma"
  | .trailingCharacters => "trailing characters"
  | .tooDeep => "recursion limit exceeded"
  | .wrongType found expected => "invalid type: " ++ found.shown ++ ", expected " ++ expected
  | .wrongValue found expected => "invalid value: " ++ found.shown ++ ", expected " ++ expected
  | .wrongLength length expected =>
    "invalid length " ++ toString length ++ ", expected " ++ expected
  | .missingMember name => "missing field `" ++ name ++ "`"
  | .doubleMember name => "duplicate field `" ++ name ++ "`"
  | .unknownVariant name expected => "unknown variant `" ++ name ++ "`, " ++ oneOf expected
  | .refused reason => reason

-- The text is JSON, and it is its content that is not accepted.
def isAboutContent : Cause → Bool
  | .wrongType _ _ | .wrongValue _ _ | .wrongLength _ _ | .missingMember _ | .doubleMember _
  | .unknownVariant _ _ | .refused _ => true
  | _ => false

end Cause

-- The line of a place in a text, counted from one, and the number of bytes before the place in
-- that line.
def lineAndColumn (text : List UInt8) (offset : Nat) : Nat × Nat :=
  (text.take offset).foldl
    (fun (line, column) (byte : UInt8) =>
      if byte = 10 then (line + 1, 0) else (line, column + 1))
    (1, 0)

namespace Fault

-- The message, with the place in the text that was read.
def message (fault : Fault) (text : List UInt8) : String :=
  match fault.offset with
  | none => fault.cause.message
  | some offset =>
    let (line, column) := lineAndColumn text offset
    fault.cause.message ++ " at line " ++ toString line ++ " column " ++ toString column

private def pathFrom (first : Bool) : List PathPart → String
  | [] => ""
  | .member name :: rest => (if first then name else "." ++ name) ++ pathFrom false rest
  | .item index :: rest => "[" ++ toString index ++ "]" ++ pathFrom false rest

-- The message after the way to the part that the fault is in.
def messageWithPath (fault : Fault) (text : List UInt8) : String :=
  if fault.path.isEmpty then fault.message text
  else pathFrom true fault.path ++ ": " ++ fault.message text

end Fault

end Gallery.Json
