import Gallery.Json.Numeral
import Gallery.Json.Quoted
import Gallery.Json.Value

-- Reading values of a known type: texts, numbers, lists and records. A record is an object whose
-- members may come in any order and among others, or an array of the members in their order.

namespace Gallery.Json

namespace Reader

variable {α β : Type}

-- What is in the place of something else.
def found : Reader Found := do
  match ← peek with
  | some 110 => do
    word "null"
    return .null
  | some 116 => do
    word "true"
    return .boolean true
  | some 102 => do
    word "false"
    return .boolean false
  | some 34 => return .text (← stringBody)
  | some 91 => return .sequence
  | some 123 => return .object
  | some byte =>
    if byte = 45 || (48 ≤ byte && byte ≤ 57) then return .number (← number)
    else failNext .expectedValue
  | none => failNext .expectedValue

-- A value that is not of the type that is expected.
def unexpected (expected : String) : Reader α :=
  located do failSomewhere (.wrongType (← found) expected)

def valueStart : Reader UInt8 := do
  match ← peekWord with
  | some byte => return byte
  | none => failNext .endInValue

-- A text, which is taken further by the rules of its type.
def textAs (expected : String) (accept : String → Except String α) : Reader α := do
  if (← valueStart) = 34 then
    located do
      match accept (← stringBody) with
      | .ok a => return a
      | .error reason => failSomewhere (.refused reason)
  else
    unexpected expected

def text : Reader String := textAs "a string" .ok

def wholeNumber (expected : String) (low high : Int) : Reader Int := do
  let start ← valueStart
  if start = 45 || (48 ≤ start && start ≤ 57) then
    located do
      let n ← number
      match n with
      | .natural k =>
        if k ≤ high then return k else failSomewhere (.wrongValue (.number n) expected)
      | .negative k =>
        if low ≤ k then return k else failSomewhere (.wrongValue (.number n) expected)
      | .floating _ => failSomewhere (.wrongType (.number n) expected)
  else
    unexpected expected

def unsignedWord : Reader Nat := return (← wholeNumber "u64" 0 0xffffffffffffffff).toNat

def signedWord : Reader Int := wholeNumber "i64" (-0x8000000000000000) 0x7fffffffffffffff

def option (r : Reader α) : Reader (Option α) := do
  if (← peekWord) = some 110 then
    word "null"
    return none
  else
    return some (← r)

-- Whether another item of an array comes; the reader then stands before it.
def anotherItem (first : Bool) : Reader Bool := do
  match ← peekWord with
  | none => failNext .endInList
  | some 93 => return false
  | some byte =>
    if first then return true
    else if byte = 44 then
      skip 1
      match ← peekWord with
      | some 93 => failNext .trailingComma
      | some _ => return true
      | none => failNext .endInValue
    else failNext .expectedItemEnd

-- Whether another member of an object comes; the reader then stands before its name.
def anotherMember (first : Bool) : Reader Bool := do
  match ← peekWord with
  | none => failNext .endInObject
  | some 125 => return false
  | some byte =>
    if !first then
      if byte = 44 then skip 1 else failNext .expectedMemberEnd
    match ← peekWord with
    | some 34 => return true
    | some 125 => failNext .trailingComma
    | some _ => failNext .keyNotString
    | none => failNext .endInValue

def closeArray : Reader Unit := do
  match ← peekWord with
  | some 93 => skip 1
  | some 44 =>
    skip 1
    if (← peekWord) = some 93 then failNext .trailingComma else failNext .trailingCharacters
  | some _ => failNext .trailingCharacters
  | none => failNext .endInList

def closeObject : Reader Unit := do
  match ← peekWord with
  | some 125 => skip 1
  | some 44 => failNext .trailingComma
  | some _ => failNext .trailingCharacters
  | none => failNext .endInObject

def colon : Reader Unit := do
  match ← peekWord with
  | some 58 => skip 1
  | some _ => failNext .expectedColon
  | none => failNext .endInObject

private def items (r : Reader α) (index : Nat) (done : List α) : Nat → Reader (List α)
  | 0 => return done.reverse
  | fuel + 1 => do
    if ← anotherItem (index = 0) then
      let a ← within (.item index) r
      items r (index + 1) (a :: done) fuel
    else
      return done.reverse

def list (r : Reader α) : Reader (List α) := do
  if (← valueStart) = 91 then
    located (closedBy closeArray do
      skip 1
      items r 0 [] ((← get).rest.length + 1))
  else
    unexpected "a sequence"

-- What this reader would read, if it could. The reader stays where it is.
def lookAhead (r : Reader α) : Reader (Option α) := fun cursor =>
  match r cursor with
  | .ok a _ => .ok (some a) cursor
  | .error _ _ => .ok none cursor

private def namedItems (r : Reader α) (first : Bool) (done : List (String × α)) :
    Nat → Reader (List (String × α))
  | 0 => return done.reverse
  | fuel + 1 => do
    if ← anotherMember first then
      let name ← stringBody
      colon
      let a ← r
      namedItems r false ((name, a) :: done) fuel
    else
      return done.reverse

-- An object, with all members and all values of one type.
def object (expected : String) (r : Reader α) : Reader (List (String × α)) := do
  if (← valueStart) = 123 then
    located (closedBy closeObject do
      skip 1
      namedItems r true [] ((← get).rest.length + 1))
  else
    unexpected expected

-- How many arrays and objects may be inside of each other.
def maxDepth : Nat := 127

-- A value with nothing inside of it.
def scalar : Reader Value := do
  match ← found with
  | .boolean b => return .boolean b
  | .number (.natural n) => return .number n
  | .number (.negative n) => return .number n
  | .number (.floating x) => return .floating x
  | .text s => return .text s
  | _ => return .null

-- Any value, with at most so many arrays and objects inside of each other.
def value : Nat → Reader Value
  | 0 => do
    match ← valueStart with
    | 91 | 123 => failNext .tooDeep
    | _ => scalar
  | depth + 1 => do
    match ← valueStart with
    | 91 => return .array (← list (value depth))
    | 123 => return .object (← object "a map" (value depth))
    | _ => scalar

-- A bracket that is open around the place of the reader.
inductive Enclosure where
  | array
  | object

-- The name of a member and the colon after it, whatever the name is.
def passName : Reader Unit := do
  match ← peekWord with
  | some 34 => passString
  | some _ => failNext .keyNotString
  | none => failNext .endInObject
  colon

mutual

-- A value inside of the given brackets, and all up to the end of the outermost one.
def passInside (enclosures : List Enclosure) : Nat → Reader Unit
  | 0 => failNext .tooDeep
  | fuel + 1 => do
    match ← valueStart with
    | 110 => do
      word "null"
      passAfter true enclosures fuel
    | 116 => do
      word "true"
      passAfter true enclosures fuel
    | 102 => do
      word "false"
      passAfter true enclosures fuel
    | 34 => do
      passString
      passAfter true enclosures fuel
    | 91 => do
      skip 1
      passAfter false (.array :: enclosures) fuel
    | 123 => do
      skip 1
      passAfter false (.object :: enclosures) fuel
    | byte =>
      if byte = 45 || (48 ≤ byte && byte ≤ 57) then do
        passNumber
        passAfter true enclosures fuel
      else failNext .expectedValue

-- What comes in brackets after a value, or after the opening bracket.
def passAfter (afterValue : Bool) : List Enclosure → Nat → Reader Unit
  | [], _ => return ()
  | _, 0 => failNext .tooDeep
  | .array :: outer, fuel + 1 => do
    match ← peekWord with
    | none => failNext .endInList
    | some 93 => do
      skip 1
      passAfter true outer fuel
    | some byte =>
      if !afterValue then passInside (.array :: outer) fuel
      else if byte = 44 then do
        skip 1
        passInside (.array :: outer) fuel
      else failNext .expectedItemEnd
  | .object :: outer, fuel + 1 => do
    match ← peekWord with
    | none => failNext .endInObject
    | some 125 => do
      skip 1
      passAfter true outer fuel
    | some byte =>
      if !afterValue then do
        passName
        passInside (.object :: outer) fuel
      else if byte = 44 then do
        skip 1
        passName
        passInside (.object :: outer) fuel
      else failNext .expectedMemberEnd

end

-- A value, whatever it is. Each step but the first and the last reads a byte.
def pass : Reader Unit := do passInside [] (2 * (← get).rest.length + 2)

-- Whether a record can do without a member.
inductive Presence where
  -- The member must be there.
  | required
  -- The member may be missing in an object.
  | optional
  -- The member may be missing in an object, and at the end of an array.
  | defaulted
deriving DecidableEq

-- A member of a record: its name, and how it is read into what has been read so far.
structure Member (α : Type) where
  name : String
  presence : Presence
  read : α → Reader α

-- A member that is read on its own and then put in its place.
def Member.of (name : String) (presence : Presence) (r : Reader β) (put : β → α → α) : Member α :=
  ⟨name, presence, fun a => return put (← r) a⟩

-- A member of which nothing is kept, but which must be readable.
def Member.checked (name : String) (presence : Presence) (r : Reader β) : Member α :=
  .of name presence r fun _ a => a

-- The members of an object; `seen` holds the names of those of the record that have come.
def membersOf (members : List (Member α)) (first : Bool) (seen : List String) (a : α) :
    Nat → Reader (List String × α)
  | 0 => return (seen, a)
  | fuel + 1 => do
    if ← anotherMember first then
      let name ← stringBody
      match members.find? (·.name == name) with
      | some m =>
        if seen.contains name then failSomewhere (.doubleMember name)
        else
          colon
          let a ← within (.member name) (m.read a)
          membersOf members false (name :: seen) a fuel
      | none =>
        colon
        within (.member name) pass
        membersOf members false seen a fuel
    else
      return (seen, a)

-- The items of an array, as the members of a record.
def itemsOf (shape : String) (index : Nat) (a : α) : List (Member α) → Reader α
  | [] => return a
  | m :: rest => do
    if ← anotherItem (index = 0) then
      let a ← within (.item index) (m.read a)
      itemsOf shape (index + 1) a rest
    else if m.presence = .defaulted then
      itemsOf shape (index + 1) a rest
    else
      failSomewhere (.wrongLength index shape)

-- A record with a name, starting from one with nothing in it.
def record (name : String) (members : List (Member α)) (blank : α) : Reader α := do
  match ← valueStart with
  | 123 =>
    located (closedBy closeObject do
      skip 1
      let (seen, a) ← membersOf members true [] blank ((← get).rest.length + 1)
      match members.find? fun m => m.presence = .required && !seen.contains m.name with
      | some m => failSomewhere (.missingMember m.name)
      | none => return a)
  | 91 =>
    let count := toString members.length ++ if members.length = 1 then " element" else " elements"
    located (closedBy closeArray do
      skip 1
      itemsOf ("struct " ++ name ++ " with " ++ count) 0 blank members)
  | _ => unexpected ("struct " ++ name)

-- A word out of a list, given as a text.
def variant (choices : List (String × α)) : Reader α := do
  match ← peekWord with
  | some 34 =>
    located do
      let name ← stringBody
      match choices.lookup name with
      | some a => return a
      | none => failSomewhere (.unknownVariant name (choices.map (·.1)))
  | some _ => failNext .expectedValue
  | none => failNext .endInValue

-- Nothing but blanks may follow.
def finish : Reader Unit := do
  if (← peekWord).isSome then failNext .trailingCharacters

-- The value that a text holds, with nothing after it.
def run (r : Reader α) (text : List UInt8) : Except Fault α :=
  let whole : Reader α := do
    let a ← r
    finish
    return a
  match EStateM.run whole ⟨text, 0⟩ with
  | .ok a _ => .ok a
  | .error fault _ => .error fault

end Reader

end Gallery.Json
