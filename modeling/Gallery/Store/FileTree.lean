import Gallery.Store.SystemError
import Gallery.Text.Utf8
import Gallery.Time.Instant
import Std.Data.ExtTreeMap

-- A tree of directories, files and links, with the operations of a file system. Each entry is kept
-- under its path from the root, so two trees are equal if they hold the same entries. The root
-- itself is always there and always a directory.

namespace Gallery

-- The bytes of a name.
abbrev FileName := List UInt8

-- The names on the way from the root.
abbrev FilePath := List FileName

namespace FilePath

-- The slash.
def separator : UInt8 := 47

-- The names between slashes; `name` is the one being read, the last byte first.
def split (name : FileName) : List UInt8 → FilePath
  | [] => [name.reverse]
  | b :: rest => if b = separator then name.reverse :: split [] rest else split (b :: name) rest

-- The name that leads to the directory above.
def above : FileName := [46, 46]

-- The path that bytes stand for: empty names and single full stops do not count.
def ofBytes (bytes : List UInt8) : FilePath :=
  (split [] bytes).filter fun name => name ≠ [] && name ≠ [46]

def ofString (s : String) : FilePath := ofBytes (Text.utf8 s)

end FilePath

namespace FileTree

inductive Entry where
  | file (content : ByteArray) (modified : Instant)
  | directory (mode : Nat)
  | link (target : FilePath)

-- Where a path leads: to an entry, or to a place in a directory where there is none.
inductive Place where
  | entry (path : FilePath)
  | vacant (path : FilePath)
deriving DecidableEq

end FileTree

structure FileTree where
  entries : Std.ExtTreeMap FilePath FileTree.Entry

namespace FileTree

def empty : FileTree := ⟨∅⟩

def directoryMode : Nat := 0o755

def lookup (t : FileTree) (path : FilePath) : Option Entry :=
  if path = [] then some (.directory directoryMode) else t.entries[path]?

def put (t : FileTree) (path : FilePath) (e : Entry) : FileTree := ⟨t.entries.insert path e⟩

def erase (t : FileTree) (path : FilePath) : FileTree := ⟨t.entries.erase path⟩

-- The longest name, in bytes.
def maxName : Nat := 255

-- How many links are followed on the way along a path.
def maxLinks : Nat := 40

-- Follows a path from a directory on. A link on the way is always followed, and one at the end
-- only if that is asked for.
def walk (t : FileTree) (followLast : Bool) (links : Nat) (here : FilePath) (rest : FilePath) :
    Except SystemError Place :=
  match rest with
  | [] => .ok (.entry here)
  | name :: rest =>
    if name = FilePath.above then walk t followLast links here.dropLast rest
    else if maxName < name.length then .error .nameTooLong
    else
      let path := here ++ [name]
      match t.lookup path with
      | none => if rest = [] then .ok (.vacant path) else .error .noEntry
      | some (.directory _) => walk t followLast links path rest
      | some (.file _ _) => if rest = [] then .ok (.entry path) else .error .notADirectory
      | some (.link target) =>
        if rest = [] && !followLast then .ok (.entry path)
        else match links with
          | 0 => .error .tooManyLinks
          | links + 1 => walk t followLast links [] (target ++ rest)
termination_by (links, rest.length)

-- Where a path leads, links at its end included.
def locate (t : FileTree) (path : FilePath) : Except SystemError Place :=
  t.walk true maxLinks [] path

-- Where a path leads; a link at its end is an entry of its own.
def locateLink (t : FileTree) (path : FilePath) : Except SystemError Place :=
  t.walk false maxLinks [] path

def entryAt (t : FileTree) (path : FilePath) : Except SystemError Entry :=
  match t.locate path with
  | .error e => .error e
  | .ok (.vacant _) => .error .noEntry
  | .ok (.entry path) => (t.lookup path).elim (.error .noEntry) .ok

def isDirectory (t : FileTree) (path : FilePath) : Bool :=
  match t.entryAt path with
  | .ok (.directory _) => true
  | _ => false

-- The names in a directory, and what they stand for.
def children (t : FileTree) (directory : FilePath) : List (FileName × Entry) :=
  t.entries.toList.filterMap fun (path, e) =>
    match path.getLast? with
    | some name => if path.dropLast = directory then some (name, e) else none
    | none => none

-- The names in the directory that a path leads to.
def readDirectory (t : FileTree) (path : FilePath) :
    Except SystemError (List (FileName × Entry)) :=
  match t.locate path with
  | .error e => .error e
  | .ok (.vacant _) => .error .noEntry
  | .ok (.entry path) =>
    match t.lookup path with
    | some (.directory _) => .ok (t.children path)
    | some _ => .error .notADirectory
    | none => .error .noEntry

-- A change of a tree, which may fail; what was changed before it failed stays changed.
abbrev Change (α : Type) := EStateM SystemError FileTree α

-- A new directory, in one that is there.
def makeDirectory (path : FilePath) : Change Unit := fun t =>
  match t.locateLink path with
  | .error e => .error e t
  | .ok (.entry _) => .error .alreadyExists t
  | .ok (.vacant path) => .ok () (t.put path (.directory directoryMode))

-- A directory that is made at a path, unless there is one already.
def makeOrKeep (path : FilePath) : Change Unit := fun t =>
  match makeDirectory path t with
  | .ok _ t => .ok () t
  | .error e t => if t.isDirectory path then .ok () t else .error e t

-- The directory whose path is given from its end, and those above it.
def makeAllFrom : FilePath → Change Unit
  | [] => makeOrKeep []
  | name :: above => fun t =>
    let path := (name :: above).reverse
    match makeDirectory path t with
    | .ok _ t => .ok () t
    | .error e t =>
      if e ≠ .noEntry then
        if t.isDirectory path then .ok () t else .error e t
      else match makeAllFrom above t with
        | .ok _ t => makeOrKeep path t
        | .error e t => .error e t

-- The directory at a path, with all that are missing above it.
def makeDirectories (path : FilePath) : Change Unit := makeAllFrom path.reverse

-- A file with the given content: a new one, or one that loses what it held.
def writeFile (path : FilePath) (content : ByteArray) (now : Instant) : Change Unit := fun t =>
  match t.locate path with
  | .error e => .error e t
  | .ok (.vacant path) => .ok () (t.put path (.file content now))
  | .ok (.entry path) =>
    match t.lookup path with
    | some (.directory _) => .error .isADirectory t
    | _ => .ok () (t.put path (.file content now))

-- Moves the entry at a path, which is no directory, to another path, in the place of what may be
-- there.
def move (source target : FilePath) : Change Unit := fun t =>
  match t.locateLink source, t.locateLink target with
  | .error e, _ => .error e t
  | _, .error e => .error e t
  | .ok (.vacant _), _ => .error .noEntry t
  | .ok (.entry source), .ok place =>
    let (target, occupant) := match place with
      | .vacant path => (path, none)
      | .entry path => (path, t.lookup path)
    match t.lookup source, occupant with
    | none, _ => .error .noEntry t
    | some _, some (.directory _) => .error .isADirectory t
    | some e, _ => .ok () ((t.erase source).put target e)

def removeFile (path : FilePath) : Change Unit := fun t =>
  match t.locateLink path with
  | .error e => .error e t
  | .ok (.vacant _) => .error .noEntry t
  | .ok (.entry path) =>
    match t.lookup path with
    | some (.directory _) => .error .isADirectory t
    | _ => .ok () (t.erase path)

-- Removes whatever is at a path, with all that is below it.
def removeAll (path : FilePath) : Change Unit := fun t =>
  match t.locateLink path with
  | .error e => .error e t
  | .ok (.vacant _) => .error .noEntry t
  | .ok (.entry path) => .ok () ⟨t.entries.filter fun other _ => !path.isPrefixOf other⟩

-- A link to another path.
def makeLink (path target : FilePath) : Change Unit := fun t =>
  match t.locateLink path with
  | .error e => .error e t
  | .ok (.entry _) => .error .alreadyExists t
  | .ok (.vacant path) => .ok () (t.put path (.link target))

-- Changes the mode of a directory; the mode of a file is not kept.
def setMode (path : FilePath) (mode : Nat) : Change Unit := fun t =>
  match t.locate path with
  | .error e => .error e t
  | .ok (.vacant _) => .error .noEntry t
  | .ok (.entry path) =>
    match t.lookup path with
    | some (.directory _) => .ok () (t.put path (.directory mode))
    | _ => .ok () t

-- Changes the time at which a file was last changed; that of a directory is not kept.
def setModified (path : FilePath) (time : Instant) : Change Unit := fun t =>
  match t.locate path with
  | .error e => .error e t
  | .ok (.vacant _) => .error .noEntry t
  | .ok (.entry path) =>
    match t.lookup path with
    | some (.file content _) => .ok () (t.put path (.file content time))
    | _ => .ok () t

end FileTree

end Gallery
