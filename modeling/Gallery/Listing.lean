import Gallery.Json.Decode
import Gallery.Json.Value
import Gallery.Time.Rfc3339

-- The listing of a folder: the images in it, in the order of their names.

namespace Gallery

structure ListingEntry where
  name : String
  size : Nat
  contentType : String
  lastModified : Instant
  -- Where the image can be fetched, once that is known.
  url : Option String
deriving DecidableEq

structure FolderListing where
  owner : String
  folder : String
  -- Where the listing can be fetched, once that is known.
  url : Option String
  entries : List ListingEntry
deriving DecidableEq

open Json

-- An instant as it is written in JSON.
def Instant.reader : Reader Instant :=
  Reader.textAs "an RFC 3339 formatted date and time string" fun s =>
    (Rfc3339.read s).mapError TimeFault.message

namespace ListingEntry

def toJson (e : ListingEntry) : Value :=
  .object ([("name", .text e.name), ("size", .number e.size),
    ("content_type", .text e.contentType), ("last_modified", .text e.lastModified.rfc3339)]
    ++ Value.optional "url" (e.url.map .text))

def reader : Reader ListingEntry :=
  Reader.record "ListingEntry"
    [.of "name" .required .text fun s e => { e with name := s },
     .of "size" .required .unsignedWord fun n e => { e with size := n },
     .of "content_type" .required .text fun s e => { e with contentType := s },
     .of "last_modified" .required Instant.reader fun t e => { e with lastModified := t },
     .of "url" .optional (.option .text) fun s e => { e with url := s }]
    ⟨"", 0, "", .epoch, none⟩

end ListingEntry

namespace FolderListing

def names (l : FolderListing) : List String := l.entries.map (·.name)

def toJson (l : FolderListing) : Value :=
  .object ([("owner", .text l.owner), ("folder", .text l.folder)]
    ++ Value.optional "url" (l.url.map .text)
    ++ [("entries", .array (l.entries.map ListingEntry.toJson))])

def reader : Reader FolderListing :=
  Reader.record "FolderListing"
    [.of "owner" .required .text fun s l => { l with owner := s },
     .of "folder" .required .text fun s l => { l with folder := s },
     .of "url" .optional (.option .text) fun s l => { l with url := s },
     .of "entries" .required (.list ListingEntry.reader) fun es l => { l with entries := es }]
    ⟨"", "", none, []⟩

end FolderListing

end Gallery
