import BandCatalog.Account.User
import BandCatalog.Binary.Single

/-!
# Music bands

A band of the catalog with its coordinates, best album and front man.
-/
namespace BandCatalog

inductive Genre where
  | progressiveRock
  | soul
  | rock
  | postRock
  | punkRock
  | postPunk
  deriving DecidableEq, Repr

namespace Genre

def all : List Genre := [progressiveRock, soul, rock, postRock, punkRock, postPunk]

def name : Genre → String
  | progressiveRock => "PROGRESSIVE_ROCK"
  | soul => "SOUL"
  | rock => "ROCK"
  | postRock => "POST_ROCK"
  | punkRock => "PUNK_ROCK"
  | postPunk => "POST_PUNK"

def label : Genre → String
  | progressiveRock => "Prog Rock"
  | soul => "Soul"
  | rock => "Rock"
  | postRock => "Post Rock"
  | punkRock => "Punk Rock"
  | postPunk => "Post Punk"

/-- The genre of exactly that name. -/
def ofName? (s : String) : Option Genre := all.find? fun g => g.name = s

@[simp] theorem ofName?_name (g : Genre) : ofName? g.name = some g := by cases g <;> decide

def decode : Json.Decode Genre := Json.decodeWord ofName?

def toJson (g : Genre) : Json := .text g.name

end Genre

structure Coordinates where
  id : Option Int
  x : Int
  y : Binary.Single
  deriving DecidableEq, Repr

namespace Coordinates

def decode : Json.Decode Coordinates := fun v => do
  let r ← Json.record? [["id"], ["x"], ["y"]] v
  let id ← (r 0).optional Json.decodeInt64
  let x ← (r 1).required Json.decodeInt32
  let y ← (r 2).required Binary.Single.decode
  some ⟨id, x, y⟩

def toJson (c : Coordinates) : Json :=
  .object [("id", .ofOption .ofInt c.id), ("x", .ofInt c.x), ("y", c.y.toJson)]

end Coordinates

structure Album where
  id : Option Int
  name : String
  tracks : Option Int
  sales : Option Int
  deriving DecidableEq, Repr

namespace Album

def decode : Json.Decode Album := fun v => do
  let r ← Json.record? [["id"], ["name"], ["tracks"], ["sales"]] v
  let id ← (r 0).optional Json.decodeInt64
  let name ← (r 1).required Json.decodeText
  let tracks ← (r 2).optional Json.decodeInt64
  let sales ← (r 3).optional Json.decodeInt32
  some ⟨id, name, tracks, sales⟩

def toJson (a : Album) : Json :=
  .object [("id", .ofOption .ofInt a.id), ("name", .text a.name),
    ("tracks", .ofOption .ofInt a.tracks), ("sales", .ofOption .ofInt a.sales)]

end Album

structure Person where
  id : Option Int
  name : String
  deriving DecidableEq, Repr

namespace Person

def decode : Json.Decode Person := fun v => do
  let r ← Json.record? [["id"], ["name"]] v
  let id ← (r 0).optional Json.decodeInt64
  let name ← (r 1).required Json.decodeText
  some ⟨id, name⟩

def toJson (p : Person) : Json := .object [("id", .ofOption .ofInt p.id), ("name", .text p.name)]

end Person

/-- The date of an establishment: milliseconds from the start of 1970, or a text that begins with a
date. A date that does not exist counts as none, a value of another kind is refused. -/
def decodeEstablishment : Json.Decode (Option Calendar.Date)
  | .null => some none
  | .text s => some (Calendar.Date.leading? s)
  | v => (Json.decodeInt64 v).map Calendar.Date.ofMilliseconds?

structure Band where
  id : Int
  name : String
  coordinates : Option Coordinates
  genre : Option Genre
  participants : Option Int
  singles : Option Int
  description : Option String
  bestAlbum : Option Album
  albums : Option Int
  established : Option Calendar.Date
  frontMan : Option Person
  createdBy : Option String
  created : Option Calendar.DateTime
  deriving DecidableEq, Repr

namespace Band

def fields : List (List String) :=
  [["id"], ["name"], ["coordinates"], ["genre"], ["numberOfParticipants"], ["singlesCount"],
    ["description"], ["bestAlbum"], ["albumsCount"], ["establishmentDate"], ["frontMan"],
    ["createdBy"], ["createdDate"]]

def decode : Json.Decode Band := fun v => do
  let r ← Json.record? fields v
  let id ← (r 0).required Json.decodeInt64
  let name ← (r 1).required Json.decodeText
  let coordinates ← (r 2).optional Coordinates.decode
  let genre ← (r 3).optional Genre.decode
  let participants ← (r 4).optional Json.decodeInt64
  let singles ← (r 5).optional Json.decodeInt64
  let description ← (r 6).optional Json.decodeText
  let bestAlbum ← (r 7).optional Album.decode
  let albums ← (r 8).optional Json.decodeInt64
  let established ← (r 9).default decodeEstablishment none
  let frontMan ← (r 10).optional Person.decode
  let createdBy ← (r 11).optional Json.decodeText
  let created ← (r 12).optional Calendar.DateTime.decode
  some ⟨id, name, coordinates, genre, participants, singles, description, bestAlbum, albums,
    established, frontMan, createdBy, created⟩

def toJson (b : Band) : Json :=
  .object [("id", .ofInt b.id), ("name", .text b.name),
    ("coordinates", .ofOption Coordinates.toJson b.coordinates),
    ("genre", .ofOption Genre.toJson b.genre),
    ("numberOfParticipants", .ofOption .ofInt b.participants),
    ("singlesCount", .ofOption .ofInt b.singles),
    ("description", .ofOptionText b.description),
    ("bestAlbum", .ofOption Album.toJson b.bestAlbum),
    ("albumsCount", .ofOption .ofInt b.albums),
    ("establishmentDate", .ofOption Calendar.Date.toJson b.established),
    ("frontMan", .ofOption Person.toJson b.frontMan),
    ("createdBy", .ofOptionText b.createdBy),
    ("createdDate", .ofOption Calendar.DateTime.toJson b.created)]

/-- The label of the genre, or `Unknown`. -/
def genreLabel (b : Band) : String := (b.genre.map Genre.label).getD "Unknown"

end Band

end BandCatalog
