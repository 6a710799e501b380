import BandCatalog.Catalog.Band

/-!
# Pages of bands

One page of a listing, the filter that chooses its bands, and the request for it.
-/
namespace BandCatalog

/-- One page of results. -/
structure Page (α : Type) where
  content : List α
  totalElements : UInt64
  totalPages : UInt32
  number : UInt32
  size : UInt32
  deriving DecidableEq, Repr

namespace Page

def fields : List (List String) :=
  [["content"], ["totalElements"], ["totalPages"], ["number"], ["size"]]

def decode {α : Type} (item : Json.Decode α) : Json.Decode (Page α) := fun v => do
  let r ← Json.record? fields v
  let content ← (r 0).required (Json.decodeList item)
  let totalElements ← (r 1).default Json.decodeUInt64 0
  let totalPages ← (r 2).default Json.decodeUInt32 0
  let number ← (r 3).default Json.decodeUInt32 0
  let size ← (r 4).default Json.decodeUInt32 0
  some ⟨content, totalElements, totalPages, number, size⟩

def toJson {α : Type} (item : α → Json) (p : Page α) : Json :=
  .object [("content", .array (p.content.map item)),
    ("totalElements", .ofNat p.totalElements.toNat), ("totalPages", .ofNat p.totalPages.toNat),
    ("number", .ofNat p.number.toNat), ("size", .ofNat p.size.toNat)]

end Page

inductive SortDirection where
  | ascending
  | descending
  deriving DecidableEq, Repr

def SortDirection.name : SortDirection → String
  | ascending => "ASC"
  | descending => "DESC"

/-- Which page is asked for, and in which order. -/
structure PageRequest where
  page : UInt32
  size : UInt32
  sort : List String
  direction : Option SortDirection
  deriving DecidableEq, Repr

namespace PageRequest

/-- The first page of ten, in no particular order. -/
def first : PageRequest := ⟨0, 10, [], none⟩

/-- The parameters of a request; `sort` comes once for each field. -/
def parameters (p : PageRequest) : List (String × String) :=
  [("page", toString p.page.toNat), ("size", toString p.size.toNat)] ++ p.sort.map (("sort", ·)) ++
    (p.direction.map fun d => ("direction", d.name)).toList

end PageRequest

/-- What the bands of a listing have in common. What is not set is not sent. -/
structure Filter where
  name : Option String
  description : Option String
  genre : Option Genre
  frontManName : Option String
  bestAlbumName : Option String
  minParticipants : Option Int
  maxParticipants : Option Int
  establishedBefore : Option Calendar.Date
  establishedAfter : Option Calendar.Date
  createdBy : Option String
  deriving DecidableEq, Repr

namespace Filter

/-- The filter that every band passes. -/
def any : Filter := ⟨none, none, none, none, none, none, none, none, none, none⟩

/-- The fields that are set, by name. -/
def members (f : Filter) : List (String × Json) :=
  [("name", f.name.map .text), ("description", f.description.map .text),
    ("genre", f.genre.map Genre.toJson), ("frontManName", f.frontManName.map .text),
    ("bestAlbumName", f.bestAlbumName.map .text),
    ("minParticipants", f.minParticipants.map .ofInt),
    ("maxParticipants", f.maxParticipants.map .ofInt),
    ("establishmentDateBefore", f.establishedBefore.map Calendar.Date.toJson),
    ("establishmentDateAfter", f.establishedAfter.map Calendar.Date.toJson),
    ("createdBy", f.createdBy.map .text)].filterMap fun m => m.2.map (m.1, ·)

def toJson (f : Filter) : Json := .object f.members

/-- The fields that are set, as parameters of a request. -/
def parameters (f : Filter) : List (String × String) :=
  [("name", f.name), ("description", f.description), ("genre", f.genre.map Genre.name),
    ("frontManName", f.frontManName), ("bestAlbumName", f.bestAlbumName),
    ("minParticipants", f.minParticipants.map toString),
    ("maxParticipants", f.maxParticipants.map toString),
    ("establishmentDateBefore", f.establishedBefore.map Calendar.Date.toText),
    ("establishmentDateAfter", f.establishedAfter.map Calendar.Date.toText),
    ("createdBy", f.createdBy)].filterMap fun m => m.2.map (m.1, ·)

end Filter

end BandCatalog
