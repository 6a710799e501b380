/-!
# Headers

The headers of a request: several values may stand under one name, whatever the case of its letters,
in the order in which they were added.
-/
namespace BandCatalog.Http

/-- A header; the name is in lower case. A sensitive value stays out of logs. -/
structure Header where
  name : String
  value : String
  sensitive : Bool
  deriving DecidableEq, Repr

abbrev Headers := List Header

def lowerName (s : String) : String := String.ofList (s.toList.map Char.toLower)

namespace Headers

def add (h : Headers) (name value : String) : Headers := h ++ [⟨lowerName name, value, false⟩]

def remove (h : Headers) (name : String) : Headers := h.filter (·.name ≠ lowerName name)

/-- One value in place of all that stood under the name. -/
def set (h : Headers) (name value : String) (sensitive : Bool) : Headers :=
  h.remove name ++ [⟨lowerName name, value, sensitive⟩]

/-- The values under a name, in order. -/
def values (h : Headers) (name : String) : List String :=
  (h.filter (·.name = lowerName name)).map Header.value

/-- The headers ordered by name; those of one name keep their order. -/
def sorted (h : Headers) : Headers := h.mergeSort fun a b => a.name ≤ b.name

end Headers

/-- Bytes that a header value may hold: no control character but the tab. -/
def isHeaderValue (s : String) : Bool :=
  s.toList.all fun c => (0x20 ≤ c.toNat || c == '\t') && c.toNat != 0x7F

end BandCatalog.Http
