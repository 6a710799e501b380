/-!
# Tables of characters

Tables written as numbers with blanks between them. Characters come in runs; a run is given by its
distance from the end of the one before, its length, and what the table says of its characters.
-/
namespace BandCatalog.Text

/-- The numbers in a text, the first of which may have begun before it. -/
def numbersFrom : Option Nat → List Char → List Nat
  | n, [] => n.toList
  | n, c :: cs =>
    if c.isDigit then numbersFrom (some (n.getD 0 * 10 + (c.toNat - '0'.toNat))) cs
    else n.toList ++ numbersFrom none cs

def numbers (s : String) : List Nat := numbersFrom none s.toList

/-- Characters one after the other, of which a table says the same. -/
structure Run where
  first : Nat
  length : Nat
  value : Nat
  deriving DecidableEq, Repr

namespace Run

def contains (r : Run) (c : Char) : Bool := r.first ≤ c.toNat && c.toNat < r.first + r.length

/-- Runs of a set, from the end of the run before. -/
def ofSet (last : Nat) : List Nat → List Run
  | gap :: length :: ns => ⟨last + gap, length, 1⟩ :: ofSet (last + gap + length) ns
  | _ => []

/-- Runs with values, from the end of the run before. -/
def ofValues (last : Nat) : List Nat → List Run
  | gap :: length :: value :: ns =>
    ⟨last + gap, length, value⟩ :: ofValues (last + gap + length) ns
  | _ => []

end Run

/-- What runs say of a character; zero where they say nothing. -/
def valueIn (rs : List Run) (c : Char) : Nat := ((rs.find? (·.contains c)).map Run.value).getD 0

def isIn (rs : List Run) (c : Char) : Bool := rs.any (·.contains c)

end BandCatalog.Text
