/-!
# JSON values

A value keeps the members of an object in the order they are written, repeated names included, and a
number as it is written, so that every reader decides for itself what repetition and precision mean.
-/
namespace BandCatalog

/-- A number as it is written. The whole part has no needless zeros, so its value gives its digits;
the fraction is empty where no point stands. -/
structure Json.Number where
  negative : Bool
  whole : Nat
  fraction : List (Fin 10)
  exponent : Option Int
  deriving DecidableEq, Repr

/-- A JSON value. `unreadable` is a value that is well formed but holds, in itself or in a member's
name, half a surrogate pair: it can be skipped, never read. -/
inductive Json where
  | null
  | bool (b : Bool)
  | number (n : Json.Number)
  | text (s : String)
  | array (items : List Json)
  | object (members : List (String × Json))
  | unreadable
  deriving Repr, Inhabited

namespace Json

namespace Number

def ofNat (n : Nat) : Number := ⟨false, n, [], none⟩

def ofInt (i : Int) : Number := ⟨decide (i < 0), i.natAbs, [], none⟩

/-- The integer that a number is written as. A point, an exponent and the sign of `-0` make it a
number of another kind. -/
def integer? (n : Number) : Option Int :=
  if n.fraction = [] ∧ n.exponent = none ∧ ¬(n.negative = true ∧ n.whole = 0) then
    some (if n.negative then -(n.whole : Int) else n.whole)
  else none

@[simp] theorem integer?_ofNat (n : Nat) : (ofNat n).integer? = some (n : Int) := by
  simp [integer?, ofNat]

@[simp] theorem integer?_ofInt (i : Int) : (ofInt i).integer? = some i := by
  unfold integer? ofInt
  rw [if_pos ⟨rfl, rfl, by simp only [decide_eq_true_eq]; omega⟩]
  by_cases h : i < 0
  · rw [if_pos (by simpa using h)]
    exact congrArg some (show -(i.natAbs : Int) = i by omega)
  · rw [if_neg (by simpa using h)]
    exact congrArg some (show (i.natAbs : Int) = i by omega)

end Number

def ofNat (n : Nat) : Json := .number (.ofNat n)

def ofInt (i : Int) : Json := .number (.ofInt i)

/-- `null` for nothing. -/
def ofOption {α : Type} (f : α → Json) : Option α → Json
  | none => .null
  | some a => f a

def ofOptionText (s : Option String) : Json := ofOption .text s

end Json

end BandCatalog
