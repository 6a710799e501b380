/-!
# Binary floating point

Magnitudes m·2^e of a format with a fixed number of significant bits, and the one rounding that all
arithmetic on them uses: to the nearest, a tie to the even neighbour. Everything is exact arithmetic
on natural numbers.
-/
namespace BandCatalog.Binary

/-- Significant bits, the least exponent of a unit, and the exponent of the first power of two that
is too large. -/
structure Format where
  precision : Nat
  least : Int
  overflow : Nat
  deriving DecidableEq, Repr

def Format.double : Format := ⟨53, -1074, 1024⟩

def Format.single : Format := ⟨24, -149, 128⟩

/-- The magnitude m·2^e. -/
structure Magnitude where
  significand : Nat
  exponent : Int
  deriving DecidableEq, Repr

namespace Magnitude

def zero : Magnitude := ⟨0, 0⟩

/-- A magnitude as a fraction. -/
def numerator (x : Magnitude) : Nat := x.significand * Nat.pow 2 x.exponent.toNat
def denominator (x : Magnitude) : Nat := Nat.pow 2 (-x.exponent).toNat

end Magnitude

/-- A quotient rounded to the nearest integer, a tie to the even one. -/
def divideToEven (a b : Nat) : Nat :=
  let q := a / b
  let r := a % b
  if 2 * r > b ∨ (2 * r = b ∧ q % 2 = 1) then q + 1 else q

/-- Which of two equally near integers a quotient is rounded to. -/
inductive Tie where
  | even
  | up
  deriving DecidableEq, Repr

/-- A quotient rounded to the nearest integer. -/
def Tie.divide : Tie → Nat → Nat → Nat
  | even, a, b => divideToEven a b
  | up, a, b => (2 * a + b) / (2 * b)

/-- The exponent of the unit in which `a / b` is rounded. -/
def Format.unit (f : Format) (a b : Nat) : Int :=
  let e := (Nat.log2 a : Int) - Nat.log2 b - (f.precision - 1)
  -- the quotient lies in [2^(precision-2), 2^precision) units of this exponent
  let tight := a * Nat.pow 2 (-e).toNat < b * Nat.pow 2 e.toNat * Nat.pow 2 (f.precision - 1)
  max f.least (if tight then e - 1 else e)

/-- The nearest magnitude of a format to `a / b`; nothing if that is too large. A significand that
rounding carried to the next power of two is written in the next larger unit. -/
def Format.round (f : Format) (a b : Nat) : Option Magnitude :=
  if a = 0 then some .zero
  else
    let e := f.unit a b
    let n := divideToEven (a * Nat.pow 2 (-e).toNat) (b * Nat.pow 2 e.toNat)
    let x : Magnitude := if n = Nat.pow 2 f.precision then ⟨Nat.pow 2 (f.precision - 1), e + 1⟩ else ⟨n, e⟩
    if x.numerator ≥ Nat.pow 2 f.overflow * x.denominator then none else some x

def Format.multiply (f : Format) (x y : Magnitude) : Option Magnitude :=
  f.round (x.numerator * y.numerator) (x.denominator * y.denominator)

def Format.divide (f : Format) (x y : Magnitude) : Option Magnitude :=
  f.round (x.numerator * y.denominator) (x.denominator * y.numerator)

end BandCatalog.Binary
