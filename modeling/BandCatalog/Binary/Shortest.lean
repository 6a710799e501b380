import BandCatalog.Binary.Rounding

/-!
# Shortest decimals

The fewest digits that read back as a given magnitude, and of those the nearest. A decimal grid has a
point in the interval of numbers that round to the magnitude exactly if one of the magnitude's two
neighbours on the grid lies in it, so the first grid with a hit decides. Two neighbours may be equally
near, as 1024.0312 and 1024.0313 are to 1024.03125 in single precision; then a rule for ties decides.
-/
namespace BandCatalog.Binary

/-- The number digits·10^exponent. -/
structure Decimal where
  digits : Nat
  exponent : Int
  deriving DecidableEq, Repr

/-- The numbers that round to a magnitude, as fractions of one denominator. -/
structure Interval where
  low : Nat
  high : Nat
  unit : Nat
  closed : Bool

/-- The interval of a magnitude. Below a power of two the neighbour is half as far. -/
def Format.interval (f : Format) (x : Magnitude) : Interval :=
  let power := x.significand = Nat.pow 2 (f.precision - 1) ∧ x.exponent > f.least
  let n := 4 * x.significand
  let scale := Nat.pow 2 x.exponent.toNat
  ⟨(n - if power then 1 else 2) * scale, (n + 2) * scale, 4 * x.denominator,
    x.significand % 2 = 0⟩

/-- Whether `a / b` lies in an interval. -/
def Interval.contains (i : Interval) (a b : Nat) : Bool :=
  if i.closed then i.low * b ≤ a * i.unit ∧ a * i.unit ≤ i.high * b
  else i.low * b < a * i.unit ∧ a * i.unit < i.high * b

/-- The integer part of the decimal logarithm of `a / b`, both positive. -/
def log10 (a b : Nat) : Int :=
  if b ≤ a then ((Nat.toDigits 10 (a / b)).length : Int) - 1
  else -((Nat.toDigits 10 ((b - 1) / a)).length : Int)

/-- The better of the two neighbours of a magnitude on the grid of step 10^k that lie in the
interval. -/
def onGrid? (t : Tie) (i : Interval) (a b : Nat) (k : Int) : Option Nat :=
  let up := Nat.pow 10 k.toNat
  let down := Nat.pow 10 (-k).toNat
  -- the magnitude is `p / q` steps
  let p := a * down
  let q := b * up
  let n := p / q
  let fits (m : Nat) : Bool := m ≠ 0 ∧ i.contains (m * up) down
  match fits n, fits (n + 1) with
  | true, true => some (t.divide p q)
  | true, false => some n
  | false, true => some (n + 1)
  | false, false => none

def shortestFrom (t : Tie) (i : Interval) (a b : Nat) (e : Int) : Nat → Nat → Decimal
  | 0, _ => ⟨0, 0⟩
  | fuel + 1, count =>
    match onGrid? t i a b (e - count) with
    | some n => ⟨n, e - count⟩
    | none => shortestFrom t i a b e fuel (count + 1)

/-- Digits enough for every format of at most 53 bits. -/
def mostDigits : Nat := 17

/-- The shortest decimal of a magnitude that is not zero, as an integer and a power of ten. -/
def Format.shortest (f : Format) (t : Tie) (x : Magnitude) : Decimal :=
  let a := x.numerator
  let b := x.denominator
  shortestFrom t (f.interval x) a b (log10 a b) mostDigits 0

end BandCatalog.Binary
