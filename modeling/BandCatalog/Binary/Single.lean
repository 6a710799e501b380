import BandCatalog.Binary.Shortest
import BandCatalog.Json.Token
import BandCatalog.Json.Record

/-!
# Numbers of single precision

How such a number is read from JSON and written. A literal is first read in double precision, from as
many of its digits as fit into 64 bits and one power of ten; the result is then rounded.
-/
namespace BandCatalog.Binary

structure Single where
  negative : Bool
  /-- Nothing if the number is infinite. -/
  magnitude : Option Magnitude
  deriving DecidableEq, Repr

/-- The least number that does not fit into 64 bits. -/
def wordLimit : Nat := 18446744073709551616

/-- The digits of a literal that fit into 64 bits: their value, and how many more follow. -/
def significandOf (digits : List Nat) : Nat × Nat :=
  digits.foldl
    (fun (n, dropped) d =>
      if dropped > 0 ∨ n * 10 + d ≥ wordLimit then (n, dropped + 1) else (n * 10 + d, dropped))
    (0, 0)

/-- `x` times 10^k in double precision, by one product or quotient for each 308 powers. -/
def scaleByTen (x : Magnitude) (k : Int) : Option Magnitude :=
  let power (n : Nat) := (Format.double.round (Nat.pow 10 n) 1).getD .zero
  if k.natAbs ≤ 308 then
    if 0 ≤ k then Format.double.multiply x (power k.natAbs)
    else Format.double.divide x (power k.natAbs)
  else if x.significand = 0 then some .zero
  else if 0 ≤ k then none
  else (Format.double.divide x (power 308)).bind fun y => scaleByTen y (k + 308)
termination_by k.natAbs
decreasing_by omega

/-- The magnitude that a literal has in double precision; nothing if it is too large. The digits
after the point count down the exponent only while they still fit. -/
def doubleOf? (n : Json.Number) : Option Magnitude :=
  let whole := (Nat.toDigits 10 n.whole).map fun c => (Json.digit c).val
  let (kept, dropped) := significandOf whole
  let (significand, used) := n.fraction.foldl
    (fun (m, used, full) d =>
      if full ∨ m * 10 + d.val ≥ wordLimit then (m, used, true) else (m * 10 + d.val, used + 1, false))
    (kept, 0, false) |> fun (m, used, _) => (m, (used : Nat))
  let exponent := (dropped : Int) - used + n.exponent.getD 0
  (Format.double.round significand 1).bind (scaleByTen · exponent)

/-- The integer that a literal is if it is one that fits into 64 bits. -/
def integerOf? (n : Json.Number) : Option Int :=
  n.integer?.filter fun i => -9223372036854775808 ≤ i ∧ i < wordLimit

namespace Single

/-- A literal in single precision. -/
def ofNumber? (n : Json.Number) : Option Single :=
  match integerOf? n with
  | some i => some ⟨decide (i < 0), Format.single.round i.natAbs 1⟩
  | none =>
    (doubleOf? n).map fun x => ⟨n.negative, Format.single.round x.numerator x.denominator⟩

def decode : Json.Decode Single
  | .number n => ofNumber? n
  | _ => none

/-- The digits of the shortest decimal and the exponent of the first of them. -/
def digits (t : Tie) (x : Magnitude) : List Char × Int :=
  if x.significand = 0 then (['0'], 0)
  else
    let d := Format.single.shortest t x
    let cs := Nat.toDigits 10 d.digits
    let tail := cs.reverse.dropWhile (· == '0')
    (tail.reverse, d.exponent + cs.length - 1)

/-- The whole and the fractional digits of d₁.d₂…·10^e. -/
def positional (ds : List Char) (e : Int) : List Char × List Char :=
  if 0 ≤ e then
    let n := e.toNat + 1
    (ds.take n ++ List.replicate (n - ds.length) '0', ds.drop n)
  else (['0'], List.replicate ((-e).toNat - 1) '0' ++ ds)

/-- In JSON a number of moderate size is written with a point and a digit after it, any other with
an exponent; an infinite one is `null`. Of two equally near decimals the even one is written. -/
def toJson (x : Single) : Json :=
  match x.magnitude with
  | none => .null
  | some m =>
    let (ds, e) := digits .even m
    let toNumber (whole fraction : List Char) (exponent : Option Int) : Json :=
      .number ⟨x.negative, Nat.ofDigitChars 10 whole 0, fraction.map Json.digit, exponent⟩
    if -6 ≤ e ∧ e ≤ 12 then
      let (whole, fraction) := positional ds e
      toNumber whole (if fraction = [] then ['0'] else fraction) none
    else toNumber (ds.take 1) (ds.drop 1) (some e)

/-- As plain text a number has no exponent, and a point only before digits. Of two equally near
decimals the greater one is written. -/
def toText (x : Single) : String :=
  let body := match x.magnitude with
    | none => ['i', 'n', 'f']
    | some m =>
      let (ds, e) := digits .up m
      let (whole, fraction) := positional ds e
      whole ++ if fraction = [] then [] else '.' :: fraction
  String.ofList ((if x.negative then ['-'] else []) ++ body)

end Single

end BandCatalog.Binary
