import BandCatalog.Calendar.DateTime
import BandCatalog.Text.Blank
import BandCatalog.Text.Utf8

/-!
# Reading dates and times

Numbers may be shorter than they are written, and white space may stand before them; a year may have
a sign and then any number of digits. A date-time allows white space before its marks too, and at the
end.
-/
namespace BandCatalog.Calendar

open BandCatalog.Text

/-- The first of at most `width` digits as a number, and the rest; at least one digit is needed. -/
def number? (width : Nat) (cs : List Char) : Option (Nat × List Char) :=
  let ds := (cs.take width).takeWhile Char.isDigit
  if ds = [] then none else some (Nat.ofDigitChars 10 ds 0, cs.drop ds.length)

/-- A number of two digits at most, after white space. -/
def part? (cs : List Char) : Option (Nat × List Char) := number? 2 (trimStart cs)

/-- A year, after white space: four digits at most, or a sign and any number of them. -/
def year? (cs : List Char) : Option (Int × List Char) :=
  match trimStart cs with
  | '-' :: r => (number? r.length r).map fun (n, r) => (-(n : Int), r)
  | '+' :: r => (number? r.length r).map fun (n, r) => ((n : Int), r)
  | r => (number? 4 r).map fun (n, r) => ((n : Int), r)

/-- The rest after a mark. -/
def after? (mark : Char) : List Char → Option (List Char)
  | c :: r => if c = mark then some r else none
  | [] => none

/-- A date as year, month and day with hyphens between them and nothing after. -/
def Date.ofChars? (cs : List Char) : Option Date := do
  let (y, r) ← year? cs
  let r ← after? '-' r
  let (m, r) ← part? r
  let r ← after? '-' r
  let (d, r) ← part? r
  if r = [] then Date.of? y m d else none

/-- The rest after white space and a mark. -/
def mark? (mark : Char) (cs : List Char) : Option (List Char) := after? mark (trimStart cs)

/-- Digits after a point, as nanoseconds; those past the ninth are ignored. -/
def fraction? : List Char → Option (Nat × List Char)
  | '.' :: r => do
    let ds := r.takeWhile Char.isDigit
    let kept := ds.take 9
    if kept = [] then none
    else some (Nat.ofDigitChars 10 kept 0 * Nat.pow 10 (9 - kept.length), r.drop ds.length)
  | r => some (0, r)

def DateTime.ofChars? (cs : List Char) : Option DateTime := do
  let (y, r) ← year? cs
  let r ← mark? '-' r
  let (m, r) ← part? r
  let r ← mark? '-' r
  let (d, r) ← part? r
  let r ← mark? 'T' r
  let (hour, r) ← part? r
  let r ← mark? ':' r
  let (minute, r) ← part? r
  let r ← mark? ':' r
  let (second, r) ← part? r
  let (nanosecond, r) ← fraction? r
  if trimStart r = [] then
    (Date.of? y m d).bind fun date => DateTime.of? date hour minute second nanosecond
  else none

/-- The date that a text starts with: its first ten bytes, or the whole text if that is shorter or
the tenth byte is inside a character. -/
def Date.leading? (s : String) : Option Date :=
  let cs := s.toList
  Date.ofChars? ((prefixOfBytes? 10 cs).getD cs)

end BandCatalog.Calendar
