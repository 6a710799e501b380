/-!
# Punycode

Text in ASCII letters, digits and hyphens: the ASCII characters come first, then for each other
character, in the order of their code points, how far on it is inserted. The distances are numbers of
base 36 with digits whose thresholds adapt to the distances before.
-/
namespace BandCatalog.Url.Punycode

def base : Nat := 36
def leastThreshold : Nat := 1
def greatestThreshold : Nat := 26
def firstBias : Nat := 72
/-- The first code point that is not ASCII. -/
def firstCode : Nat := 128

def digitChar (d : Nat) : Char :=
  if d < 26 then Char.ofNat ('a'.toNat + d) else Char.ofNat ('0'.toNat + (d - 26))

def digit? (c : Char) : Option Nat :=
  if 'a' ≤ c ∧ c ≤ 'z' then some (c.toNat - 'a'.toNat)
  else if c.isDigit then some (c.toNat - '0'.toNat + 26)
  else none

/-- The least digit that does not end a number, at a place. -/
def threshold (place bias : Nat) : Nat :=
  if place ≤ bias + leastThreshold then leastThreshold
  else min greatestThreshold (place - bias)

theorem threshold_pos (place bias : Nat) : 0 < threshold place bias := by
  unfold threshold leastThreshold greatestThreshold; split <;> omega

/-- The scaled distance and the bias that it adds. -/
def scale (distance bias : Nat) : Nat :=
  if 455 < distance then scale (distance / 35) (bias + base)
  else bias + 36 * distance / (distance + 38)
termination_by distance
decreasing_by omega

/-- The bias after a distance, with so many characters so far. -/
def adapt (distance count : Nat) (isFirst : Bool) : Nat :=
  let d := if isFirst then distance / 700 else distance / 2
  scale (d + d / count) 0

/-- The digits of a distance. -/
def digits (bias place distance : Nat) : List Char :=
  let t := threshold place bias
  if distance < t then [digitChar distance]
  else digitChar (t + (distance - t) % (base - t)) ::
    digits bias (place + base) ((distance - t) / (base - t))
termination_by distance
decreasing_by
  have := threshold_pos place bias
  have : (distance - threshold place bias) / (base - threshold place bias) ≤
    distance - threshold place bias := Nat.div_le_self _ _
  omega

/-- How far the writing of a text has come. -/
structure Writing where
  out : List Char
  distance : Nat
  bias : Nat
  /-- Characters that have been written. -/
  count : Nat

/-- One character of the text, while the character of a code point is being written. -/
def Writing.pass (basic code : Nat) (w : Writing) (c : Char) : Writing :=
  if c.toNat < code then { w with distance := w.distance + 1 }
  else if c.toNat = code then
    { out := w.out ++ digits w.bias base w.distance, distance := 0
      bias := adapt w.distance (w.count + 1) (w.count = basic), count := w.count + 1 }
  else w

/-- The characters of code points in ascending order. -/
def writeCodes (text : List Char) (basic : Nat) (w : Writing) (next : Nat) : List Nat → Writing
  | [] => w
  | code :: codes =>
    let w := { w with distance := w.distance + (code - next) * (w.count + 1) }
    let w := text.foldl (Writing.pass basic code) w
    writeCodes text basic { w with distance := w.distance + 1 } (code + 1) codes

def encode (text : List Char) : List Char :=
  let basic := text.filter fun c => c.toNat < firstCode
  let codes := ((text.map Char.toNat).filter (firstCode ≤ ·)).eraseDups.mergeSort
  let w := writeCodes text basic.length ⟨[], 0, firstBias, basic.length⟩ firstCode codes
  (if basic = [] then [] else basic ++ ['-']) ++ w.out

/-- How far the reading of a text has come. -/
structure Reading where
  out : List Char
  code : Nat
  position : Nat
  bias : Nat
  /-- The number that is being read: its digits so far, and the weight and place of the next. -/
  distance : Nat
  weight : Nat
  place : Nat

/-- No code point is as great. -/
def codeLimit : Nat := 0x110000

/-- One digit. -/
def Reading.step (r : Reading) (d : Nat) : Option Reading :=
  let distance := r.distance + d * r.weight
  let t := threshold r.place r.bias
  if t ≤ d then
    some { r with distance := distance, weight := r.weight * (base - t), place := r.place + base }
  else
    let count := r.out.length + 1
    let position := r.position + distance
    let code := r.code + position / count
    if codeLimit ≤ code ∨ (0xD800 ≤ code ∧ code < 0xE000) then none
    else
      let i := position % count
      some ⟨r.out.take i ++ Char.ofNat code :: r.out.drop i, code, i + 1,
        adapt distance count (r.position = 0), 0, 1, base⟩

def readDigits (r : Reading) : List Char → Option (List Char)
  | [] => if r.place = base then some r.out else none
  | c :: cs => (digit? c).bind fun d => (r.step d).bind fun r => readDigits r cs

/-- What stands before the last hyphen, and what after it. -/
def splitBasic (cs : List Char) : List Char × List Char :=
  let back := cs.reverse
  ((back.dropWhile (· ≠ '-')).drop 1 |>.reverse, (back.takeWhile (· ≠ '-')).reverse)

def decode (cs : List Char) : Option (List Char) :=
  let (basic, rest) := splitBasic cs
  readDigits ⟨basic, firstCode, 0, firstBias, 0, 1, base⟩ rest

end BandCatalog.Url.Punycode
