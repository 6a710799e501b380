import BandCatalog.Url.Domain.Composition.Table

/-!
# Canonical composition

The form of a text in which characters are composed as far as they can be (Unicode's form C): all are
decomposed, marks are put in the order of their classes, and what composes is composed. The tables hold
only what a domain may hold; all else is mapped before.
-/
namespace BandCatalog.Url.Domain

open Text

structure Composition where
  whole : Char
  first : Char
  second : Char
  deriving DecidableEq, Repr

/-- Compositions from their numbers, from the one before. -/
def Composition.ofNumbers (last : Nat) : List Nat → List Composition
  | gap :: first :: second :: ns =>
    ⟨Char.ofNat (last + gap), Char.ofNat first, Char.ofNat second⟩ :: ofNumbers (last + gap) ns
  | _ => []

def compositions : List Composition := Composition.ofNumbers 0 (numbers compositionTable)

def combiningRuns : List Run := Run.ofValues 0 (numbers combiningTable)

/-- The class of a mark; zero for a character that starts anew. -/
def combiningClass (c : Char) : Nat := valueIn combiningRuns c

def leads : Nat := 0x1100
def vowels : Nat := 0x1161
def trails : Nat := 0x11A7
def syllables : Nat := 0xAC00

/-- A syllable of two or three letters as its first letters and its last. -/
def splitSyllable? (c : Char) : Option (Char × Char) :=
  let n := c.toNat - syllables
  if c.toNat < syllables ∨ 11172 ≤ n then none
  else if n % 28 = 0 then
    some (Char.ofNat (leads + n / 588), Char.ofNat (vowels + n % 588 / 28))
  else some (Char.ofNat (syllables + (n - n % 28)), Char.ofNat (trails + n % 28))

def joinSyllable? (a b : Char) : Option Char :=
  let x := a.toNat
  let y := b.toNat
  if leads ≤ x ∧ x < leads + 19 ∧ vowels ≤ y ∧ y < vowels + 21 then
    some (Char.ofNat (syllables + ((x - leads) * 21 + (y - vowels)) * 28))
  else if syllables ≤ x ∧ x < syllables + 11172 ∧ (x - syllables) % 28 = 0 ∧
      trails < y ∧ y < trails + 28 then
    some (Char.ofNat (x + (y - trails)))
  else none

/-- The two characters that make up one. -/
def split? (c : Char) : Option (Char × Char) :=
  (splitSyllable? c).or ((compositions.find? (·.whole = c)).map fun x => (x.first, x.second))

/-- The character that two make up. -/
def join? (a b : Char) : Option Char :=
  (joinSyllable? a b).or
    ((compositions.find? fun x => x.first = a ∧ x.second = b).map Composition.whole)

/-- More than the times that the first of two characters can be decomposed again. -/
def depth : Nat := 8

/-- A character taken apart so many times at most. -/
def takeApart : Nat → Char → List Char
  | 0, c => [c]
  | n + 1, c =>
    match split? c with
    | some (a, b) => takeApart n a ++ takeApart n b
    | none => [c]

/-- A character in front of others: a mark behind marks of lower classes. -/
def place (c : Char) : List Char → List Char
  | [] => [c]
  | d :: r =>
    if combiningClass d ≠ 0 ∧ combiningClass d < combiningClass c then d :: place c r
    else c :: d :: r

/-- Marks in the order of their classes. -/
def inOrder (cs : List Char) : List Char := cs.foldr place []

/-- Characters composed with the one before them: `held` stands between it and the rest. A mark that
has one of its class or a higher one before it does not compose. -/
def composeFrom (c : Char) (held : List Char) : List Char → List Char
  | [] => c :: held
  | d :: r =>
    let blocked := held.getLast?.any fun h => combiningClass d ≤ combiningClass h
    match if blocked then none else join? c d with
    | some x => composeFrom x held r
    | none =>
      if combiningClass d = 0 then c :: held ++ composeFrom d [] r
      else composeFrom c (held ++ [d]) r

def compose : List Char → List Char
  | [] => []
  | c :: r => composeFrom c [] r

/-- The composed normal form. -/
def composed (cs : List Char) : List Char := compose (inOrder (cs.flatMap (takeApart depth)))

end BandCatalog.Url.Domain
