import BandCatalog.Text.Runs

/-!
# Directions

The directions in which characters are written, and the rule that keeps labels of both directions
readable (the Bidi rule of internationalized domain names).
-/
namespace BandCatalog.Url.Domain

open Text

/-- Runs of characters that are not written from left to right: from right to left are 1, Arabic numbers
2, other numbers 3, what takes the direction around it 4, marks 5. -/
def directionTable : String :=
  "0 9 4 5 14 4 5 15 4 0 10 3 0 7 4 26 6 4 26 5 4 33 7 4 1 1 4 1 2 4 1 1 4 1 2 4 4 2 4 3 1 4 3
  1 4 23 1 4 31 1 4 449 2 4 7 14 4 2 6 4 6 2 4 5 9 4 1 17 4 0 64 5 2 1 5 3 9 5 1 32 5 5 1 4
  128 1 4 140 7 5 256 1 4 2 3 4 1 45 5 0 1 1 0 1 5 0 1 1 0 2 5 0 1 1 0 2 5 0 1 1 0 1 5 8 27 1
  4 6 1 17 2 4 0 1 1 0 2 4 0 1 1 0 1 4 0 1 1 0 2 4 0 11 5 0 1 1 1 46 1 0 21 5 0 10 2 0 1 4 0 2
  2 0 3 1 0 1 5 0 4 1 4 93 1 0 7 5 1 1 4 0 6 5 0 2 1 0 2 5 0 1 4 0 4 5 0 2 1 0 10 3 0 20 1 2 1
  1 0 1 5 0 30 1 0 27 5 2 89 1 0 11 5 0 1 1 14 43 1 0 9 5 0 2 1 0 4 4 0 1 1 2 1 5 0 24 1 0 4 5
  0 1 1 0 9 5 0 1 1 0 3 5 0 1 1 0 5 5 2 15 1 1 25 1 0 3 5 2 1 1 1 11 1 5 32 1 7 9 5 0 42 1 0
  24 5 1 32 5 55 1 5 1 1 5 4 8 5 4 1 5 3 7 5 10 2 5 29 1 5 58 1 5 4 4 5 8 1 5 20 2 5 14 2 4 7
  1 4 2 1 5 2 2 5 57 1 5 4 2 5 4 2 5 2 3 5 3 1 5 30 2 5 3 1 5 11 2 5 57 1 5 4 5 5 1 2 5 4 1 5
  20 2 5 13 1 4 8 6 5 1 1 5 58 1 5 2 1 5 1 4 5 8 1 5 7 2 5 11 2 5 30 1 5 61 1 5 12 1 5 37 8 4
  5 1 5 3 1 5 55 1 5 1 3 5 5 3 5 1 4 5 7 2 5 11 2 5 20 7 4 2 1 5 58 1 5 15 2 5 20 2 5 28 2 5
  57 2 5 4 4 5 8 1 5 20 2 5 29 1 5 72 1 5 7 3 5 1 1 5 90 1 5 2 7 5 4 1 4 7 8 5 98 1 5 2 9 5 11
  7 5 73 2 5 27 1 5 1 1 5 1 1 5 0 4 4 51 2 5 1 1 5 5 5 5 1 1 5 1 3 5 1 2 5 5 6 5 1 4 5 1 4 5 1
  4 5 1 4 5 1 4 5 1 12 5 1 3 5 9 1 5 102 4 5 1 6 5 1 2 5 2 2 5 25 2 5 4 3 5 16 4 5 13 1 5 2 2
  5 6 1 5 15 1 5 703 3 5 48 10 4 102 1 4 666 2 4 117 3 5 29 2 5 30 2 5 30 2 5 67 7 5 8 1 5 2
  11 5 7 1 4 1 1 5 18 10 4 6 11 4 122 2 5 34 1 5 118 3 5 4 2 5 9 1 5 6 3 5 4 1 4 3 2 4 152 34
  4 23 2 5 2 1 5 58 1 5 1 7 5 1 1 5 1 1 5 2 8 5 6 10 5 2 1 5 48 46 5 2 12 5 20 4 5 48 1 5 1 5
  5 1 1 5 5 1 5 40 9 5 12 2 5 32 4 5 2 2 5 1 3 5 56 1 5 1 2 5 3 1 5 1 3 5 58 8 5 2 2 5 152 3 5
  1 13 5 1 7 5 4 1 5 6 1 5 3 2 5 198 64 5 524 2 4 2 1 4 1 5 4 1 12 4 3 1 4 8 3 4 2 1 4 2 4 4 1
  1 4 1 8 4 3 13 4 1 7 4 65 8 4 1 25 4 14 33 5 19 1 4 3 1 4 11 1 4 2 2 4 5 2 4 3 1 4 1 1 4 1 1
  4 1 1 4 4 1 4 11 1 4 6 4 4 5 4 4 60 2 4 4 156 4 2 1 4 2 248 4 2 11 4 69 26 4 1 148 4 22 11 4
  160 449 4 1 339 4 256 268 4 1 103 4 3 101 4 1 151 4 2 138 4 229 6 4 4 3 5 7 7 4 127 1 5 96
  32 5 0 94 4 34 26 4 1 4 4 1 83 4 270 1 4 1 2 4 3 25 4 9 4 5 2 1 4 6 1 4 5 3 4 89 2 5 5 1 4
  90 1 4 196 38 4 7130 64 4 22160 55 4 326 3 4 95 4 5 0 1 4 0 10 5 0 2 4 30 2 5 80 2 5 14 34 4
  102 1 4 121 1 5 3 1 5 4 1 5 25 2 5 1 4 4 0 1 5 11 2 4 58 4 4 76 2 5 26 18 5 13 1 5 38 8 5 25
  11 5 46 3 5 48 1 5 2 4 5 2 2 5 39 1 5 67 6 5 2 2 5 2 2 5 12 1 5 8 1 5 47 1 5 51 1 5 1 3 5 2
  2 5 5 2 5 1 1 5 42 2 5 8 1 5 115 2 4 121 1 5 2 1 5 4 1 5 20272 1 5 147 17 1 0 16 4 363 18 4
  64 2 4 54 8 4 45 3 4 32 16 5 21 2 4 44 1 1 653 1 4 62 77 4 3 13 4 3 1 4 92 1 5 226 1 5 0 27
  3 122 5 5 1157 6 1 2 1 1 1 44 1 1 2 1 3 1 1 2 23 1 1 72 1 8 9 1 48 19 1 1 2 1 5 33 1 3 1 4 0
  26 1 5 27 1 38 56 1 4 20 1 2 47 1 0 3 5 1 2 5 5 4 5 0 4 1 1 3 1 1 29 1 2 3 5 4 1 5 0 9 1 7 9
  1 7 64 1 32 37 1 0 2 5 4 12 1 9 54 1 3 7 4 0 22 1 2 27 1 5 26 1 7 4 1 12 7 1 80 73 1 119 51
  1 7 42 1 0 4 5 8 10 2 6 16 1 25 5 5 0 1 4 0 23 1 8 2 1 208 31 2 1 42 1 1 2 5 0 1 1 2 2 1 16
  6 1 8 9 4 33 6 5 0 40 1 8 22 1 0 11 5 0 9 1 22 18 1 0 4 5 0 4 1 38 28 1 20 23 1 10 1 5 54 15
  5 11 20 4 10 1 5 2 2 5 10 3 5 49 4 5 2 2 5 7 1 5 61 3 5 36 5 5 1 8 5 62 1 5 12 2 5 52 9 5 10
  4 5 2 1 5 95 3 5 2 1 5 1 2 5 6 1 5 2 1 5 157 1 5 3 8 5 21 2 5 57 2 5 3 1 5 37 7 5 3 5 5 70 6
  5 13 1 5 1 1 5 1 1 5 14 2 5 85 8 5 2 3 5 1 1 5 23 1 5 84 6 5 1 1 5 4 2 5 1 2 5 238 4 5 6 2 5
  1 2 5 27 2 5 85 8 5 2 1 5 1 2 5 31 13 4 62 1 5 1 1 5 2 6 5 1 1 5 101 3 5 2 4 5 1 5 5 259 9 5
  1 2 5 256 2 5 1 1 5 4 1 5 144 4 5 2 2 5 4 1 5 32 6 5 2 2 5 40 6 5 2 4 5 8 1 5 9 6 5 2 3 5 46
  13 5 1 2 5 198 1 5 1 3 5 1 1 5 201 7 5 1 6 5 84 22 5 2 7 5 1 2 5 1 2 5 122 6 5 3 1 5 1 2 5 1
  7 5 1 1 5 72 2 5 3 1 5 1 1 5 347 2 5 11 2 5 52 5 5 5 1 5 1 1 5 23 1 5 122 29 4 5198 1 5 6 15
  5 11464 12 5 3 3 5 2496 5 5 59 7 5 1048 1 5 63 4 5 79 1 4 1 1 5 19640 2 5 3937 214 4 36 3 4
  3 436 4 6 23 4 15 17 4 15 46 5 2 23 5 544 3 5 17 8 5 2 7 5 30 4 5 59 2 4 21 66 4 0 3 5 0 1 4
  186 87 4 1705 55 5 4 50 5 8 1 5 14 1 5 22 5 5 1 15 5 1360 7 5 1 17 5 2 7 5 1 2 5 1 5 5 100 1
  5 160 7 5 375 1 5 61 4 5 15 1 4 492 4 5 254 2 5 243 1 5 2 1 5 7 2 5 5 1 5 266 197 1 2 9 1 0
  7 5 75 34 1 0 7 5 0 1 1 4 10 1 4 2 1 785 68 1 76 61 1 434 2 4 270 44 4 4 100 4 12 15 4 2 15
  4 1 15 4 1 37 4 21 5 4 31 1 4 61 3 4 61 1 4 178 6 4 154 985 4 3 17 4 3 13 4 3 218 4 6 12 4 4
  1 4 15 12 4 4 56 4 8 10 4 6 40 4 8 30 4 2 12 4 4 2 4 14 9 4 39 344 4 8 14 4 2 13 4 3 11 4 3
  57 4 1 1 4 4 16 4 2 12 4 4 10 4 7 147 4 1 92 4 10 1 4"

inductive Direction where
  | left
  | right
  | arabicNumber
  | number
  | neutral
  | mark
  deriving DecidableEq, Repr

def Direction.ofNumber : Nat → Direction
  | 1 => right
  | 2 => arabicNumber
  | 3 => number
  | 4 => neutral
  | 5 => mark
  | _ => left

def directionRuns : List Run := Run.ofValues 0 (numbers directionTable)

def direction (c : Char) : Direction := .ofNumber (valueIn directionRuns c)

/-- Whether a character makes its domain one of both directions. -/
def isRightward (c : Char) : Bool :=
  let d := direction c
  d == .right || d == .arabicNumber

/-- The direction in which a label ends, marks aside. -/
def lastDirection? (ds : List Direction) : Option Direction := (ds.filter (· ≠ .mark)).getLast?

/-- A label from right to left: no letters of the other direction, one kind of numbers, and a letter or
number at the end. -/
def isRightToLeft (ds : List Direction) : Bool :=
  ds.all (· ≠ .left) && lastDirection? ds != some .neutral &&
    !(ds.contains .number && ds.contains .arabicNumber)

/-- A label from left to right: no letters or numbers of the other direction, and a letter or number at
the end. -/
def isLeftToRight (ds : List Direction) : Bool :=
  ds.all (fun d => d ≠ .right ∧ d ≠ .arabicNumber) && lastDirection? ds != some .neutral

/-- Whether a label may stand in a domain of both directions. -/
def isDirected (label : List Char) : Bool :=
  let ds := label.map direction
  match ds with
  | [] => true
  | .right :: _ => isRightToLeft ds
  | .left :: _ => isLeftToRight ds
  | _ => false

end BandCatalog.Url.Domain
