import BandCatalog.Url.Domain.Composition

/-!
# Joiners

Marks, which stand behind another character, and the two invisible joiners, which stand only where they
make a difference to the letters around them.
-/
namespace BandCatalog.Url.Domain

open Text

/-- Runs of marks. -/
def markTable : String :=
  "768 64 2 1 3 9 1 32 275 7 263 45 1 1 1 2 1 2 1 1 72 11 48 21 16 1 101 7 2 6 2 2 1 4 35 1 30
  27 91 11 58 9 9 1 24 4 1 9 1 3 1 5 43 3 59 9 42 24 1 33 54 3 1 18 1 7 10 2 29 3 56 1 1 7 2 2
  2 3 9 1 10 2 26 1 2 3 56 1 1 5 4 2 2 3 3 1 30 2 3 1 11 3 56 1 1 8 1 3 1 3 20 2 22 6 1 3 56 1
  1 7 2 2 2 3 7 3 10 2 30 1 59 5 3 3 1 4 9 1 40 5 55 1 1 7 1 3 1 4 7 2 11 2 29 3 56 1 1 7 1 3
  1 4 7 2 11 2 15 1 12 4 55 2 1 7 1 3 1 4 9 1 10 2 29 3 70 1 4 6 1 1 1 8 18 2 61 1 2 7 12 8 98
  1 2 9 11 7 73 2 27 1 1 1 1 1 4 2 49 2 1 1 5 7 1 3 1 2 5 6 1 4 1 4 1 4 1 4 1 4 1 12 1 3 9 1
  100 20 23 4 4 3 1 3 2 7 3 4 13 12 1 1 10 4 703 3 946 4 28 3 29 2 30 2 66 30 9 1 167 2 34 1
  118 12 4 12 219 5 57 10 1 29 2 1 48 46 2 12 20 5 47 17 38 9 12 3 30 13 56 14 48 20 152 3 1
  21 4 1 6 1 2 3 198 64 720 33 3070 3 141 1 96 32 554 6 105 2 30164 4 1 10 32 2 80 2 272 1 3 1
  4 1 23 5 4 1 83 2 50 18 26 18 13 1 38 8 25 13 44 4 47 14 36 1 67 14 12 1 8 2 45 3 50 1 1 3 2
  2 5 2 1 1 41 5 5 2 236 8 1 2 20272 1 769 16 973 1 226 1 149 5 1670 3 1 2 5 4 40 3 4 1 165 2
  573 4 65 5 317 2 77 6 70 11 49 4 122 3 53 15 41 1 2 2 10 4 45 11 7 1 61 3 36 14 16 2 44 1 12
  3 48 14 8 4 1 2 92 12 6 1 2 1 157 12 21 4 55 2 1 7 2 2 2 3 9 1 10 2 2 7 3 5 67 9 1 1 2 1 1 4
  1 5 1 1 14 2 82 18 23 1 81 20 235 7 2 9 27 2 82 17 106 13 101 15 256 15 245 6 1 2 2 4 1 1 1
  2 141 7 2 7 3 1 28 10 40 7 1 4 8 1 9 11 46 16 198 8 199 8 1 8 82 22 1 14 122 6 3 1 1 2 1 7 1
  1 66 5 1 2 1 5 347 4 9 2 1 1 48 7 3 5 23 1 5349 1 6 15 11464 18 2496 5 59 7 1048 1 1 55 7 4
  81 1 11 2 19627 2 4705 46 2 23 542 5 3 6 8 8 2 7 30 4 148 3 1979 55 4 50 8 1 14 1 22 5 1 15
  1360 7 1 17 2 7 1 2 1 5 100 1 160 7 375 1 61 4 508 4 254 2 243 1 2 1 7 2 5 1 474 7 109 7"

/-- Runs of characters that join: with both sides 1, with the left of the next 2, with the one before 3;
those that are looked through are 4. -/
def joiningTable : String :=
  "768 64 4 2 1 4 3 9 4 1 32 4 275 7 4 263 45 4 1 1 4 1 2 4 1 2 4 1 1 4 72 11 4 5 1 1 1 4 3 0 1
  1 0 1 3 0 1 1 0 1 3 0 5 1 0 4 3 0 13 1 1 7 1 0 1 3 0 2 1 0 21 4 14 2 1 0 1 4 0 3 3 5 15 1 0
  18 3 0 38 1 0 1 3 0 2 1 0 9 3 0 1 1 0 1 3 0 1 1 0 1 3 0 2 1 0 2 3 1 1 3 0 7 4 2 6 4 2 2 4 1
  4 4 0 2 3 10 3 1 2 1 1 16 1 3 0 1 4 0 3 1 0 5 3 0 4 1 0 1 3 0 9 1 0 1 3 0 1 1 0 1 3 0 1 1 0
  1 3 0 2 1 0 1 3 0 27 4 2 1 3 0 11 1 0 3 3 0 15 1 0 2 3 0 4 1 0 1 3 0 1 1 0 2 3 0 3 1 0 2 3 0
  6 1 38 11 4 25 33 1 0 9 4 9 1 4 24 4 4 1 9 4 1 3 4 1 5 4 18 1 3 0 5 1 0 2 3 0 1 1 0 1 3 0 10
  1 0 1 3 0 1 1 0 3 3 0 3 4 4 1 1 1 4 1 1 1 3 0 1 1 0 2 3 5 19 3 3 1 1 2 5 1 0 1 3 0 1 1 7 9 4
  0 10 1 0 3 3 1 1 3 0 2 1 0 2 3 0 6 1 0 1 3 0 15 1 1 24 4 1 32 4 55 1 4 1 1 4 4 8 4 4 1 4 3 7
  4 10 2 4 29 1 4 58 1 4 4 4 4 8 1 4 20 2 4 26 1 4 2 2 4 57 1 4 4 2 4 4 2 4 2 3 4 3 1 4 30 2 4
  3 1 4 11 2 4 57 1 4 4 5 4 1 2 4 4 1 4 20 2 4 22 6 4 1 1 4 58 1 4 2 1 4 1 4 4 8 1 4 7 2 4 11
  2 4 30 1 4 61 1 4 12 1 4 50 1 4 3 1 4 55 1 4 1 3 4 5 3 4 1 4 4 7 2 4 11 2 4 29 1 4 58 1 4 2
  1 4 6 1 4 5 2 4 20 2 4 28 2 4 57 2 4 4 4 4 8 1 4 20 2 4 29 1 4 72 1 4 7 3 4 1 1 4 90 1 4 2 7
  4 12 8 4 98 1 4 2 9 4 11 7 4 73 2 4 27 1 4 1 1 4 1 1 4 55 2 4 1 1 4 5 5 4 1 1 4 1 3 4 1 2 4
  5 6 4 1 4 4 1 4 4 1 4 4 1 4 4 1 4 4 1 12 4 1 3 4 9 1 4 102 4 4 1 6 4 1 2 4 2 2 4 25 2 4 4 3
  4 16 4 4 13 1 4 2 2 4 6 1 4 15 1 4 703 3 4 946 3 4 29 2 4 30 2 4 30 2 4 67 7 4 8 1 4 2 11 4
  9 1 4 41 1 1 24 89 1 12 2 4 0 34 1 0 1 4 0 1 1 117 3 4 4 2 4 9 1 4 6 3 4 219 2 4 2 1 4 58 1
  4 1 7 4 1 1 4 1 1 4 2 8 4 6 10 4 2 1 4 48 46 4 2 12 4 20 4 4 48 1 4 1 5 4 1 1 4 5 1 4 40 9 4
  12 2 4 32 4 4 2 2 4 1 3 4 56 1 4 1 2 4 3 1 4 1 3 4 58 8 4 2 2 4 152 3 4 1 13 4 1 7 4 4 1 4 6
  1 4 3 2 4 198 64 4 720 33 4 3070 3 4 141 1 4 96 32 4 554 4 4 107 2 4 30164 4 4 1 10 4 32 2 4
  80 2 4 272 1 4 3 1 4 4 1 4 25 2 4 5 1 4 19 50 1 0 1 2 81 2 4 26 18 4 13 1 4 38 8 4 25 11 4
  46 3 4 48 1 4 2 4 4 2 2 4 39 1 4 67 6 4 2 2 4 2 2 4 12 1 4 8 1 4 47 1 4 51 1 4 1 3 4 2 2 4 5
  2 4 1 1 4 42 2 4 8 1 4 238 1 4 2 1 4 4 1 4 20272 1 4 769 16 4 973 1 4 226 1 4 149 5 4 1670 3
  4 1 2 4 5 4 4 40 3 4 4 1 4 128 5 1 0 1 3 1 1 3 1 2 3 2 1 2 0 5 3 0 4 1 0 1 2 0 5 1 0 1 3 0 3
  1 0 1 3 2 1 3 0 2 4 4 4 1 0 1 3 144 1 1 0 1 3 0 1 1 0 3 3 0 3 1 0 1 3 0 2 1 0 1 3 0 1 1 0 2
  3 0 1 1 0 1 3 23 4 3 0 2 1 337 1 2 0 33 1 0 1 3 0 1 1 0 4 4 65 5 4 317 2 4 21 1 3 0 2 1 1 2
  1 50 6 4 48 3 1 0 1 3 0 17 1 1 11 4 0 3 1 0 1 3 27 4 1 0 2 3 0 12 1 0 4 4 42 1 1 1 2 1 0 3 3
  1 1 1 0 2 3 0 2 1 0 1 3 0 2 1 1 1 1 0 2 3 0 1 1 4 1 3 0 1 1 0 1 2 53 1 4 54 15 4 41 1 4 2 2
  4 10 3 4 49 4 4 2 2 4 7 1 4 61 3 4 36 5 4 1 8 4 62 1 4 12 2 4 52 9 4 10 4 4 2 1 4 95 3 4 2 1
  4 1 2 4 6 1 4 2 1 4 157 1 4 3 8 4 21 2 4 57 2 4 3 1 4 37 7 4 3 5 4 70 6 4 13 1 4 1 1 4 1 1 4
  14 2 4 85 8 4 2 3 4 1 1 4 23 1 4 84 6 4 1 1 4 4 2 4 1 2 4 238 4 4 6 2 4 1 2 4 27 2 4 85 8 4
  2 1 4 1 2 4 106 1 4 1 1 4 2 6 4 1 1 4 101 1 4 1 1 4 2 4 4 1 5 4 259 9 4 1 2 4 256 2 4 1 1 4
  4 1 4 144 4 4 2 2 4 4 1 4 32 10 4 40 6 4 2 4 4 8 1 4 9 6 4 2 3 4 46 13 4 1 2 4 198 1 4 1 3 4
  1 1 4 201 7 4 1 6 4 1 1 4 82 22 4 2 7 4 1 2 4 1 2 4 122 6 4 3 1 4 1 2 4 1 7 4 1 1 4 72 2 4 3
  1 4 1 1 4 347 2 4 11 2 4 52 5 4 5 1 4 1 1 4 23 1 4 5349 1 4 6 15 4 11464 12 4 3 3 4 2496 5 4
  59 7 4 1048 1 4 63 4 4 81 1 4 19640 2 4 4705 46 4 2 23 4 544 3 4 17 8 4 2 7 4 30 4 4 148 3 4
  1979 55 4 4 50 4 8 1 4 14 1 4 22 5 4 1 15 4 1360 7 4 1 17 4 2 7 4 1 2 4 1 5 4 100 1 4 160 7
  4 375 1 4 61 4 4 508 4 4 254 2 4 243 1 4 2 1 4 7 2 4 5 1 4 474 7 4 75 34 1 0 8 4"

def markRuns : List Run := Run.ofSet 0 (numbers markTable)
def joiningRuns : List Run := Run.ofValues 0 (numbers joiningTable)

def isMark (c : Char) : Bool := isIn markRuns c

/-- The combining class of the signs that silence a vowel. -/
def silencer : Nat := 9

def nonJoiner : Char := '\u200C'
def joiner : Char := '\u200D'

/-- Whether the nearest character that is not looked through joins in one of those ways. -/
def nearestJoins (ways : List Nat) (cs : List Char) : Bool :=
  ((cs.map (valueIn joiningRuns)).find? (· ≠ 4)).any ways.contains

/-- Whether joiners may stand where they do; `before` is read backwards. -/
def joinersStand (before : List Char) : List Char → Bool
  | [] => true
  | c :: r =>
    let silenced := before.head?.any fun b => combiningClass b = silencer
    (if c = joiner then silenced
      else if c = nonJoiner then
        silenced || (nearestJoins [1, 2] before && nearestJoins [1, 3] r)
      else true) && joinersStand (c :: before) r

end BandCatalog.Url.Domain
