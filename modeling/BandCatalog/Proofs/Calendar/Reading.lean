import BandCatalog.Calendar.Reader
import BandCatalog.Proofs.Json.Lexemes
import Mathlib.Algebra.Group.Nat.Defs

/-!
# Dates read back

A date or a point in time is read back as it was written, in every year, with every fraction of a second and
on a leap second. A number that is written with all the digits that its reader takes is read whatever
follows it; only a year with a sign needs an end.
-/
namespace BandCatalog

/-- One part is read and then the others. `simp` uses it from the outside in: from the inside out it would go
through the last parts again for each one before them. -/
theorem read_then_iff {α β : Type} {x : Option α} {f : α → Option β} {b : β} :
    (x >>= f) = some b ↔ ∃ a, x = some a ∧ f a = some b := Option.bind_eq_some_iff

namespace Calendar

open BandCatalog.Text

theorem isBlank_of_isDigit {c : Char} (h : c.isDigit = true) : isBlank c = false := by
  simp only [Char.isDigit, Bool.and_eq_true, decide_eq_true_eq, UInt32.le_iff_toNat_le] at h
  have hrange : 48 ≤ c.toNat ∧ c.toNat ≤ 57 := h
  simp only [isBlank, Bool.or_eq_false_iff, Bool.and_eq_false_iff, decide_eq_false_iff_not,
    beq_eq_false_iff_ne]
  omega

theorem trimStart_of_digit {c : Char} {r : List Char} (h : c.isDigit = true) :
    trimStart (c :: r) = c :: r := trimStart_of_head (isBlank_of_isDigit h)

section padded

variable {width n : Nat}

theorem isDigit_of_mem_padded {c : Char} (h : c ∈ padded width n) : c.isDigit = true := by
  rcases List.mem_append.mp h with h | h
  · rw [List.eq_of_mem_replicate h]
    rfl
  · exact Json.isDigit_of_mem_toDigits h

theorem exists_padded (width n : Nat) : ∃ c cs, padded width n = c :: cs ∧ c.isDigit = true := by
  have hne : padded width n ≠ [] := by simp [padded, Nat.toDigits_ne_nil]
  obtain ⟨c, cs, h⟩ := List.exists_cons_of_ne_nil hne
  exact ⟨c, cs, h, isDigit_of_mem_padded (h ▸ List.mem_cons_self)⟩

theorem ofDigitChars_padded (width n : Nat) : Nat.ofDigitChars 10 (padded width n) 0 = n := by
  rw [padded, Nat.ofDigitChars_append, Nat.ofDigitChars_replicate_zero, Nat.mul_zero,
    Nat.ofDigitChars_ten_toDigits]

theorem length_padded_of_lt (hwidth : 0 < width) (h : n < 10 ^ width) :
    (padded width n).length = width := by
  have hlength : (Nat.toDigits 10 n).length ≤ width := (Nat.length_toDigits_le_iff (by decide) hwidth).mpr h
  rw [padded, List.length_append, List.length_replicate]
  omega

end padded

/-- Digits are read up to as many as are taken, or up to where they end. -/
theorem number?_digits {ds r : List Char} {width : Nat} (hne : ds ≠ [])
    (hds : ∀ c ∈ ds, c.isDigit = true) (hlength : ds.length ≤ width)
    (hr : ds.length = width ∨ ∀ c, r.head? = some c → c.isDigit = false) :
    number? width (ds ++ r) = some (Nat.ofDigitChars 10 ds 0, r) := by
  have htaken : ((ds ++ r).take width).takeWhile Char.isDigit = ds := by
    rw [List.take_append, List.take_of_length_le hlength]
    refine Json.takeWhile_digits hds fun c hc => ?_
    rcases hr with hfull | hr
    · rw [hfull, Nat.sub_self, List.take_zero] at hc
      cases hc
    · refine hr c ?_
      cases r with
      | nil => simp at hc
      | cons d r =>
        cases hleft : width - ds.length with
        | zero => simp [hleft] at hc
        | succ k => simpa [hleft] using hc
  simp only [number?, htaken, if_neg hne, List.drop_left]

theorem number?_padded {width n : Nat} (hwidth : 0 < width) (h : n < 10 ^ width) (r : List Char) :
    number? width (padded width n ++ r) = some (n, r) := by
  obtain ⟨c, cs, hcons, -⟩ := exists_padded width n
  have hlength := length_padded_of_lt hwidth h
  rw [number?_digits (by simp [hcons]) (fun c hc => isDigit_of_mem_padded hc) (Nat.le_of_eq hlength)
      (.inl hlength),
    ofDigitChars_padded]

theorem part?_padded {n : Nat} (h : n < 100) (r : List Char) : part? (padded 2 n ++ r) = some (n, r) := by
  obtain ⟨c, cs, hcons, hc⟩ := exists_padded 2 n
  have htrim : trimStart (padded 2 n ++ r) = padded 2 n ++ r := by
    rw [hcons]
    exact trimStart_of_digit hc
  rw [part?, htrim, number?_padded (by decide) h]

/-- At the end a number may be shorter than it could be. -/
theorem part?_last {width n : Nat} (h : (padded width n).length ≤ 2) :
    part? (padded width n) = some (n, []) := by
  obtain ⟨c, cs, hcons, hc⟩ := exists_padded width n
  have htrim : trimStart (padded width n) = padded width n ++ [] := by
    rw [List.append_nil, hcons]
    exact trimStart_of_digit hc
  rw [part?, htrim, number?_digits (by simp [hcons]) (fun c hc => isDigit_of_mem_padded hc) h (.inr (by simp)),
    ofDigitChars_padded]

/-- A year with a sign, of four digits or more. -/
theorem number?_signed {n : Nat} {r : List Char} (hr : ∀ c, r.head? = some c → c.isDigit = false) :
    number? (padded 4 n ++ r).length (padded 4 n ++ r) = some (n, r) := by
  obtain ⟨c, cs, hcons, -⟩ := exists_padded 4 n
  rw [number?_digits (by simp [hcons]) (fun c hc => isDigit_of_mem_padded hc) (by simp) (.inr hr),
    ofDigitChars_padded]

theorem year?_yearText (y : Int) {r : List Char} (hr : ∀ c, r.head? = some c → c.isDigit = false) :
    year? (yearText y ++ r) = some (y, r) := by
  unfold yearText
  split
  next hy =>
    obtain ⟨c, cs, hcons, hc⟩ := exists_padded 4 y.toNat
    have htrim : trimStart (padded 4 y.toNat ++ r) = padded 4 y.toNat ++ r := by
      rw [hcons]
      exact trimStart_of_digit hc
    have hnumber : number? 4 (padded 4 y.toNat ++ r) = some (y.toNat, r) :=
      number?_padded (by decide) (by omega) r
    rw [year?, htrim]
    split
    next heq =>
      rw [hcons] at heq
      cases heq
      cases hc
    next heq =>
      rw [hcons] at heq
      cases heq
      cases hc
    next =>
      rw [hnumber]
      simp only [Option.map_some, Int.toNat_of_nonneg hy.1]
  next hy =>
    split
    next hneg =>
      have hvalue : -(y.natAbs : Int) = y := by omega
      rw [List.cons_append, year?, trimStart_of_head (by decide)]
      simp only [number?_signed hr, Option.map_some, hvalue]
    next hpos =>
      have hvalue : (y.natAbs : Int) = y := by omega
      rw [List.cons_append, year?, trimStart_of_head (by decide)]
      simp only [number?_signed hr, Option.map_some, hvalue]

theorem after?_cons (mark : Char) (r : List Char) : after? mark (mark :: r) = some r := by simp [after?]

theorem Date.month_lt (d : Date) : d.month < 100 := by
  have := d.isDay.2.2.2.1
  omega

theorem daysIn_le (year : Int) (month : Nat) : daysIn year month ≤ 31 := by
  unfold daysIn
  split
  · split <;> omega
  · split <;> omega

theorem Date.day_lt (d : Date) : d.day < 100 := by
  have hday := d.isDay.2.2.2.2.2
  have hmonth := daysIn_le d.year d.month
  omega

theorem year?_hyphen (y : Int) (r : List Char) : year? (yearText y ++ '-' :: r) = some (y, '-' :: r) :=
  year?_yearText y (by rintro c ⟨⟩; rfl)

/-- A date is read back as it was written. -/
theorem Date.ofChars?_toChars (d : Date) : ofChars? d.toChars = some d := by
  have hday : part? (padded 2 d.day) = some (d.day, []) := by
    simpa using part?_padded d.day_lt []
  simp [ofChars?, toChars, year?_hyphen, after?_cons, part?_padded d.month_lt, hday]

theorem mark?_cons {mark : Char} (h : isBlank mark = false) (r : List Char) :
    mark? mark (mark :: r) = some r := by
  rw [mark?, trimStart_of_head h, after?_cons]

theorem fraction?_padded {width n : Nat} (hwidth : 0 < width ∧ width ≤ 9) (h : n < 10 ^ width) :
    fraction? ('.' :: padded width n) = some (n * 10 ^ (9 - width), []) := by
  obtain ⟨c, cs, hcons, -⟩ := exists_padded width n
  have hlength : (padded width n).length = width := length_padded_of_lt hwidth.1 h
  have hdigits : (padded width n).takeWhile Char.isDigit = padded width n := by
    simpa using Json.takeWhile_digits (fun c hc => isDigit_of_mem_padded hc) (by simp) (r := [])
  have hkept : (padded width n).take 9 = padded width n :=
    List.take_of_length_le (by rw [hlength]; exact hwidth.2)
  have hrest : (padded width n).drop width = [] := List.drop_of_length_le (Nat.le_of_eq hlength)
  have hne : padded width n ≠ [] := by simp [hcons]
  simp only [fraction?, hdigits, hkept, if_neg hne, ofDigitChars_padded, hlength, hrest]
  rfl

/-- Three, six or nine digits are the whole fraction. -/
theorem fraction?_fractionText {n : Nat} (h : n < 1000000000) :
    fraction? (DateTime.fractionText n) = some (n, []) := by
  unfold DateTime.fractionText
  split
  next hzero =>
    rw [hzero]
    rfl
  next =>
    split
    next hmilli =>
      rw [fraction?_padded (by decide) (by omega)]
      simp only [Nat.reduceSub, Nat.reducePow, Option.some.injEq, Prod.mk.injEq, and_true]
      omega
    next =>
      split
      next hmicro =>
        rw [fraction?_padded (by decide) (by omega)]
        simp only [Nat.reduceSub, Nat.reducePow, Option.some.injEq, Prod.mk.injEq, and_true]
        omega
      next =>
        rw [fraction?_padded (by decide) (by omega)]
        simp

/-- A point in time is read back as it was written. -/
theorem DateTime.ofChars?_toChars (t : DateTime) : ofChars? t.toChars = some t := by
  obtain ⟨hhour, hminute, hsecond, hnano⟩ := t.isTime
  have hhour : t.hour < 100 := by omega
  have hminute : t.minute < 100 := by omega
  have hsecond : t.second < 100 := by omega
  have htext : t.toChars = yearText t.date.year ++ '-' :: (padded 2 t.date.month ++ '-' ::
      (padded 2 t.date.day ++ 'T' :: (padded 2 t.hour ++ ':' :: (padded 2 t.minute ++ ':' ::
        (padded 2 t.second ++ fractionText t.nanosecond))))) := by
    simp [toChars, Date.toChars]
  have hend : (Date.of? t.date.year t.date.month t.date.day).bind
      (fun date => of? date t.hour t.minute t.second t.nanosecond) = some t := by simp
  rw [htext]
  simp only [ofChars?, ↓read_then_iff]
  exact ⟨_, year?_hyphen _ _, _, mark?_cons rfl _, _, part?_padded t.date.month_lt _,
    _, mark?_cons rfl _, _, part?_padded t.date.day_lt _, _, mark?_cons rfl _,
    _, part?_padded hhour _, _, mark?_cons rfl _, _, part?_padded hminute _,
    _, mark?_cons rfl _, _, part?_padded hsecond _, _, fraction?_fractionText hnano, hend⟩

end Calendar

end BandCatalog
