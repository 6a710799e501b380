import BandCatalog.Calendar.Date
import Mathlib.Tactic.IntervalCases

/-!
# Days counted

The number of a day is what counting gives, year by year, month by month and day by day. Every number is
that of exactly one day of the calendar, and a date is read from its number if its year is covered.
-/
namespace BandCatalog.Calendar

/-- Days of a year. -/
def yearLength (year : Int) : Int := ((List.range 12).map fun m => (daysIn year (m + 1) : Int)).sum

/-- Days from the first of January 1970 to that of a year: those of the years between them, negative before. -/
def daysToYear (year : Int) : Int :=
  ((List.range (year - 1970).toNat).map fun k : Nat => yearLength (1970 + k)).sum -
    ((List.range (1970 - year).toNat).map fun k : Nat => yearLength (1969 - k)).sum

/-- Days from the first of January of a year to the first of a month: those of the months before it. -/
def daysToMonth (year : Int) (month : Nat) : Int :=
  ((List.range (month - 1)).map fun m => (daysIn year (m + 1) : Int)).sum

/-- Days from 1970-01-01 to a day, counted. -/
def daysTo (year : Int) (month day : Nat) : Int :=
  daysToYear year + daysToMonth year month + (day - 1)

/-- A day of the calendar, in any year. -/
structure IsCivil (year : Int) (month day : Nat) : Prop where
  inYear : 1 ≤ month ∧ month ≤ 12
  inMonth : 1 ≤ day ∧ day ≤ daysIn year month

theorem Date.isCivil (d : Date) : IsCivil d.year d.month d.day := by
  obtain ⟨-, -, hmonth, hmonth', hday, hday'⟩ := d.isDay
  exact ⟨⟨hmonth, hmonth'⟩, hday, hday'⟩

theorem yearLength_eq (year : Int) : yearLength year = if isLeap year then 366 else 365 := by
  simp only [yearLength, daysIn]
  split <;> rfl

theorem sum_range_succ (f : Nat → Int) (n : Nat) :
    ((List.range (n + 1)).map f).sum = ((List.range n).map f).sum + f n := by
  simp [List.range_succ]

theorem daysToYear_succ (year : Int) : daysToYear (year + 1) = daysToYear year + yearLength year := by
  unfold daysToYear
  by_cases h : year < 1970
  · obtain ⟨n, hn⟩ : ∃ n : Nat, year = 1969 - n := ⟨(1969 - year).toNat, by omega⟩
    have hpast : (1970 - year).toNat = n + 1 ∧ (1970 - (year + 1)).toNat = n := by omega
    have hnone : (year - 1970).toNat = 0 ∧ (year + 1 - 1970).toNat = 0 := by omega
    rw [hpast.1, hpast.2, hnone.1, hnone.2, sum_range_succ, ← hn]
    omega
  · obtain ⟨n, hn⟩ : ∃ n : Nat, year = 1970 + n := ⟨(year - 1970).toNat, by omega⟩
    have hfuture : (year - 1970).toNat = n ∧ (year + 1 - 1970).toNat = n + 1 := by omega
    have hnone : (1970 - year).toNat = 0 ∧ (1970 - (year + 1)).toNat = 0 := by omega
    rw [hfuture.1, hfuture.2, hnone.1, hnone.2, sum_range_succ, ← hn]
    omega

theorem daysToMonth_succ (year : Int) {month : Nat} (h : 1 ≤ month) :
    daysToMonth year (month + 1) = daysToMonth year month + daysIn year month := by
  obtain ⟨n, rfl⟩ : ∃ n, month = n + 1 := ⟨month - 1, by omega⟩
  exact sum_range_succ _ n

namespace Date

theorem dayNumber_eq (year : Int) (month day : Nat) :
    dayNumber year month day = dayNumber year month 1 + (day - 1) := by
  simp only [dayNumber]
  omega

theorem dayNumber_succ_month (year : Int) {month : Nat} (h : 1 ≤ month ∧ month < 12) :
    dayNumber year (month + 1) 1 = dayNumber year month 1 + daysIn year month := by
  obtain ⟨h, h'⟩ := h
  rcases (by omega : month = 1 ∨ month = 2 ∨ 3 ≤ month) with rfl | rfl | hlate
  · simp only [dayNumber, daysIn, Nat.reduceLeDiff, Nat.reduceAdd, Nat.reduceEqDiff, or_self, if_true,
      if_false]
    omega
  · -- the year that is counted from March ends here
    simp only [dayNumber, daysIn, cycle, isLeap, decide_eq_true_eq, Nat.reduceLeDiff, Nat.reduceAdd,
      if_true, if_false]
    split <;> omega
  · interval_cases month <;> simp [dayNumber, daysIn] <;> omega

theorem dayNumber_succ_year (year : Int) :
    dayNumber (year + 1) 1 1 = dayNumber year 1 1 + yearLength year := by
  rw [yearLength_eq]
  simp only [dayNumber, cycle, isLeap, decide_eq_true_eq, Nat.one_le_ofNat, if_true]
  split <;> omega

theorem dayNumber_first (year : Int) : dayNumber year 1 1 = daysToYear year := by
  induction year using Int.inductionOn' (b := 1970) with
  | zero => rfl
  | succ year _ ih => rw [dayNumber_succ_year, daysToYear_succ, ih]
  | pred year _ ih =>
    have hnumber := dayNumber_succ_year (year - 1)
    have hcount := daysToYear_succ (year - 1)
    rw [Int.sub_add_cancel] at hnumber hcount
    omega

/-- Days are numbered as they are counted. -/
theorem dayNumber_eq_daysTo {year : Int} {month day : Nat} (h : 1 ≤ month ∧ month ≤ 12) :
    dayNumber year month day = daysTo year month day := by
  obtain ⟨h, h'⟩ := h
  have hmonth : dayNumber year month 1 = daysToYear year + daysToMonth year month := by
    induction month, h using Nat.le_induction with
    | base => simp [dayNumber_first, daysToMonth]
    | succ month h ih =>
      rw [dayNumber_succ_month year ⟨h, h'⟩, ih (by omega), daysToMonth_succ year h]
      omega
  rw [dayNumber_eq, hmonth, daysTo]

/-- A day of a cycle by its year, counted from the start of the cycle, and its number in that year. The
years begin in March, so the long ones are those before a leap year. -/
structure InCycle (y n : Int) : Prop where
  year : 0 ≤ y ∧ y < 400
  day : 0 ≤ n ∧ n ≤ 365
  long : n = 365 → (y + 1) % 4 = 0 ∧ ((y + 1) % 100 ≠ 0 ∨ y = 399)

/-- The number of a day in its cycle. -/
def dayOfCycle (y n : Int) : Int := y * 365 + y / 4 - y / 100 + n

/-- A cycle has four centuries, a century 25 spans of four years. -/
theorem InCycle.spans {y n : Int} (h : InCycle y n) : ∃ c k r : Int,
    (0 ≤ c ∧ c ≤ 3) ∧ (0 ≤ k ∧ k ≤ 24) ∧ (0 ≤ r ∧ r ≤ 3) ∧ (n = 365 → r = 3 ∧ (k = 24 → c = 3)) ∧
      y = 100 * c + 4 * k + r ∧ dayOfCycle y n = 36524 * c + 1461 * k + 365 * r + n := by
  obtain ⟨hyear, hday, hlong⟩ := h
  refine ⟨y / 100, y % 100 / 4, y % 4, ?_⟩
  unfold dayOfCycle
  omega

/-- The year of a day is read from its number. -/
theorem InCycle.year_eq {y n : Int} (h : InCycle y n) :
    let e := dayOfCycle y n
    0 ≤ e ∧ e < cycle ∧ (e - e / 1460 + e / 36524 - e / 146096) / 365 = y := by
  intro e
  obtain ⟨c, k, r, hc, hk, hr, hlong, hyear, he⟩ := h.spans
  have he : e = 36524 * c + 1461 * k + 365 * r + n := he
  obtain ⟨-, hday, -⟩ := h
  have hbound : 0 ≤ e ∧ e ≤ 146096 := by omega
  have hend : e = 146096 → c = 3 ∧ n = 365 := by omega
  have hcentury : e < 146096 → e / 36524 = c := by omega
  have hspan : e / 1460 = 25 * c + k ∨ (e / 1460 = 25 * c + k + 1 ∧ 0 < n) := by omega
  have hlast : n = 365 → e / 1460 = 25 * c + k + 1 := by omega
  unfold cycle
  omega

theorem exists_inCycle {e : Int} (h : 0 ≤ e ∧ e < cycle) :
    ∃ y n, InCycle y n ∧ dayOfCycle y n = e := by
  unfold cycle at h
  by_cases hend : e = 146096
  · exact ⟨399, 365, ⟨by omega, by omega, by omega⟩, hend.symm⟩
  · let c := e / 36524
    let k := e % 36524 / 1461
    let q := e % 36524 % 1461
    have he : e = 36524 * c + 1461 * k + q := by omega
    have hc : 0 ≤ c ∧ c ≤ 3 := by omega
    have hk : 0 ≤ k ∧ k ≤ 24 := by omega
    have hq : 0 ≤ q ∧ q ≤ 1460 ∧ (q = 1460 → k ≤ 23) := by omega
    -- the last day of four years belongs to the last of them
    obtain ⟨r, n, hr, hn, hqn, hlong⟩ : ∃ r n : Int, (0 ≤ r ∧ r ≤ 3) ∧ (0 ≤ n ∧ n ≤ 365) ∧
        365 * r + n = q ∧ (n = 365 → r = 3 ∧ k ≤ 23) := by
      by_cases hlast : q = 1460
      · exact ⟨3, 365, by omega⟩
      · exact ⟨q / 365, q % 365, by omega⟩
    have hfour : (100 * c + 4 * k + r) / 4 = 25 * c + k := by omega
    have hcentury : (100 * c + 4 * k + r) / 100 = c := by omega
    refine ⟨100 * c + 4 * k + r, n, ⟨by omega, hn, by omega⟩, ?_⟩
    rw [dayOfCycle, hfour, hcentury]
    omega

/-- The year that a month belongs to, where years begin in March. -/
def marchYear (year : Int) (month : Nat) : Int := if month ≤ 2 then year - 1 else year

/-- The number of a day in that year. -/
def marchDay (month day : Nat) : Int :=
  (153 * (if month ≤ 2 then (month : Int) + 9 else month - 3) + 2) / 5 + day - 1

/-- The day of the calendar with a number in such a year. -/
def ofMarch (y n : Int) : Int × Nat × Nat :=
  let m := (5 * n + 2) / 153
  let month := if m < 10 then m + 3 else m - 9
  (y + (if month ≤ 2 then 1 else 0), month.toNat, (n - (153 * m + 2) / 5 + 1).toNat)

/-- The number of a day by its place in a cycle. -/
def placed (y n : Int) : Int := y / 400 * cycle + dayOfCycle (y % 400) n - 719468

theorem dayNumber_eq_placed (year : Int) (month day : Nat) :
    dayNumber year month day = placed (marchYear year month) (marchDay month day) := by
  simp only [dayNumber, placed, dayOfCycle, marchYear, marchDay]

theorem civil_placed {y n : Int} (h : InCycle (y % 400) n) : civil (placed y n) = ofMarch y n := by
  obtain ⟨hlow, hhigh, hyear⟩ := h.year_eq
  have hsum : placed y n + 719468 = dayOfCycle (y % 400) n + cycle * (y / 400) := by
    rw [placed, Int.sub_add_cancel, Int.add_comm, Int.mul_comm]
  have hcycle : (placed y n + 719468) / cycle = y / 400 := by
    rw [hsum, Int.add_mul_ediv_left _ _ (by decide), Int.ediv_eq_zero_of_lt hlow hhigh, Int.zero_add]
  have hday : (placed y n + 719468) % cycle = dayOfCycle (y % 400) n := by
    rw [hsum, Int.add_mul_emod_self_left, Int.emod_eq_of_lt hlow hhigh]
  have hnumber : dayOfCycle (y % 400) n - (365 * (y % 400) + y % 400 / 4 - y % 400 / 100) = n := by
    unfold dayOfCycle
    omega
  have hsplit : y % 400 + y / 400 * 400 = y := by omega
  simp only [civil, hday, hyear, hcycle, hnumber, hsplit]
  rfl

/-- The days of a month in their year. -/
theorem marchDay_cases {year : Int} {month day : Nat} (h : IsCivil year month day) :
    0 ≤ marchDay month day ∧ (marchDay month day ≤ 364 ∨
      (marchDay month day = 365 ∧ month = 2 ∧ isLeap year = true)) ∧
    (5 * marchDay month day + 2) / 153 = if month ≤ 2 then (month : Int) + 9 else month - 3 := by
  obtain ⟨⟨hmonth, hmonth'⟩, hday, hday'⟩ := h
  unfold marchDay
  by_cases hfebruary : month = 2
  · subst hfebruary
    simp only [daysIn, if_true] at hday'
    split at hday' <;> simp_all <;> omega
  · interval_cases month <;> simp [daysIn] at * <;> omega

theorem inCycle_march {year : Int} {month day : Nat} (h : IsCivil year month day) :
    InCycle (marchYear year month % 400) (marchDay month day) := by
  obtain ⟨hlow, hhigh, -⟩ := marchDay_cases h
  refine ⟨by omega, by omega, fun hlong => ?_⟩
  rcases hhigh with hhigh | ⟨-, rfl, hleap⟩
  · omega
  · simp only [isLeap, decide_eq_true_eq] at hleap
    simp only [marchYear, Nat.le_refl, if_true]
    omega

theorem ofMarch_march {year : Int} {month day : Nat} (h : IsCivil year month day) :
    ofMarch (marchYear year month) (marchDay month day) = (year, month, day) := by
  obtain ⟨hlow, hhigh, hmonth⟩ := marchDay_cases h
  simp only [ofMarch, hmonth, Prod.mk.injEq]
  have := h.inYear
  refine ⟨?_, ?_, ?_⟩
  · unfold marchYear
    split <;> split <;> split <;> omega
  · split <;> split <;> omega
  · unfold marchDay
    split <;> omega

/-- Every day of such a year is a day of the calendar. -/
theorem exists_march {y n : Int} (h : InCycle (y % 400) n) : ∃ year month day,
    IsCivil year month day ∧ marchYear year month = y ∧ marchDay month day = n := by
  obtain ⟨-, hday, hlong⟩ := h
  let m := (5 * n + 2) / 153
  have hm : 0 ≤ m ∧ m ≤ 11 := by omega
  have hfirst : 1 ≤ n - (153 * m + 2) / 5 + 1 := by omega
  by_cases hend : m = 11
  · refine ⟨y + 1, 2, (n - 336).toNat, ⟨by decide, by omega, ?_⟩, ?_, ?_⟩
    · simp only [daysIn, isLeap, if_true, decide_eq_true_eq]
      split <;> omega
    · simp [marchYear]
    · simp only [marchDay, Nat.le_refl, if_true]
      omega
  · by_cases hyear : m = 10
    · refine ⟨y + 1, 1, (n - 305).toNat, ⟨by decide, by omega, ?_⟩, ?_, ?_⟩
      · simp only [daysIn, OfNat.one_ne_ofNat, or_self, if_false]
        omega
      · simp [marchYear]
      · simp only [marchDay, Nat.one_le_ofNat, if_true]
        omega
    · refine ⟨y, (m + 3).toNat, (n - (153 * m + 2) / 5 + 1).toNat, ⟨by omega, by omega, ?_⟩, ?_, ?_⟩
      · simp only [daysIn]
        split
        · omega
        · split <;> omega
      · rw [marchYear, if_neg (by omega)]
      · rw [marchDay, if_neg (by omega)]
        omega

/-- Every number is that of a day. -/
theorem exists_dayNumber (days : Int) :
    ∃ year month day, IsCivil year month day ∧ dayNumber year month day = days := by
  obtain ⟨q, n, hcycle, hq⟩ := exists_inCycle (e := (days + 719468) % cycle)
    ⟨Int.emod_nonneg _ (by decide), Int.emod_lt_of_pos _ (by decide)⟩
  let y := (days + 719468) / cycle * 400 + q
  have hyear : 0 ≤ q ∧ q < 400 := hcycle.year
  have hmod : y % 400 = q := by omega
  have hdiv : y / 400 = (days + 719468) / cycle := by omega
  obtain ⟨year, month, day, hcivil, hmarch, hday⟩ := exists_march (y := y) (n := n) (by rwa [hmod])
  refine ⟨year, month, day, hcivil, ?_⟩
  rw [dayNumber_eq_placed, hmarch, hday, placed, hmod, hdiv, hq, Int.ediv_mul_add_emod]
  omega

/-- It is read as that day. -/
theorem civil_dayNumber {year : Int} {month day : Nat} (h : IsCivil year month day) :
    civil (dayNumber year month day) = (year, month, day) := by
  rw [dayNumber_eq_placed, civil_placed (inCycle_march h), ofMarch_march h]

theorem ofDays?_dayNumber {year : Int} {month day : Nat} (h : IsCivil year month day) :
    ofDays? (dayNumber year month day) = of? year month day := by
  rw [ofDays?, civil_dayNumber h]

/-- Only the year of a day decides whether there is a date for it. -/
theorem isDay_iff {year : Int} {month day : Nat} (h : IsCivil year month day) :
    IsDay year month day ↔ leastYear ≤ year ∧ year ≤ greatestYear :=
  ⟨fun hday => ⟨hday.1, hday.2.1⟩, fun hyear => ⟨hyear.1, hyear.2, h.inYear.1, h.inYear.2, h.inMonth⟩⟩

theorem of?_eq_none_iff {year : Int} {month day : Nat} (h : IsCivil year month day) :
    of? year month day = none ↔ year < leastYear ∨ greatestYear < year := by
  rw [of?]
  split
  next hday =>
    obtain ⟨hlow, hhigh⟩ := (isDay_iff h).mp hday
    simp [Int.not_lt.mpr hlow, Int.not_lt.mpr hhigh]
  next hday =>
    rw [isDay_iff h] at hday
    simp only [true_iff]
    omega

end Date

end BandCatalog.Calendar
