import BandCatalog.Catalog.Band
import BandCatalog.Proofs.Calendar.Counting
import BandCatalog.Proofs.Calendar.Reading

/-!
# Dates of establishment

A date is given by a text that begins with it or by a number of milliseconds on its day, and both are read
as that date. A date is written with its whole year, but read from ten bytes only: outside of the years 0 to
9999 they are not the whole of it (`leading?_toText`).
-/
namespace BandCatalog

namespace Text

/-- Characters of one byte each are cut off whole. -/
theorem prefixOfBytes?_of_single {cs : List Char} (h : ∀ c ∈ cs, c.utf8Size = 1) (r : List Char) :
    prefixOfBytes? cs.length (cs ++ r) = some cs := by
  have htaken : takeBytes cs.length (cs ++ r) = cs ∧ byteSize cs = cs.length := by
    induction cs with
    | nil =>
      refine ⟨?_, rfl⟩
      cases r with
      | nil => rfl
      | cons c r => simp [takeBytes, Nat.ne_of_gt c.utf8Size_pos]
    | cons c cs ih =>
      obtain ⟨htaken, hsize⟩ := ih fun d hd => h d (List.mem_cons_of_mem _ hd)
      have hc : c.utf8Size = 1 := h c List.mem_cons_self
      refine ⟨?_, by rw [byteSize_cons, hc, hsize, List.length_cons, Nat.add_comm]⟩
      simp [takeBytes, hc, htaken]
  simp [prefixOfBytes?, htaken.1, htaken.2]

end Text

namespace Calendar

open Text

theorem utf8Size_of_isDigit {c : Char} (h : c.isDigit = true) : c.utf8Size = 1 := by
  simp only [Char.isDigit, Bool.and_eq_true, decide_eq_true_eq, UInt32.le_iff_toNat_le] at h
  have hrange : c.val.toNat ≤ 57 := h.2
  rw [Char.utf8Size_eq_one_iff, UInt32.le_iff_toNat_le]
  exact Nat.le_trans hrange (by decide)

theorem utf8Size_of_mem_padded {width n : Nat} {c : Char} (h : c ∈ padded width n) : c.utf8Size = 1 :=
  utf8Size_of_isDigit (isDigit_of_mem_padded h)

theorem utf8Size_of_mem_toChars {d : Date} {c : Char} (h : c ∈ d.toChars) : c.utf8Size = 1 := by
  have hyear : ∀ c ∈ yearText d.year, c.utf8Size = 1 := by
    intro c hc
    unfold yearText at hc
    split at hc
    · exact utf8Size_of_mem_padded hc
    · rcases List.mem_cons.mp hc with rfl | hc
      · split <;> rfl
      · exact utf8Size_of_mem_padded hc
  simp only [Date.toChars, List.cons_append, List.append_assoc, List.mem_append, List.mem_cons] at h
  rcases h with h | rfl | h | rfl | h
  · exact hyear c h
  · rfl
  · exact utf8Size_of_mem_padded h
  · rfl
  · exact utf8Size_of_mem_padded h

namespace Date

/-- What is read of a text whose first ten characters have one byte each. -/
theorem leading?_append {cs r : List Char} (hlength : cs.length = 10) (h : ∀ c ∈ cs, c.utf8Size = 1) :
    leading? (String.ofList (cs ++ r)) = ofChars? cs := by
  have hcut := prefixOfBytes?_of_single h r
  rw [hlength] at hcut
  simp only [leading?, String.toList_ofList, hcut, Option.getD_some]

/-- A year of four digits and a date after it are ten characters. -/
theorem length_toChars {d : Date} (h : 0 ≤ d.year ∧ d.year ≤ 9999) : d.toChars.length = 10 := by
  have hyear : (padded 4 d.year.toNat).length = 4 := length_padded_of_lt (by decide) (by omega)
  have hmonth : (padded 2 d.month).length = 2 := length_padded_of_lt (by decide) d.month_lt
  have hday : (padded 2 d.day).length = 2 := length_padded_of_lt (by decide) d.day_lt
  simp [toChars, yearText, h, hyear, hmonth, hday]

theorem leading?_of_digits {d : Date} (h : 0 ≤ d.year ∧ d.year ≤ 9999) (r : List Char) :
    leading? (String.ofList (d.toChars ++ r)) = some d := by
  rw [leading?_append (length_toChars h) fun c hc => utf8Size_of_mem_toChars hc, ofChars?_toChars]

/-- What is read of a date that starts with a year as it is written. -/
theorem ofChars?_yearText (y : Int) (r : List Char) :
    ofChars? (yearText y ++ '-' :: r) = (part? r).bind fun m => (after? '-' m.2).bind fun r =>
      (part? r).bind fun d => if d.2 = [] then of? y m.1 d.1 else none := by
  simp [ofChars?, year?_hyphen, after?_cons]

/-- The first digit of a day. -/
theorem padded_two {n : Nat} (h : n < 100) : padded 2 n = padded 1 (n / 10) ++ padded 1 (n % 10) := by
  have hall : ∀ n < 100, padded 2 n = padded 1 (n / 10) ++ padded 1 (n % 10) := by decide
  exact hall n h

/-- The date that is read where the text of a date is one of establishment. Behind the sign of a year from
-9999 on there is place for the first digit of the day, behind the sign of any other year for none. -/
def reread (d : Date) : Option Date :=
  if 0 ≤ d.year ∧ d.year ≤ 9999 then some d
  else if -9999 ≤ d.year ∧ d.year < 0 then of? d.year d.month (d.day / 10)
  else none

/-- A year with a sign has five characters, or six or seven. -/
theorem length_yearText {y : Int} (h : ¬(0 ≤ y ∧ y ≤ 9999)) (hlow : leastYear ≤ y)
    (hhigh : y ≤ greatestYear) : (yearText y).length =
      if y.natAbs < 10000 then 5 else if y.natAbs < 100000 then 6 else 7 := by
  unfold leastYear at hlow
  unfold greatestYear at hhigh
  have hdigits : ∀ k, 0 < k → ((Nat.toDigits 10 y.natAbs).length ≤ k ↔ y.natAbs < 10 ^ k) :=
    fun k => Nat.length_toDigits_le_iff (by decide)
  have hfour := hdigits 4 (by decide)
  have hfive := hdigits 5 (by decide)
  have hsix := hdigits 6 (by decide)
  simp only [Nat.reducePow] at hfour hfive hsix
  rw [yearText, if_neg h, List.length_cons, padded, List.length_append, List.length_replicate]
  split
  · omega
  · split <;> omega

section signed

variable {d : Date}

/-- Behind the sign of a year of four digits the tenth character is the first digit of the day. -/
theorem leading?_of_short (h : -9999 ≤ d.year ∧ d.year < 0) :
    leading? d.toText = of? d.year d.month (d.day / 10) := by
  have hyear : (yearText d.year).length = 5 := by
    rw [length_yearText (by omega) d.isDay.1 d.isDay.2.1, if_pos (by omega)]
  have hmonth : (padded 2 d.month).length = 2 := length_padded_of_lt (by decide) d.month_lt
  have hfirst : (padded 1 (d.day / 10)).length = 1 := by
    have hday := d.day_lt
    exact length_padded_of_lt (by decide) (by omega)
  have htext : d.toChars = (yearText d.year ++ '-' :: (padded 2 d.month ++
      '-' :: padded 1 (d.day / 10))) ++ padded 1 (d.day % 10) := by
    simp [toChars, padded_two d.day_lt]
  have hsingle : ∀ c ∈ d.toChars, c.utf8Size = 1 := fun c hc => utf8Size_of_mem_toChars hc
  rw [htext] at hsingle
  have hday : part? (padded 1 (d.day / 10)) = some (d.day / 10, []) := part?_last (by omega)
  rw [toText, htext, leading?_append (by simp [hyear, hmonth, hfirst])
    fun c hc => hsingle c (List.mem_append_left _ hc), ofChars?_yearText, part?_padded d.month_lt]
  simp [after?_cons, hday]

/-- Behind the sign of a longer year there is no place for the day. -/
theorem leading?_of_long (h : d.year < -9999 ∨ 9999 < d.year) : leading? d.toText = none := by
  have hyear := length_yearText (y := d.year) (by omega) d.isDay.1 d.isDay.2.1
  have hmonth : (padded 2 d.month).length = 2 := length_padded_of_lt (by decide) d.month_lt
  have hsingle : ∀ c ∈ d.toChars, c.utf8Size = 1 := fun c hc => utf8Size_of_mem_toChars hc
  rw [if_neg (by omega)] at hyear
  split at hyear
  next =>
    have htext : d.toChars = (yearText d.year ++ '-' :: (padded 2 d.month ++ ['-'])) ++
        padded 2 d.day := by simp [toChars]
    rw [htext] at hsingle
    rw [toText, htext, leading?_append (by simp [hyear, hmonth])
      fun c hc => hsingle c (List.mem_append_left _ hc), ofChars?_yearText, part?_padded d.month_lt]
    rfl
  next =>
    have htext : d.toChars = (yearText d.year ++ '-' :: (padded 2 d.month ++ [])) ++
        '-' :: padded 2 d.day := by simp [toChars]
    rw [htext] at hsingle
    rw [toText, htext, leading?_append (by simp [hyear, hmonth])
      fun c hc => hsingle c (List.mem_append_left _ hc), ofChars?_yearText, part?_padded d.month_lt]
    rfl

end signed

theorem leading?_toText (d : Date) : leading? d.toText = d.reread := by
  unfold reread
  split
  next h =>
    have hread := leading?_of_digits h []
    rwa [List.append_nil] at hread
  next h =>
    split
    next hshort => exact leading?_of_short hshort
    next hlong => exact leading?_of_long (by omega)

/-- It is read as the same date only from four digits. -/
theorem reread_eq_some_iff (d : Date) : d.reread = some d ↔ 0 ≤ d.year ∧ d.year ≤ 9999 := by
  unfold reread
  split
  next h => simp [h]
  next h =>
    refine iff_of_false ?_ h
    split
    next =>
      -- no day is its own first digit
      intro hread
      unfold of? at hread
      split at hread
      · have hday : d.day / 10 = d.day := congrArg Date.day (Option.some.inj hread)
        have hpos := d.isDay.2.2.2.2.1
        omega
      · cases hread
    next => simp

end Date

end Calendar

open Calendar

/-- A number is read as the day that it falls on, if there is a date for it. -/
theorem decodeEstablishment_ofInt (ms : Int64) :
    decodeEstablishment (.ofInt ms.toInt) = some (Date.ofMilliseconds? ms.toInt) := by
  have hlow : -9223372036854775808 ≤ ms.toInt := ms.le_toInt
  have hhigh : ms.toInt ≤ 9223372036854775807 := by
    have := ms.toInt_lt
    omega
  have hint : Json.decodeInt64 (.ofInt ms.toInt) = some ms.toInt := by
    simp [Json.decodeInt64, Json.decodeInt, Json.ofInt, hlow, hhigh]
  show (Json.decodeInt64 (.ofInt ms.toInt)).map Date.ofMilliseconds? = _
  rw [hint, Option.map_some]

theorem ofMilliseconds?_eq {year : Int} {month day : Nat} {ms : Int} (h : IsCivil year month day)
    (hms : daysTo year month day = ms / 86400000) :
    Date.ofMilliseconds? ms = Date.of? year month day := by
  rw [Date.ofMilliseconds?, Date.millisecondsPerDay, ← hms, ← Date.dayNumber_eq_daysTo h.inYear,
    Date.ofDays?_dayNumber h]

/-- A date of a year of four digits is read from each text that begins with it and from every millisecond of its day;
every number of 64 bits is read as its day or, of a year that is not covered, as none. -/
theorem spellings_agree :
    (∀ (d : Date) (s : String) (ms : Int64), 0 ≤ d.year → d.year ≤ 9999 →
      daysTo d.year d.month d.day * 86400000 ≤ ms.toInt →
      ms.toInt < (daysTo d.year d.month d.day + 1) * 86400000 →
      decodeEstablishment (.text (String.ofList (padded 4 d.year.toNat ++ '-' :: padded 2 d.month ++
        '-' :: padded 2 d.day) ++ s)) = some (some d) ∧
      decodeEstablishment (.ofInt ms.toInt) = some (some d)) ∧
    ∀ ms : Int64, ∃ year month day, IsCivil year month day ∧
      daysTo year month day = ms.toInt.fdiv 86400000 ∧
      decodeEstablishment (.ofInt ms.toInt) = some (Date.of? year month day) ∧
      (Date.of? year month day = none ↔ year < leastYear ∨ greatestYear < year) := by
  constructor
  · intro d s ms hlow hhigh hfrom hto
    have htext : padded 4 d.year.toNat ++ '-' :: padded 2 d.month ++ '-' :: padded 2 d.day =
        d.toChars := by
      rw [Date.toChars, yearText, if_pos ⟨hlow, hhigh⟩]
    have hdays : daysTo d.year d.month d.day = ms.toInt / 86400000 := by omega
    constructor
    · show some (Date.leading? _) = some (some d)
      rw [htext, ← String.ofList_toList (s := s), ← String.ofList_append,
        Date.leading?_of_digits ⟨hlow, hhigh⟩]
    · rw [decodeEstablishment_ofInt, ofMilliseconds?_eq d.isCivil hdays, Date.of?_self]
  · intro ms
    obtain ⟨year, month, day, hcivil, hdays⟩ := Date.exists_dayNumber (ms.toInt / 86400000)
    rw [Date.dayNumber_eq_daysTo hcivil.inYear] at hdays
    refine ⟨year, month, day, hcivil, ?_, ?_, Date.of?_eq_none_iff hcivil⟩
    · rw [hdays, Int.fdiv_eq_ediv_of_nonneg _ (by decide)]
    · rw [decodeEstablishment_ofInt, ofMilliseconds?_eq hcivil hdays]

/-- A leap day before 1970, its text going on with a time. -/
def leapDay : Date := ⟨1968, 2, 29, by decide⟩

theorem spellings_of_leap_day_agree : daysTo 1968 2 29 = -672 ∧
      decodeEstablishment (.text "1968-02-29T23:59:59.999Ω") = some (some leapDay) ∧
      decodeEstablishment (.ofInt (-57974400001)) = some (some leapDay) := by
  have hdays : daysTo 1968 2 29 = -672 := by decide
  exact ⟨hdays, spellings_agree.1 leapDay "T23:59:59.999Ω" (-57974400001) (by decide) (by decide) (by decide)
    (by decide)⟩

end BandCatalog
