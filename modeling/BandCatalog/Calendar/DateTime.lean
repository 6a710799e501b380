import BandCatalog.Calendar.Date

/-!
# Points in time

A date with a time of day, to the nanosecond. A second may be 60, a leap second.
-/
namespace BandCatalog.Calendar

def IsTime (hour minute second nanosecond : Nat) : Prop :=
  hour < 24 ∧ minute < 60 ∧ second ≤ 60 ∧ nanosecond < 1000000000

instance (hour minute second nanosecond : Nat) : Decidable (IsTime hour minute second nanosecond) := by
  unfold IsTime; infer_instance

structure DateTime where
  date : Date
  hour : Nat
  minute : Nat
  second : Nat
  nanosecond : Nat
  isTime : IsTime hour minute second nanosecond
  deriving DecidableEq, Repr

namespace DateTime

def of? (date : Date) (hour minute second nanosecond : Nat) : Option DateTime :=
  if h : IsTime hour minute second nanosecond then some ⟨date, hour, minute, second, nanosecond, h⟩
  else none

@[simp] theorem of?_self (t : DateTime) :
    of? t.date t.hour t.minute t.second t.nanosecond = some t := by simp [of?, t.isTime]

/-- Nothing, or a point and the fewest groups of three digits that are exact. -/
def fractionText (nanosecond : Nat) : List Char :=
  if nanosecond = 0 then []
  else if nanosecond % 1000000 = 0 then '.' :: padded 3 (nanosecond / 1000000)
  else if nanosecond % 1000 = 0 then '.' :: padded 6 (nanosecond / 1000)
  else '.' :: padded 9 nanosecond

def toChars (t : DateTime) : List Char :=
  t.date.toChars ++ 'T' :: padded 2 t.hour ++ ':' :: padded 2 t.minute ++ ':' :: padded 2 t.second ++
    fractionText t.nanosecond

def toText (t : DateTime) : String := String.ofList t.toChars

/-- Hours and minutes only. -/
def clockText (t : DateTime) : String :=
  String.ofList (padded 2 t.hour ++ ':' :: padded 2 t.minute)

end DateTime

end BandCatalog.Calendar
