/-!
# Civil dates

The proleptic Gregorian calendar, with a year zero, and the count of days since 1 January 1970.

## Main definitions

* `Date` — a year, a month from 1 to 12 and a day from 1 on.
* `Date.Exists` — the dates that the calendar has.
* `Date.toDays`, `Date.ofDays` — the count of days of a date, and the date of a count.
-/

namespace Logbook

/-- A year, a month and a day. -/
structure Date where
  /-- The year, counted through zero. -/
  year : Int
  /-- The month, from 1 to 12. -/
  month : Nat
  /-- The day of the month, from 1. -/
  day : Nat
  deriving DecidableEq, Repr

namespace Date

/-- Whether a year has a 29 February. -/
def isLeap (year : Int) : Bool := year % 4 = 0 && (year % 100 ≠ 0 || year % 400 = 0)

/-- The lengths of the twelve months of a year. -/
def monthLengths (year : Int) : List Nat :=
  [31, if isLeap year then 29 else 28, 31, 30, 31, 30, 31, 31, 30, 31, 30, 31]

/-- Whether the calendar has the date. -/
def Exists (d : Date) : Prop :=
  1 ≤ d.month ∧ d.month ≤ 12 ∧ 1 ≤ d.day ∧ d.day ≤ (monthLengths d.year).getD (d.month - 1) 0

instance (d : Date) : Decidable d.Exists := by unfold Exists; infer_instance

/-! ### Counting days -/

/-- The number of days from 1 January 1970 to the first day of a year. -/
def daysBeforeYear (year : Int) : Int :=
  365 * (year - 1970) + (year - 1) / 4 - (year - 1) / 100 + (year - 1) / 400 - 477

/-- The number of days in the year before the first day of a month. -/
def daysBeforeMonth (year : Int) (month : Nat) : Nat :=
  ((monthLengths year).take (month - 1)).foldr (· + ·) 0

/-- The number of days from 1 January 1970 to a date. -/
def toDays (d : Date) : Int := daysBeforeYear d.year + daysBeforeMonth d.year d.month + d.day - 1

/-- The year of a day.  The mean length of a year leads to the year or to a neighbour of it. -/
def yearOfDay (days : Int) : Int :=
  let year := 1970 + days * 400 / 146097
  if days < daysBeforeYear year then year - 1
  else if days < daysBeforeYear (year + 1) then year
  else year + 1

/-- The month and the day of the month of the day that comes `n` days after the first of `month`, where
the list holds the lengths of the months from `month` on. -/
def monthAndDay (month : Nat) : (lengths : List Nat) → (n : Nat) → Nat × Nat
  | [], n => (month, n + 1)
  | length :: rest, n =>
    if n < length then (month, n + 1) else monthAndDay (month + 1) rest (n - length)

/-- The date of a count of days. -/
def ofDays (days : Int) : Date :=
  let year := yearOfDay days
  let (month, day) := monthAndDay 1 (monthLengths year) (days - daysBeforeYear year).toNat
  ⟨year, month, day⟩

end Date

end Logbook
