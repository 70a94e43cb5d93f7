import Logbook.Time.Calendar
import Mathlib.Algebra.GroupWithZero.Nat

/-!
# Counting days

Dates and counts of days are the same thing.

## Main results

* `Date.daysBeforeYear_succ` — the length of a year.
* `Date.yearOfDay_spec` — a day lies in its year.
* `Date.monthAndDay_take`, `Date.monthAndDay_spec` — a day lies in its month.
* `Date.toDays_ofDays`, `Date.ofDays_toDays` — **dates and days correspond.**
-/

namespace Logbook.Date

/-! ### Years -/

/-- The number of days of a year. -/
def yearLength (year : Int) : Nat := if isLeap year then 366 else 365

theorem length_monthLengths (year : Int) : (monthLengths year).length = 12 := rfl

theorem sum_monthLengths (year : Int) : (monthLengths year).sum = yearLength year := by
  rw [monthLengths, yearLength]
  cases isLeap year with
  | true => rfl
  | false => rfl

theorem isLeap_iff (year : Int) :
    isLeap year = true ↔ year % 4 = 0 ∧ (year % 100 ≠ 0 ∨ year % 400 = 0) := by
  simp only [isLeap, ne_eq, decide_not, Bool.and_eq_true, decide_eq_true_eq, Bool.or_eq_true,
    Bool.not_eq_eq_eq_not, Bool.not_true, decide_eq_false_iff_not]

/-- A year ends where the next one starts. -/
theorem daysBeforeYear_succ (year : Int) : daysBeforeYear (year + 1) = daysBeforeYear year + yearLength year := by
  have hleap := isLeap_iff year
  have h4 : year / 4 = (year - 1) / 4 + if year % 4 = 0 then 1 else 0 := by split <;> omega
  have h100 : year / 100 = (year - 1) / 100 + if year % 100 = 0 then 1 else 0 := by split <;> omega
  have h400 : year / 400 = (year - 1) / 400 + if year % 400 = 0 then 1 else 0 := by split <;> omega
  simp only [daysBeforeYear, yearLength, Int.add_sub_cancel]
  rw [h4, h100, h400]
  cases hyear : isLeap year with
  | true =>
    obtain ⟨hfour, hor⟩ := hleap.1 hyear
    rw [if_pos hfour, if_pos rfl]
    rcases hor with hhundred | hfourHundred
    · rw [if_neg hhundred, if_neg (by omega)]
      omega
    · rw [if_pos (by omega), if_pos hfourHundred]
      omega
  | false =>
    have hnot : ¬ (year % 4 = 0 ∧ (year % 100 ≠ 0 ∨ year % 400 = 0)) := fun h => by
      rw [hleap.2 h] at hyear
      cases hyear
    rw [if_neg Bool.false_ne_true]
    by_cases hfour : year % 4 = 0
    · rw [if_pos hfour, if_pos (by omega), if_neg (by omega)]
      omega
    · rw [if_neg hfour, if_neg (by omega), if_neg (by omega)]
      omega

/-- Later years start later. -/
theorem daysBeforeYear_lt {year year' : Int} (h : year < year') :
    daysBeforeYear (year + 1) ≤ daysBeforeYear year' := by
  simp only [daysBeforeYear]
  omega

/-- A day lies in its year. -/
theorem yearOfDay_spec (days : Int) :
    daysBeforeYear (yearOfDay days) ≤ days ∧ days < daysBeforeYear (yearOfDay days + 1) := by
  have hbounds : daysBeforeYear (1970 + days * 400 / 146097 - 1) ≤ days ∧
      days < daysBeforeYear (1970 + days * 400 / 146097 + 1 + 1) := by
    simp only [daysBeforeYear]
    omega
  simp only [yearOfDay]
  split
  case isTrue h => exact ⟨hbounds.1, by rw [Int.sub_add_cancel]; exact h⟩
  case isFalse h =>
    split
    case isTrue h' => exact ⟨Int.not_lt.1 h, h'⟩
    case isFalse h' => exact ⟨Int.not_lt.1 h', hbounds.2⟩

/-- A day lies in one year only. -/
theorem yearOfDay_eq {days year : Int} (h : daysBeforeYear year ≤ days) (h' : days < daysBeforeYear (year + 1)) :
    yearOfDay days = year := by
  obtain ⟨hle, hlt⟩ := yearOfDay_spec days
  rcases Int.lt_trichotomy (yearOfDay days) year with hy | hy | hy
  · have := daysBeforeYear_lt hy
    omega
  · exact hy
  · have := daysBeforeYear_lt hy
    omega

/-! ### Months -/

/-- The days of a month come after those of the months before it. -/
theorem monthAndDay_take : ∀ (month : Nat) (lengths : List Nat) (k : Nat) (day : Nat),
    k < lengths.length → day < lengths.getD k 0 →
      monthAndDay month lengths ((lengths.take k).sum + day) = (month + k, day + 1)
  | _, [], _, _, hk, _ => absurd hk (Nat.not_lt_zero _)
  | month, length :: rest, 0, day, _, hday => by
    rw [List.take_zero, List.sum_nil, Nat.zero_add, monthAndDay, if_pos (show day < length from hday)]
    rfl
  | month, length :: rest, k + 1, day, hk, hday => by
    have ih := monthAndDay_take (month + 1) rest k day (Nat.lt_of_succ_lt_succ hk) hday
    rw [List.take_succ_cons, List.sum_cons, monthAndDay, if_neg (by omega), Nat.add_assoc,
      Nat.add_sub_cancel_left, ih, Nat.add_assoc, Nat.add_comm 1 k]

/-- A day of a year lies in one of the months. -/
theorem monthAndDay_spec : ∀ (month : Nat) (lengths : List Nat) (n : Nat), n < lengths.sum →
    ∃ k day, k < lengths.length ∧ day < lengths.getD k 0 ∧ n = (lengths.take k).sum + day ∧
      monthAndDay month lengths n = (month + k, day + 1)
  | _, [], _, hn => absurd hn (Nat.not_lt_zero _)
  | month, length :: rest, n, hn => by
    by_cases hlt : n < length
    · refine ⟨0, n, Nat.succ_pos _, hlt, (Nat.zero_add n).symm, ?_⟩
      rw [monthAndDay, if_pos hlt]
      rfl
    · rw [List.sum_cons] at hn
      obtain ⟨k, day, hk, hday, heq, hmonth⟩ := monthAndDay_spec (month + 1) rest (n - length) (by omega)
      refine ⟨k + 1, day, Nat.succ_lt_succ hk, hday, ?_, ?_⟩
      · rw [List.take_succ_cons, List.sum_cons]
        omega
      · rw [monthAndDay, if_neg hlt, hmonth, Nat.add_assoc, Nat.add_comm 1 k]

/-- No month is longer than 31 days. -/
theorem getD_monthLengths_le (year : Int) (k : Nat) : (monthLengths year).getD k 0 ≤ 31 := by
  have hlengths : ∀ leap : Bool, ∀ n ∈ [31, if leap then 29 else 28, 31, 30, 31, 30, 31, 31, 30, 31, 30, 31],
      n ≤ 31 := by decide
  rw [List.getD_eq_getElem?_getD]
  cases hk : (monthLengths year)[k]? with
  | none => exact Nat.zero_le 31
  | some n => exact hlengths (isLeap year) n (List.mem_of_getElem? hk)

/-! ### Dates -/

theorem daysBeforeMonth_eq (year : Int) (month : Nat) :
    daysBeforeMonth year month = ((monthLengths year).take (month - 1)).sum := rfl

/-- A date lies in its year. -/
theorem daysBeforeMonth_add_day_le {d : Date} (h : d.Exists) :
    daysBeforeMonth d.year d.month + d.day ≤ yearLength d.year := by
  obtain ⟨hmonth, hmonth', -, hday⟩ := h
  have hk : d.month - 1 < (monthLengths d.year).length := by rw [length_monthLengths]; omega
  have hsum : ((monthLengths d.year).take (d.month - 1)).sum + (monthLengths d.year).getD (d.month - 1) 0 ≤
      (monthLengths d.year).sum := by
    conv => rhs; rw [← List.take_append_drop (d.month - 1) (monthLengths d.year), List.sum_append]
    rw [List.drop_eq_getElem_cons hk, List.sum_cons, List.getD_eq_getElem?_getD,
      List.getElem?_eq_getElem hk, Option.getD_some]
    omega
  rw [daysBeforeMonth_eq, ← sum_monthLengths]
  omega

/-- **The date of the day of a date.** -/
theorem ofDays_toDays {d : Date} (h : d.Exists) : ofDays d.toDays = d := by
  have hle := daysBeforeMonth_add_day_le h
  obtain ⟨hmonth, hmonth', hday, hday'⟩ := h
  have hyear : yearOfDay d.toDays = d.year := by
    refine yearOfDay_eq ?_ ?_
    · simp only [toDays]
      omega
    · rw [daysBeforeYear_succ]
      simp only [toDays]
      omega
  have hrest : (d.toDays - daysBeforeYear d.year).toNat =
      ((monthLengths d.year).take (d.month - 1)).sum + (d.day - 1) := by
    rw [← daysBeforeMonth_eq]
    simp only [toDays]
    omega
  have hk : d.month - 1 < (monthLengths d.year).length := by rw [length_monthLengths]; omega
  simp only [ofDays]
  rw [hyear, hrest, monthAndDay_take 1 _ _ _ hk (by omega)]
  rw [Nat.add_sub_of_le hmonth, Nat.sub_add_cancel hday]

/-- The day of a date, and the date is there. -/
theorem toDays_ofDays (days : Int) : (ofDays days).Exists ∧ (ofDays days).toDays = days := by
  obtain ⟨hle, hlt⟩ := yearOfDay_spec days
  rw [daysBeforeYear_succ, ← sum_monthLengths] at hlt
  obtain ⟨k, day, hk, hday, heq, hmonth⟩ := monthAndDay_spec 1 (monthLengths (yearOfDay days))
    (days - daysBeforeYear (yearOfDay days)).toNat (by omega)
  have hdate : ofDays days = ⟨yearOfDay days, 1 + k, day + 1⟩ := by simp only [ofDays, hmonth]
  rw [length_monthLengths] at hk
  rw [hdate]
  constructor
  · refine ⟨Nat.le_add_right 1 k, ?_, Nat.le_add_left 1 day, ?_⟩
    · show 1 + k ≤ 12
      omega
    · show day + 1 ≤ (monthLengths (yearOfDay days)).getD (1 + k - 1) 0
      rw [Nat.add_sub_cancel_left]
      exact hday
  · simp only [toDays, daysBeforeMonth_eq, Nat.add_sub_cancel_left]
    omega

end Logbook.Date
