import DocPress.Time.Calendar
import Mathlib.Algebra.Ring.Nat

/-!
# Days and dates

The number of a day determines its date, and the date gives the number back.

* `yearLength` — the days of a year; `sum_monthLengths` — they are the days of its months.
* `yearOfDay_spec` — a day lies in the year that it is assigned to.
* `monthAndDay_spec` — counting off the lengths of months splits a day of the year.

Principal results: `isValid_dateOfDay` — the calendar has the date of every day;
`dayNumber_dateOfDay` — its number is the day.
-/

namespace DocPress.Time

/-! ## Years -/

/-- The number of days of a year. -/
def yearLength (year : Int) : Nat := if isLeapYear year then 366 else 365

theorem isLeapYear_iff (year : Int) :
    isLeapYear year = true ↔ year % 4 = 0 ∧ (year % 100 ≠ 0 ∨ year % 400 = 0) := by
  simp [isLeapYear]

/-- The days before a year, with floors written as quotients. -/
theorem daysBeforeYear_eq (year : Int) :
    daysBeforeYear year =
      365 * (year - 1) + (year - 1) / 4 - (year - 1) / 100 + (year - 1) / 400 := by
  simp only [daysBeforeYear, Int.fdiv_eq_ediv_of_nonneg _ (by decide : (0 : Int) ≤ 4),
    Int.fdiv_eq_ediv_of_nonneg _ (by decide : (0 : Int) ≤ 100),
    Int.fdiv_eq_ediv_of_nonneg _ (by decide : (0 : Int) ≤ 400)]

theorem daysBeforeYear_succ (year : Int) :
    daysBeforeYear (year + 1) = daysBeforeYear year + yearLength year := by
  have hleap := isLeapYear_iff year
  rw [daysBeforeYear_eq, daysBeforeYear_eq, yearLength]
  split
  · rename_i h
    have := hleap.mp h
    omega
  · rename_i h
    have := mt hleap.mpr h
    omega

/-- The guess at the year of a day is at most one year off. -/
theorem daysBeforeYear_guess (day : Int) :
    daysBeforeYear (1 + day * 400 / 146097 - 1) ≤ day ∧
      day < daysBeforeYear (1 + day * 400 / 146097 + 2) := by
  rw [daysBeforeYear_eq, daysBeforeYear_eq]
  omega

/-- **A day lies in its year.** -/
theorem yearOfDay_spec (day : Int) :
    daysBeforeYear (yearOfDay day) ≤ day ∧ day < daysBeforeYear (yearOfDay day + 1) := by
  obtain ⟨hlow, hhigh⟩ := daysBeforeYear_guess day
  simp only [yearOfDay, Int.fdiv_eq_ediv_of_nonneg _ (by decide : (0 : Int) ≤ 146097)]
  generalize 1 + day * 400 / 146097 = guess at hlow hhigh
  split
  · rename_i hbelow
    refine ⟨hlow, ?_⟩
    rwa [Int.sub_add_cancel]
  · rename_i hbelow
    split
    · rename_i habove
      refine ⟨habove, ?_⟩
      rwa [Int.add_assoc]
    · rename_i habove
      exact ⟨Int.not_lt.mp hbelow, Int.not_le.mp habove⟩

/-! ## Months -/

theorem sum_monthLengths (year : Int) : (monthLengths year).sum = yearLength year := by
  unfold monthLengths yearLength
  cases isLeapYear year <;> rfl

/-- Counting off lengths ends at an entry of the list: the days before it and the day within it
make up the count. -/
theorem monthAndDay_spec (lengths : List Nat) (n first : Nat) (h : n < lengths.sum) :
    ∃ i length, monthAndDay n first lengths = (first + i, n - (lengths.take i).sum + 1) ∧
      lengths[i]? = some length ∧ (lengths.take i).sum ≤ n ∧
      n - (lengths.take i).sum + 1 ≤ length := by
  induction lengths generalizing n first with
  | nil => simp at h
  | cons length rest ih =>
    rw [monthAndDay]
    split
    · rename_i hn
      refine ⟨0, length, by simp, rfl, by simp, ?_⟩
      rw [List.take_zero, List.sum_nil]
      omega
    · rename_i hn
      rw [List.sum_cons] at h
      obtain ⟨i, found, heq, hget, hle, hday⟩ := ih (n - length) (first + 1) (by omega)
      refine ⟨i + 1, found, ?_, by simpa using hget, ?_, ?_⟩
      · rw [heq, List.take_succ_cons, List.sum_cons, Nat.add_assoc, Nat.add_comm 1 i,
          Nat.sub_sub]
      · rw [List.take_succ_cons, List.sum_cons]
        omega
      · rw [List.take_succ_cons, List.sum_cons]
        omega

/-! ## Dates -/

/-- The date of a day: its month is one of the twelve, and the day is one of that month. -/
theorem dateOfDay_spec (day : Int) : ∃ i n length,
    dateOfDay day = ⟨yearOfDay day, i + 1, n + 1⟩ ∧
    (monthLengths (yearOfDay day))[i]? = some length ∧ n + 1 ≤ length ∧
    day = daysBeforeYear (yearOfDay day) + ((monthLengths (yearOfDay day)).take i).sum + n := by
  obtain ⟨hlow, hhigh⟩ := yearOfDay_spec day
  rw [daysBeforeYear_succ, ← sum_monthLengths] at hhigh
  obtain ⟨i, length, heq, hget, hle, hday⟩ := monthAndDay_spec (monthLengths (yearOfDay day))
    (day - daysBeforeYear (yearOfDay day)).toNat 1 (by omega)
  refine ⟨i, (day - daysBeforeYear (yearOfDay day)).toNat -
    ((monthLengths (yearOfDay day)).take i).sum, length, ?_, hget, hday, by omega⟩
  simp only [dateOfDay, heq, Nat.add_comm 1 i]

/-- **The calendar has the date of every day.** -/
theorem isValid_dateOfDay (day : Int) : (dateOfDay day).isValid = true := by
  obtain ⟨i, n, length, heq, hget, hle, _⟩ := dateOfDay_spec day
  simp [heq, Date.isValid, hget, hle]

/-- **The date of a day has its number.** -/
theorem dayNumber_dateOfDay (day : Int) : dayNumber (dateOfDay day) = day := by
  obtain ⟨i, n, length, heq, _, _, hsum⟩ := dateOfDay_spec day
  simp only [List.sum] at hsum
  simp only [heq, dayNumber, daysBeforeMonth, Nat.add_sub_cancel]
  omega

/-- A month has two digits at most. -/
theorem month_dateOfDay_lt (day : Int) : (dateOfDay day).month < 100 := by
  obtain ⟨i, n, length, heq, hget, _, _⟩ := dateOfDay_spec day
  have hi : i < (monthLengths (yearOfDay day)).length := List.getElem?_eq_some_iff.mp hget |>.1
  have htwelve : (monthLengths (yearOfDay day)).length = 12 := rfl
  rw [heq]
  show i + 1 < 100
  omega

/-- A day of a month has two digits at most. -/
theorem day_dateOfDay_lt (day : Int) : (dateOfDay day).day < 100 := by
  obtain ⟨i, n, length, heq, hget, hle, _⟩ := dateOfDay_spec day
  have hall : ∀ l ∈ monthLengths (yearOfDay day), l ≤ 31 := by
    unfold monthLengths
    cases isLeapYear (yearOfDay day) <;> decide
  have := hall length (List.mem_of_getElem? hget)
  rw [heq]
  show n + 1 < 100
  omega

end DocPress.Time
