/-!
# Calendar

Days of the proleptic Gregorian calendar, numbered from the first day of year 1.

* `Date` — year, month and day; `Date.isValid` — a day that the calendar has.
* `dayNumber` — the number of a date; `dateOfDay` — the date of a number.
-/

namespace DocPress.Time

/-- A date of the Gregorian calendar. -/
structure Date where
  year : Int
  month : Nat
  day : Nat
  deriving DecidableEq, Repr

/-- Whether a year has 366 days. -/
def isLeapYear (year : Int) : Bool :=
  year % 4 == 0 && (year % 100 != 0 || year % 400 == 0)

/-- The lengths of the months of a year. -/
def monthLengths (year : Int) : List Nat :=
  [31, if isLeapYear year then 29 else 28, 31, 30, 31, 30, 31, 31, 30, 31, 30, 31]

/-- Whether the calendar has the date. -/
def Date.isValid (d : Date) : Bool :=
  match d.month with
  | 0 => false
  | m + 1 => decide (1 ≤ d.day) && decide (d.day ≤ ((monthLengths d.year)[m]?).getD 0)

/-- The number of days before the first day of a year, counted from the first day of year 1. -/
def daysBeforeYear (year : Int) : Int :=
  let past := year - 1
  365 * past + Int.fdiv past 4 - Int.fdiv past 100 + Int.fdiv past 400

/-- The number of days of a year before the first day of a month. -/
def daysBeforeMonth (year : Int) (month : Nat) : Nat :=
  ((monthLengths year).take (month - 1)).foldr (· + ·) 0

/-- The number of a date: zero for the first day of year 1. -/
def dayNumber (d : Date) : Int :=
  daysBeforeYear d.year + daysBeforeMonth d.year d.month + d.day - 1

/-- The year that holds a day. -/
def yearOfDay (day : Int) : Int :=
  let guess := 1 + Int.fdiv (day * 400) 146097
  if day < daysBeforeYear guess then guess - 1
  else if daysBeforeYear (guess + 1) ≤ day then guess + 1
  else guess

/-- Month and day of the day `n` (from zero) of a year, over the lengths of the months left. -/
def monthAndDay (n : Nat) : Nat → List Nat → Nat × Nat
  | month, [] => (month, n + 1)
  | month, length :: rest => if n < length then (month, n + 1) else monthAndDay (n - length) (month + 1) rest

/-- The date of a day number. -/
def dateOfDay (day : Int) : Date :=
  let year := yearOfDay day
  let (month, dayOfMonth) := monthAndDay (day - daysBeforeYear year).toNat 1 (monthLengths year)
  ⟨year, month, dayOfMonth⟩

end DocPress.Time
