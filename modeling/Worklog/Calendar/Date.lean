/-!
# Calendar dates

Dates of the proleptic Gregorian calendar, from year 1 on, and their day numbers:

* `Date.toOrdinal` counts the days since 0001-01-01, which is a Monday and has number 0;
* `Date.ofOrdinal` finds the date of a day number;
* `Date.IsValid` says which triples are dates.
-/

namespace Worklog

/-- A day named by year, month and day of the month. -/
structure Date where
  year : Nat
  month : Nat
  day : Nat
  deriving DecidableEq, Repr, Inhabited

namespace Date

/-! ## 1. Lengths -/

/-- Every fourth year is a leap year, except the centuries that 400 does not divide. -/
def isLeap (year : Nat) : Bool := year % 4 == 0 && (year % 100 != 0 || year % 400 == 0)

/-- The days of each month of a year. -/
def monthLengths (year : Nat) : List Nat :=
  [31, if isLeap year then 29 else 28, 31, 30, 31, 30, 31, 31, 30, 31, 30, 31]

/-- The days of one month; no days for a month that does not exist. -/
def daysInMonth (year month : Nat) : Nat :=
  if month = 0 then 0 else ((monthLengths year)[month - 1]?).getD 0

/-- The last year that dates reach. -/
def lastYear : Nat := 9999

/-- Whether a triple names a day of the calendar. -/
def IsValid (d : Date) : Prop :=
  1 ≤ d.year ∧ d.year ≤ lastYear ∧ 1 ≤ d.month ∧ d.month ≤ 12 ∧
    1 ≤ d.day ∧ d.day ≤ daysInMonth d.year d.month

instance (d : Date) : Decidable d.IsValid := by unfold IsValid; infer_instance

/-! ## 2. Day numbers -/

/-- The days of all years before a year. -/
def daysBeforeYear (year : Nat) : Nat :=
  365 * (year - 1) + (year - 1) / 4 + (year - 1) / 400 - (year - 1) / 100

/-- The days of a year before a month. -/
def daysBeforeMonth (year month : Nat) : Nat :=
  ((monthLengths year).take (month - 1)).foldr (· + ·) 0

/-- **The day number of a date**: the days since 0001-01-01. -/
def toOrdinal (d : Date) : Nat :=
  daysBeforeYear d.year + daysBeforeMonth d.year d.month + (d.day - 1)

/-- The year that a day number falls into. The mean length of a year gives a year that is at most
    one too small or too large. -/
def yearOfOrdinal (n : Nat) : Nat :=
  let guess := n * 400 / 146097 + 1
  if n < daysBeforeYear guess then guess - 1
  else if daysBeforeYear (guess + 1) ≤ n then guess + 1
  else guess

/-- The month and the day of the month of the `n`th day from the start of month `month`, where
    the lengths are those of `month` and the months after it. -/
def splitMonth : List Nat → Nat → Nat → Nat × Nat
  | [], month, n => (month, n + 1)
  | len :: rest, month, n =>
    if n < len then (month, n + 1) else splitMonth rest (month + 1) (n - len)

/-- **The date of a day number.** -/
def ofOrdinal (n : Nat) : Date :=
  let year := yearOfOrdinal n
  let (month, day) := splitMonth (monthLengths year) 1 (n - daysBeforeYear year)
  ⟨year, month, day⟩

/-- The day of the week of a day number, with 0 for Monday. -/
def weekday (n : Nat) : Nat := n % 7

/-- The day number of the Monday of the first week of a year: the week with its first Thursday.
    Weeks may start in the year before, so the result is an integer. -/
def firstMonday (year : Nat) : Int :=
  let first := daysBeforeYear year
  let day := weekday first
  (first : Int) - day + (if day > 3 then 7 else 0)

/-- Whether a year has a 53rd week: it starts on a Thursday, or on a Wednesday in a leap year. -/
def hasLongYear (year : Nat) : Bool :=
  let day := weekday (daysBeforeYear year)
  day == 3 || (day == 2 && isLeap year)

end Date

end Worklog
