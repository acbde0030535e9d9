import Worklog.Calendar.Date
import Worklog.Fault

/-!
# Moments

A moment is a point of local time with microseconds, from the start of year 1 to the end of year
9999. The bound is part of the type, so arithmetic that would leave it answers `none`
(`Moment.shift?`) or the fault `dateOverflow` (`Moment.shift`).

* `Moment.date` and `Moment.clock` read a moment, `Moment.ofDate?` builds one;
* `Moment.midnight` is the start of a moment's day;
* `Moment.isoText` writes a moment, `Moment.dayText` its day with the year as it is.
-/

namespace Worklog

namespace Moment

/-- The microseconds of a day. -/
abbrev dayMicros : Nat := 86400000000

/-- The number of days that moments reach. -/
abbrev dayCount : Nat := 3652059

/-- The number of moments. -/
abbrev count : Nat := dayCount * dayMicros

end Moment

/-- A point of local time: the microseconds since 0001-01-01T00:00:00. -/
structure Moment where
  micros : Nat
  inRange : micros < Moment.count
  deriving DecidableEq

namespace Moment

instance : Inhabited Moment := ⟨⟨0, by decide⟩⟩

theorem ext_micros {a b : Moment} (h : a.micros = b.micros) : a = b := by
  cases a; cases b; simp_all

/-! ## 1. Order and arithmetic -/

/-- Whether a moment is not after another. -/
def le (a b : Moment) : Bool := decide (a.micros ≤ b.micros)

/-- Whether a moment is before another. -/
def lt (a b : Moment) : Bool := decide (a.micros < b.micros)

/-- The moment with a count of microseconds, if there is one. -/
def ofMicros? (n : Int) : Option Moment :=
  if h : 0 ≤ n ∧ n.toNat < count then some ⟨n.toNat, h.2⟩ else none

/-- The microseconds from one moment to another. -/
def since (a b : Moment) : Int := (a.micros : Int) - b.micros

/-- A moment moved by some microseconds, if that is a moment. -/
def shift? (m : Moment) (micros : Int) : Option Moment := ofMicros? (m.micros + micros)

/-- A moment moved by some microseconds. -/
def shift (m : Moment) (micros : Int) : Except Fault Moment :=
  match m.shift? micros with
  | some m => .ok m
  | none => .error .dateOverflow

/-- A moment moved by some days, if that is a moment. -/
def shiftDays? (m : Moment) (days : Int) : Option Moment := m.shift? (days * dayMicros)

/-- A moment moved by some days. -/
def shiftDays (m : Moment) (days : Int) : Except Fault Moment := m.shift (days * dayMicros)

/-! ## 2. Days -/

/-- The number of a moment's day. -/
def ordinal (m : Moment) : Nat := m.micros / dayMicros

/-- The date of a moment. -/
def date (m : Moment) : Date := Date.ofOrdinal m.ordinal

/-- The microseconds since the start of a moment's day. -/
def clock (m : Moment) : Nat := m.micros % dayMicros

/-- The start of a moment's day. -/
def midnight (m : Moment) : Moment :=
  ⟨m.ordinal * dayMicros,
    Nat.lt_of_le_of_lt (Nat.div_mul_le_self m.micros dayMicros) m.inRange⟩

/-- The start of the day with a number, if there is one. -/
def ofOrdinal? (n : Nat) : Option Moment := ofMicros? (n * dayMicros : Nat)

/-- The start of a date's day; a triple that is no date has none. -/
def ofDate? (d : Date) : Option Moment := if d.IsValid then ofOrdinal? d.toOrdinal else none

/-- The first day of a moment's month. -/
def monthStart (m : Moment) : Moment :=
  (ofDate? { m.date with day := 1 }).getD m.midnight

/-! ## 3. Writing -/

/-- A date with its year in four digits. -/
def dateText (d : Date) : Text :=
  Text.ofNatPadded 4 d.year ++ '-' :: Text.ofNatPadded 2 d.month ++ '-' :: Text.ofNatPadded 2 d.day

/-- The microseconds of a day as hours, minutes, seconds and, unless it is zero, a fraction. -/
def clockText (micros : Nat) : Text :=
  let s := micros / 1000000
  Text.ofNatPadded 2 (s / 3600) ++ ':' :: Text.ofNatPadded 2 (s / 60 % 60) ++
    ':' :: Text.ofNatPadded 2 (s % 60) ++
    (if micros % 1000000 = 0 then [] else '.' :: Text.ofNatPadded 6 (micros % 1000000))

/-- **A moment as an ISO 8601 text**, with a fraction of six digits unless it is zero. -/
def isoText (m : Moment) : Text := dateText m.date ++ 'T' :: clockText m.clock

/-- The day of a moment, its year without zeros in front. -/
def dayText (m : Moment) : Text :=
  let d := m.date
  Text.ofNat d.year ++ '-' :: Text.ofNatPadded 2 d.month ++ '-' :: Text.ofNatPadded 2 d.day

/-- The day and the minute of a moment. -/
def minuteText (m : Moment) : Text :=
  let minutes := m.clock / 60000000
  m.dayText ++ ' ' :: Text.ofNatPadded 2 (minutes / 60) ++ ':' :: Text.ofNatPadded 2 (minutes % 60)

end Moment

end Worklog
