import Worklog.Calendar.Moment
import Worklog.Number.Amount

/-!
# Limits on days and lengths

A query narrows its results by limits: on the day on which a record starts (`DayLimit`) and on the
length of a record (`LengthLimit`). `DayLimit.admits` and `LengthLimit.admits` say what passes.

The end of the last day of the calendar is no moment, so a limit to that day cannot be decided for
records on it: the fault `dateOverflow`. Nor can sameness be judged for a length that has no whole
minutes.
-/

namespace Worklog

/-! ## 1. Days -/

/-- How a limit relates to its day. -/
inductive DayBound where
  | after
  | before
  | on
  deriving DecidableEq, Repr

/-- The name of a bound. -/
def DayBound.name : DayBound → String
  | .after => "after"
  | .before => "before"
  | .on => "on"

/-- All bounds on days. -/
def DayBound.all : List DayBound := [.after, .before, .on]

/-- The bound with a name. -/
def DayBound.read (t : Text) : Except Fault DayBound :=
  match all.find? fun b => b.name.toList == t with
  | some b => .ok b
  | none => .error (.unknownWord .dayBound t)

/-- A limit on the start of a record; `day` is the start of a day. -/
structure DayLimit where
  bound : DayBound
  day : Moment
  deriving DecidableEq

/-- **Whether a record that starts at a moment passes a limit.** -/
def DayLimit.admits (limit : DayLimit) (start : Moment) : Except Fault Bool :=
  match limit.bound with
  | .after => .ok (limit.day.le start)
  | .before => .ok (start.lt limit.day)
  | .on =>
    if limit.day.le start then do
      let next ← limit.day.shiftDays 1
      return start.lt next
    else .ok false

/-! ## 2. Lengths -/

/-- How a limit relates to its length. -/
inductive LengthBound where
  | above
  | below
  | same
  deriving DecidableEq, Repr

/-- The name of a bound. -/
def LengthBound.name : LengthBound → String
  | .above => "gt"
  | .below => "lt"
  | .same => "eq"

/-- All bounds on lengths. -/
def LengthBound.all : List LengthBound := [.above, .below, .same]

/-- The bound with a name. -/
def LengthBound.read (t : Text) : Except Fault LengthBound :=
  match all.find? fun b => b.name.toList == t with
  | some b => .ok b
  | none => .error (.unknownWord .lengthBound t)

/-- A limit on the length of a record, in seconds. -/
structure LengthLimit where
  bound : LengthBound
  seconds : Amount
  deriving DecidableEq

/-- **Whether a record of a length passes a limit**; sameness is judged in whole minutes. -/
def LengthLimit.admits (p : Precision) (limit : LengthLimit) (seconds : Amount) :
    Except Fault Bool :=
  match limit.bound with
  | .above => .ok (limit.seconds.lt seconds)
  | .below => .ok (seconds.lt limit.seconds)
  | .same => do return (← seconds.wholeMinutes p) == (← limit.seconds.wholeMinutes p)

end Worklog
