import Worklog.Calendar.Moment
import Worklog.Text.Digit
import Worklog.Text.Lowercase

/-!
# Days in queries

A day is written in one of three ways, blanks around it not counted:

* as a date in one of six layouts (`Day.layouts`), tried in order; a month before a day of the
  month is tried before the opposite order;
* as a name such as `today` or `lastmonth`, in any letter case, which depends on the clock;
* as a distance back from today, such as `3d` or `2w`, in days, weeks, months of 30 days or years
  of 365 days.

`Day.read` reads a day as the moment at which it starts. Names that lead out of the calendar are
the fault `dateOverflow`; distances that do so are no day.
-/

namespace Worklog.Day

open Worklog.Text

/-! ## 1. Dates -/

/-- The parts of a date layout. -/
inductive Piece where
  | year
  | month
  | day
  | mark (c : Char)
  deriving DecidableEq, Repr

/-- The layouts of a date. -/
def layouts : List (List Piece) :=
  [[.year, .mark '-', .month, .mark '-', .day],
   [.month, .mark '/', .day, .mark '/', .year],
   [.day, .mark '/', .month, .mark '/', .year],
   [.year, .mark '/', .month, .mark '/', .day],
   [.month, .mark '-', .day, .mark '-', .year],
   [.day, .mark '-', .month, .mark '-', .year]]

/-- Whether a character is one of the ASCII digits from `lo` to `hi`. -/
def between (lo hi c : Char) : Bool := decide (lo.toNat ≤ c.toNat) && decide (c.toNat ≤ hi.toNat)

/-- Two characters at the start of a text that pass two tests, as a number. -/
def pair (first second : Char → Bool) : Text → List (Nat × Text)
  | a :: b :: rest => if first a && second b then [(numeral [a, b], rest)] else []
  | _ => []

/-- One character at the start of a text that passes a test, as a number. -/
def single (test : Char → Bool) : Text → List (Nat × Text)
  | a :: rest => if test a then [(numeral [a], rest)] else []
  | [] => []

/-- Four digits at the start of a text. -/
def yearAt (t : Text) : List (Nat × Text) :=
  let ds := t.take 4
  if ds.length = 4 && ds.all isDigit then [(numeral ds, t.drop 4)] else []

/-- The months at the start of a text, the longer reading first. -/
def monthAt (t : Text) : List (Nat × Text) :=
  pair (· == '1') (between '0' '2') t ++ pair (· == '0') (between '1' '9') t ++
    single (between '1' '9') t

/-- The days of the month at the start of a text, the longer reading first; a day of one digit may
    follow a space. -/
def dayAt (t : Text) : List (Nat × Text) :=
  pair (· == '3') (between '0' '1') t ++ pair (between '1' '2') isDigit t ++
    pair (· == '0') (between '1' '9') t ++ single (between '1' '9') t ++
    pair (· == ' ') (between '1' '9') t

/-- The readings of a layout at the start of a text, best first: the triple that was read, on top
    of the given one, and what follows it. -/
def readings : List Piece → Date → Text → List (Date × Text)
  | [], d, t => [(d, t)]
  | .year :: more, d, t =>
    (yearAt t).flatMap fun (n, rest) => readings more { d with year := n } rest
  | .month :: more, d, t =>
    (monthAt t).flatMap fun (n, rest) => readings more { d with month := n } rest
  | .day :: more, d, t => (dayAt t).flatMap fun (n, rest) => readings more { d with day := n } rest
  | .mark c :: more, d, t =>
    match t with
    | c' :: rest => if c' == c then readings more d rest else []
    | [] => []

/-- The start of the date that a text writes in a layout: the best reading has to take up the
    whole text and to be a day of the calendar. -/
def inLayout? (t : Text) (layout : List Piece) : Option Moment :=
  match readings layout ⟨0, 0, 0⟩ t with
  | (d, []) :: _ => Moment.ofDate? d
  | _ => none

/-- The start of the date that a text writes. -/
def absolute? (t : Text) : Option Moment := layouts.findSome? (inLayout? t)

/-! ## 2. Names -/

/-- The names of days, and of the days on which weeks and months start. -/
inductive Named where
  | today
  | yesterday
  | tomorrow
  | thisWeek
  | lastWeek
  | thisMonth
  | lastMonth
  deriving DecidableEq, Repr

/-- The named day that a lower-cased text stands for. -/
def Named.ofText? (t : Text) : Option Named :=
  if t = "today".toList then some .today
  else if t = "yesterday".toList then some .yesterday
  else if t = "tomorrow".toList then some .tomorrow
  else if t = "thisweek".toList then some .thisWeek
  else if t = "lastweek".toList then some .lastWeek
  else if t = "thismonth".toList then some .thisMonth
  else if t = "lastmonth".toList then some .lastMonth
  else none

/-- The start of a named day, where `today` is the start of the current one. -/
def Named.start (today : Moment) : Named → Except Fault Moment
  | .today => .ok today
  | .yesterday => today.shiftDays (-1)
  | .tomorrow => today.shiftDays 1
  | .thisWeek => today.shiftDays (-(Date.weekday today.ordinal : Int))
  | .lastWeek => today.shiftDays (-(Date.weekday today.ordinal + 7 : Int))
  | .thisMonth => .ok today.monthStart
  | .lastMonth => do
    let before ← today.monthStart.shiftDays (-1)
    return before.monthStart

/-! ## 3. Distances -/

/-- The days of a unit of distance, in either letter case. -/
def unitDays? (c : Char) : Option Nat :=
  if c == 'd' || c == 'D' then some 1
  else if c == 'w' || c == 'W' then some 7
  else if c == 'm' || c == 'M' then some 30
  else if c == 'y' || c == 'Y' then some 365
  else none

/-- The greatest length of the number of a distance. -/
def maxRun : Nat := 9

/-- The days of a distance: up to nine digits and a unit. -/
def distance? (t : Text) : Option Nat :=
  match t.dropWhile isDigit with
  | [c] =>
    let run := t.takeWhile isDigit
    if run.isEmpty || decide (maxRun < run.length) then none
    else (unitDays? c).map (numeral run * ·)
  | _ => none

/-! ## 4. Days -/

/-- **The start of the day that a text stands for**, if it stands for one, at a moment. -/
def read (now : Moment) (t : Text) : Except Fault (Option Moment) :=
  let t := strip t
  match absolute? t with
  | some m => .ok (some m)
  | none =>
    match Named.ofText? (lower t) with
    | some name => (name.start now.midnight).map some
    | none =>
      match distance? t with
      | some days => .ok (now.midnight.shiftDays? (-(days : Int)))
      | none => .ok none

end Worklog.Day
