import Worklog.Number.Precision
import Worklog.Number.Figure
import Worklog.Text.Digit
import Worklog.Text.Lowercase

/-!
# Lengths of time in queries

A length of time is written in one of three shapes, where a number is a run of one to nine
decimal digits:

* hours and minutes, as in `1h30m`;
* one unit, as in `90m`, `1.5h` or `45s`, with up to nine decimals and possibly a bare point;
* a bare number of minutes, as in `90` or `7.5`, with one to nine decimals if it has a point.

`Duration.parse` reads a length as seconds, each step in the given precision; letter case and
blanks around it do not matter.
-/

namespace Worklog.Duration

open Worklog.Text

/-- The greatest length of a run of digits. -/
def maxRun : Nat := 9

/-- Whether a text is a run of digits of a length between the bounds. -/
def isRun (least : Nat) (t : Text) : Bool :=
  t.all isDigit && decide (least ≤ t.length) && decide (t.length ≤ maxRun)

/-- A run of digits at the start of a text and what follows it. -/
def spanDigits (t : Text) : Text × Text := (t.takeWhile isDigit, t.dropWhile isDigit)

/-- The number with some digits before the point and some after it. -/
def decimal (p : Precision) (whole part : Text) : Rat :=
  p.keep (Figure.decimal (numeral (whole ++ part)) (-(part.length : Int)))

/-- The seconds of each unit. -/
def unitSeconds? (c : Char) : Option Nat :=
  if c == 'h' then some 3600 else if c == 'm' then some 60 else if c == 's' then some 1 else none

/-- Hours and minutes. -/
def readCompound? (p : Precision) (t : Text) : Option Rat :=
  let (hours, rest) := spanDigits t
  match rest with
  | 'h' :: rest =>
    let (minutes, rest) := spanDigits rest
    if isRun 1 hours && isRun 1 minutes && rest == ['m'] then
      some (p.keep (numeral hours * 3600 + numeral minutes * 60 : Nat))
    else none
  | _ => none

/-- The digits before and after the point of a number and what follows it; the decimals are at
    least `least` where there is a point. -/
def readNumber? (least : Nat) (t : Text) : Option (Text × Text × Text) :=
  let (whole, rest) := spanDigits t
  if isRun 1 whole then
    match rest with
    | '.' :: rest =>
      let (part, rest) := spanDigits rest
      if isRun least part then some (whole, part, rest) else none
    | rest => some (whole, [], rest)
  else none

/-- A number with a unit. -/
def readUnit? (p : Precision) (t : Text) : Option Rat :=
  match readNumber? 0 t with
  | some (whole, part, [c]) =>
    (unitSeconds? c).map fun n => p.mul (decimal p whole part) (n : Nat)
  | _ => none

/-- A bare number of minutes. -/
def readMinutes? (p : Precision) (t : Text) : Option Rat :=
  match readNumber? 1 t with
  | some (whole, part, []) => some (p.mul (decimal p whole part) 60)
  | _ => none

/-- **The seconds of a length of time**, if the text writes one. -/
def parse (p : Precision) (t : Text) : Option Rat :=
  let t := lower (strip t)
  (readCompound? p t).or ((readUnit? p t).or (readMinutes? p t))

end Worklog.Duration
