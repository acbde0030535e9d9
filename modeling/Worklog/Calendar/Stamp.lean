import Worklog.Calendar.Moment
import Worklog.Text.Digit

/-!
# Timestamps

A timestamp is a moment and, if its text says so, the offset from UTC at which it was taken. The
file reads and writes ISO 8601 timestamps:

* the date is `YYYY-MM-DD`, `YYYYMMDD`, or a week date `YYYY-Www`, `YYYY-Www-D`, `YYYYWww`,
  `YYYYWwwD`;
* any one character separates the date from the time;
* the time is `HH`, `HH:MM` or `HH:MM:SS`, with or without the colons, and a fraction of a second
  after a point or a comma, of which six digits count;
* the offset is `Z` or a sign and a time;
* a time ends with the text or with a NUL in it.

`Stamp.read` does the reading, `Stamp.isoText` the writing. `Moment.read` reads a timestamp as a
moment of local time, where the local zone is UTC.
-/

namespace Worklog

/-- A moment as some clock showed it, with that clock's offset from UTC in microseconds. -/
structure Stamp where
  shown : Moment
  offset : Option Int
  deriving DecidableEq

namespace Stamp

/-! ## 1. Digits -/

/-- The number written by exactly `n` ASCII digits at the start of a text, and the rest. -/
def number? (n : Nat) (t : Text) : Option (Nat × Text) :=
  let ds := t.take n
  if ds.length = n && ds.all Text.isAsciiDigit then some (Text.numeral ds, t.drop n) else none

/-- Whether the character at a place of a text is a given one. -/
def hasAt (t : Text) (i : Nat) (c : Char) : Bool := t[i]? == some c

/-- Whether the character at a place of a text is an ASCII digit. -/
def digitAt (t : Text) (i : Nat) : Bool := (t[i]?).any Text.isAsciiDigit

/-! ## 2. The date -/

/-- The length of the date at the start of a text. The fifth and sixth characters tell the forms
    apart; a week date without hyphens ends where an even number of digits is left for the time. -/
def dateLength (t : Text) : Nat :=
  if t.length = 7 then 7
  else if hasAt t 4 '-' then
    if hasAt t 5 'W' then
      if hasAt t 8 '-' then (if digitAt t 10 then 8 else 10) else 8
    else 10
  else if hasAt t 4 'W' then
    let digits := 7 + ((t.drop 7).takeWhile Text.isAsciiDigit).length
    if digits < 9 then digits else if digits % 2 = 0 then 7 else 8
  else 8

/-- The date of a day of a numbered week, if the week and the day exist. The weeks of the year
    before year 1 are numbered as well, but their days lie in no month. -/
def weekDate? (year week day : Nat) : Option Date :=
  if 1 ≤ week && 1 ≤ day && day ≤ 7 then
    if year = 0 then (if week ≤ 52 then some ⟨1, 0, 1⟩ else none)
    else if week ≤ 52 || (week = 53 && Date.hasLongYear year) then
      some (Date.ofOrdinal (Date.firstMonday year + (week - 1) * 7 + (day - 1)).toNat)
    else none
  else none

/-- The date at the start of a text, where the date takes up `length` characters. -/
def date? (length : Nat) (t : Text) : Option Date := do
  let (year, rest) ← number? 4 t
  let (hyphens, rest) := match rest with
    | '-' :: r => (true, r)
    | r => (false, r)
  let hyphen? (r : Text) : Option Text :=
    if hyphens then (match r with
      | '-' :: r => some r
      | _ => none) else some r
  match rest with
  | 'W' :: rest => do
    let (week, rest) ← number? 2 rest
    let day ← if t.length - rest.length < length then do
        let rest ← hyphen? rest
        let (day, _) ← number? 1 rest
        pure day
      else pure 1
    weekDate? year week day
  | rest => do
    let (month, rest) ← number? 2 rest
    let rest ← hyphen? rest
    let (day, _) ← number? 2 rest
    return ⟨year, month, day⟩

/-! ## 3. The time -/

/-- Whether a text ends here: a NUL ends a time whatever follows it. -/
def isEnd : Text → Bool
  | [] => true
  | c :: _ => c.toNat == 0

/-- A time of day as written, not yet checked for range. -/
structure Clock where
  hour : Nat
  minute : Nat
  second : Nat
  micros : Nat

/-- A time of day and whether nothing is left behind it. -/
abbrev Timed := Clock × Bool

/-- The fraction of a second: of the digits that follow, six count. -/
def fraction? (hour minute second : Nat) (t : Text) : Option Timed := do
  let count := min 6 t.length
  let (n, rest) ← number? count t
  let rest := rest.dropWhile Text.isAsciiDigit
  return (⟨hour, minute, second, n * Nat.pow 10 (6 - count)⟩, isEnd rest)

/-- What follows a part of a time: the end, one more ASCII character, a fraction, or the next
    part. -/
inductive Next where
  | finished (clean : Bool)
  | fraction (rest : Text)
  | part (rest : Text)

/-- Looks at what follows a part of a time whose parts are separated by colons or not. -/
def next? (colons : Bool) : Text → Option Next
  | [] => some (.finished true)
  | [c] => if c.toNat < 0x80 then some (.finished (isEnd [c])) else none
  | c :: rest =>
    if colons && c == ':' then some (.part rest)
    else if c == '.' || c == ',' then some (.fraction rest)
    else if colons then none
    else some (.part (c :: rest))

/-- A time at the start of a text. -/
def clock? (t : Text) : Option Timed := do
  let (hour, rest) ← number? 2 t
  let colons := match rest with
    | ':' :: _ => true
    | _ => false
  match ← next? colons rest with
  | .finished clean => return (⟨hour, 0, 0, 0⟩, clean)
  | .fraction rest => fraction? hour 0 0 rest
  | .part rest => do
    let (minute, rest) ← number? 2 rest
    match ← next? colons rest with
    | .finished clean => return (⟨hour, minute, 0, 0⟩, clean)
    | .fraction rest => fraction? hour minute 0 rest
    | .part rest => do
      let (second, rest) ← number? 2 rest
      match ← next? colons rest with
      | .finished clean => return (⟨hour, minute, second, 0⟩, clean)
      | .fraction rest => fraction? hour minute second rest
      | .part rest => fraction? hour minute second rest

/-- A time and the offset behind it, in microseconds. The time may leave a rest only in front of
    an offset; an offset leaves none. An offset of whole seconds zero is UTC. -/
def timed? (t : Text) : Option (Clock × Option Int) := do
  let isMark (c : Char) : Bool := c == '+' || c == '-' || c == 'Z'
  let time := t.takeWhile (!isMark ·)
  let (clock, clean) ← clock? time
  match t.dropWhile (!isMark ·) with
  | [] => if clean then return (clock, none) else none
  | 'Z' :: rest => if isEnd rest then return (clock, some 0) else none
  | mark :: rest => do
    let (off, clean) ← clock? rest
    if clean then
      let seconds : Int := off.hour * 3600 + off.minute * 60 + off.second
      let micros := if seconds = 0 then 0 else seconds * 1000000 + off.micros
      return (clock, some (if mark == '-' then -micros else micros))
    else none

/-! ## 4. Timestamps -/

/-- The date, the time and the offset that a text writes, not yet checked for range. -/
def parts? (t : Text) : Option (Date × Clock × Option Int) := do
  if t.length < 7 then none else
    let length := dateLength t
    let date ← date? length t
    match t.drop length with
    | [] => return (date, ⟨0, 0, 0, 0⟩, none)
    | _ :: time =>
      let (clock, offset) ← timed? time
      return (date, clock, offset)

/-- The moment of a date and a time, or the first part that is out of range. -/
def check (d : Date) (c : Clock) : Except Fault Moment :=
  if d.year < 1 ∨ Date.lastYear < d.year then .error (.timeField (.year d.year))
  else if d.month < 1 ∨ 12 < d.month then .error (.timeField .month)
  else if d.day < 1 ∨ Date.daysInMonth d.year d.month < d.day then .error (.timeField .day)
  else if 23 < c.hour then .error (.timeField .hour)
  else if 59 < c.minute then .error (.timeField .minute)
  else if 59 < c.second then .error (.timeField .second)
  else
    let seconds := (c.hour * 60 + c.minute) * 60 + c.second
    let clock := seconds * 1000000 + c.micros
    match Moment.ofMicros? (d.toOrdinal * Moment.dayMicros + clock : Nat) with
    | some m => .ok m
    | none => .error .dateOverflow

/-- **Reads a timestamp.** -/
def read (t : Text) : Except Fault Stamp :=
  match parts? t with
  | none => .error (.badTimestamp t)
  | some (date, clock, offset) => do
    if let some o := offset then
      if o.natAbs ≥ Moment.dayMicros then throw (.offsetTooLarge o)
    let shown ← check date clock
    return ⟨shown, offset⟩

/-- The moment of a timestamp in UTC; without an offset it is the shown one. -/
def toMoment (s : Stamp) : Except Fault Moment :=
  match s.offset with
  | none => .ok s.shown
  | some o => s.shown.shift (-o)

/-- An offset with its sign, to the minute unless it has seconds or a fraction. -/
def offsetText (micros : Int) : Text :=
  let n := micros.natAbs
  let s := n / 1000000
  (if micros < 0 then '-' else '+') :: Text.ofNatPadded 2 (s / 3600) ++
    ':' :: Text.ofNatPadded 2 (s / 60 % 60) ++
    (if n % 60000000 = 0 then [] else ':' :: Text.ofNatPadded 2 (s % 60)) ++
    (if n % 1000000 = 0 then [] else '.' :: Text.ofNatPadded 6 (n % 1000000))

/-- **A timestamp as an ISO 8601 text.** -/
def isoText (s : Stamp) : Text :=
  s.shown.isoText ++ match s.offset with
    | none => []
    | some o => offsetText o

end Stamp

namespace Moment

/-- A final `Z` or `z` spelled out as an offset. -/
def spellZulu (t : Text) : Text :=
  match t.getLast? with
  | some c => if c == 'Z' || c == 'z' then t.dropLast ++ "+00:00".toList else t
  | none => t

/-- **Reads a timestamp as a moment of local time.** -/
def read (t : Text) : Except Fault Moment := do
  let s ← Stamp.read (spellZulu t)
  s.toMoment

/-- A moment as a timestamp without an offset. -/
def toStamp (m : Moment) : Stamp := ⟨m, none⟩

end Moment

end Worklog
