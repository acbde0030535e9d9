import Worklog.Number.Figure
import Worklog.Text.Digit

/-!
# Numbers in texts

A number may be written with spaces around it, with a sign, and with digits of any script.

* `Numeral.whole` reads a whole number in a base: an underscore may stand between two digits, and a
  mark such as `0x` in front of them;
* `Numeral.plainReal?` reads a number with a point and an exponent in ASCII digits, or one of the
  words for infinity and for what is no number;
* `Numeral.real` reads the same in any digits and between spaces.

Whole numbers in base ten may have a fixed number of digits.
-/

namespace Worklog.Numeral

/-! ## 1. Whole numbers -/

/-- The value of a letter as a digit. -/
def letterValue? (c : Char) : Option Nat :=
  let n := c.toLower.toNat
  if 97 ≤ n && n ≤ 122 then some (n - 87) else none

/-- The value of a digit in a base. -/
def digitIn? (base : Nat) (c : Char) : Option Nat :=
  ((Text.digitValue? c).or (letterValue? c)).filter (decide <| · < base)

/-- The letters that mark a base. -/
def marks : List (Nat × Char) := [(2, 'b'), (8, 'o'), (16, 'x')]

/-- A text without the mark of a base. -/
def dropMark (base : Nat) : Text → Text
  | '0' :: letter :: rest =>
    if marks.contains (base, letter.toLower) then rest else '0' :: letter :: rest
  | t => t

/-- The values of the digits of a whole number without sign. -/
def digits? (base : Nat) (t : Text) : Option (List Nat) := do
  (← Text.dropUnderscores? (dropMark base t)).mapM (digitIn? base)

/-- The number that some digits write in a base. -/
def ofDigits (base : Nat) (ds : List Nat) : Nat := ds.foldl (fun n d => base * n + d) 0

/-- **The whole number that a text writes in a base.** -/
def whole (base : Nat) (t : Text) : Except Fault Int :=
  let (negative, u) := Text.sign (Text.trim t)
  match digits? base u with
  | none => .error (.noNumeral base t)
  | some ds =>
    if base = 10 ∧ Text.maxDigits < ds.length then .error (.tooManyDigits ds.length)
    else
      let n : Int := ofDigits base ds
      .ok (if negative then -n else n)

/-! ## 2. Other numbers -/

/-- The ASCII digits at the start of a text, and what follows them. -/
def run (t : Text) : Text × Text :=
  (t.takeWhile Text.isAsciiDigit, t.dropWhile Text.isAsciiDigit)

/-- The exponent of a number, if the text is one; without a mark it is zero. -/
def exponent? : Text → Option Int
  | [] => some 0
  | e :: t =>
    if e == 'e' || e == 'E' then
      let (negative, t) := Text.sign t
      let (ds, rest) := run t
      let n : Int := Text.numeral ds
      if ds.isEmpty || !rest.isEmpty then none else some (if negative then -n else n)
    else none

/-- The digits of a number before and behind its point, and what follows them. -/
def pointed (t : Text) : Text × Text × Text :=
  let (whole, rest) := run t
  match rest with
  | '.' :: rest => (whole, run rest)
  | rest => (whole, [], rest)

/-- The words for what has no digits. -/
def words : List (String × Quantity) :=
  [("inf", .infinite false), ("infinity", .infinite false), ("nan", .undefined)]

/-- The number that a text without sign writes. -/
def unsigned? (negative : Bool) (t : Text) : Option Quantity :=
  match words.find? fun w => w.1.toList == t.map Char.toLower with
  | some (_, q) => some (if negative then q.neg else q)
  | none =>
    let (whole, part, rest) := pointed t
    if whole.isEmpty && part.isEmpty then none
    else (exponent? rest).map fun k =>
      Figure.nearestDecimal negative (Text.numeral (whole ++ part)) (k - part.length)

/-- The number that a text writes in ASCII digits, as a binary64 number. -/
def plainReal? (t : Text) : Option Quantity :=
  let (negative, u) := Text.sign t
  unsigned? negative u

/-- A digit of any script as one of ASCII; other characters stay. -/
def toAscii (c : Char) : Char := ((Text.digitValue? c).map fun d => Char.ofNat (48 + d)).getD c

/-- **The number that a text writes**, as a binary64 number. -/
def real (t : Text) : Except Fault Quantity :=
  match plainReal? ((Text.trim t).map toAscii) with
  | some q => .ok q
  | none => .error (.noNumber t)

end Worklog.Numeral
