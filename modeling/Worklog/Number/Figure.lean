import Worklog.Number.Amount

/-!
# Numbers in decimal figures

Three ways of writing a number in figures:

* `Figure.fixed`, with a fixed number of decimal places, a half going to the even neighbour;
* `Figure.general`, with six significant digits and no trailing zeros, in powers of ten where
  the number is large or small;
* `Figure.shortest`, with the fewest digits that still name the same binary64 number, nearest to
  it among those.

`ShortestStyle` holds the decisions that belong to the last form's layout. What has left the
rationals is written in words: `Figure.fixedOf` and `Figure.shortestOf` write any quantity.
-/

namespace Worklog.Figure

open Worklog.Number

/-- The minus sign of a negative number. -/
def sign (x : Rat) : Text := if x.num < 0 then ['-'] else []

/-- **A number with a fixed number of decimal places.** -/
def fixed (places : Nat) (x : Rat) : Text :=
  let n := scaled places x
  let whole := Text.ofNat (n / Nat.pow 10 places)
  sign x ++ if places = 0 then whole
    else whole ++ '.' :: Text.ofNatPadded places (n % Nat.pow 10 places)

/-- The magnitude of a number in units of `10 ^ k`, as a fraction of naturals. -/
def inPowersOfTen (x : Rat) (k : Int) : Nat × Nat :=
  if k < 0 then (x.num.natAbs * Nat.pow 10 k.natAbs, x.den)
  else (x.num.natAbs, x.den * Nat.pow 10 k.natAbs)

/-- The exponent `k` with `10 ^ k ≤ |x| < 10 ^ (k + 1)`, for a number that is not zero. -/
def magnitude (x : Rat) : Int :=
  let guess : Int := ((toString x.num.natAbs).length : Int) - (toString x.den).length
  let (a, b) := inPowersOfTen x guess
  if a < b then guess - 1 else guess

/-- The zeros at the end of a run of digits taken away. -/
def dropZeros (digits : Text) : Text := (digits.reverse.dropWhile (· == '0')).reverse

/-- Digits after which the point stands behind the first `point` of them. -/
def positional (digits : Text) (point : Int) : Text × Text :=
  if point ≤ 0 then (['0'], List.replicate point.natAbs '0' ++ digits)
  else
    let p := point.toNat
    (digits.take p ++ List.replicate (p - digits.length) '0', digits.drop p)

/-- An exponent of ten with its sign and at least two digits. -/
def exponentText (k : Int) : Text :=
  'e' :: (if k < 0 then '-' else '+') :: Text.ofNatPadded 2 k.natAbs

/-- Digits in scientific layout: one digit, a point if more follow, and the exponent. -/
def scientific (digits : Text) (k : Int) : Text :=
  match digits with
  | [] => []
  | [d] => d :: exponentText k
  | d :: rest => d :: '.' :: rest ++ exponentText k

/-- **A number with six significant digits and no trailing zeros.** -/
def general (x : Rat) : Text :=
  if x.num = 0 then ['0'] else
    let k := magnitude x
    let (a, b) := inPowersOfTen x (k - 5)
    let n := nearestNat a b
    let (n, k) := if n = 1000000 then (100000, k + 1) else (n, k)
    let digits := dropZeros (Text.ofNat n)
    sign x ++
      if -4 ≤ k && k < 6 then
        let (whole, part) := positional digits (k + 1)
        if part.isEmpty then whole else whole ++ '.' :: part
      else scientific digits k

/-- The decimal `n * 10 ^ k`. -/
def decimal (n : Nat) (k : Int) : Rat :=
  if k < 0 then mkRat n (Nat.pow 10 k.natAbs) else mkRat (n * Nat.pow 10 k.natAbs : Nat) 1

/-- The exponent of ten beyond which no binary64 number lies. -/
def greatestPower : Int := 400

/-- **The binary64 number nearest to `n * 10 ^ k`**, with a sign. Exponents far beyond all binary64
    numbers are not carried out: such a number is zero or infinite. -/
def nearestDecimal (negative : Bool) (n : Nat) (k : Int) : Quantity :=
  if n = 0 || k + (Nat.log2 n + 1 : Nat) < -greatestPower then .zero negative
  else
    let q := Precision.double.quantity (decimal n (min k greatestPower))
    match q with
    | .finite x => if x = 0 then .zero negative else if negative then q.neg else q
    | q => if negative then q.neg else q

/-- Of the two neighbours of a positive number on the grid of `count` digits, the nearer one that
    names the same binary64 number. -/
def onGrid (x : Rat) (k : Int) (count : Nat) : Option (Nat × Int) :=
  let unit := k - count + 1
  let (a, b) := inPowersOfTen x unit
  let near := nearestNat a b
  let other := if near = a / b then near + 1 else a / b
  [near, other].findSome? fun n =>
    if nearestDouble (decimal n unit) = x then some (n, unit) else none

/-- The shortest digits of a positive binary64 number and the exponent of the first digit. -/
def shortestDigits (x : Rat) : Text × Int :=
  let k := magnitude x
  match (List.range 17).findSome? fun i => onGrid x k (i + 1) with
  | some (n, unit) =>
    let digits := Text.ofNat n
    (dropZeros digits, unit + digits.length - 1)
  | none => ([], 0)

/-- The layout of the shortest form: the exponents written in positional layout, what follows
    a single digit in scientific layout, and the words for what has no digits. -/
structure ShortestStyle where
  leastPositional : Int
  greatestPositional : Int
  /-- Stands between the digits and the exponent when there is one digit only. -/
  afterSingle : Text
  infinity : String
  undefined : String

/-- The layout of numbers in messages. -/
def plainStyle : ShortestStyle := ⟨-4, 15, [], "inf", "nan"⟩

/-- The layout of numbers in documents. -/
def documentStyle : ShortestStyle := ⟨-4, 15, [], "Infinity", "NaN"⟩

/-- The layout of numbers in settings files, where every number shows a point. -/
def pointedStyle : ShortestStyle := ⟨-4, 15, ".0".toList, ".inf", ".nan"⟩

/-- **A number with the fewest digits that name the same binary64 number.** -/
def shortest (style : ShortestStyle) (x : Rat) : Text :=
  if x.num = 0 then "0.0".toList else
    let (digits, k) := shortestDigits (if x.num < 0 then -x else x)
    sign x ++
      if style.leastPositional ≤ k && k ≤ style.greatestPositional then
        let (whole, part) := positional digits (k + 1)
        whole ++ '.' :: (if part.isEmpty then ['0'] else part)
      else match digits with
        | [d] => d :: style.afterSingle ++ exponentText k
        | _ => scientific digits k

/-! ## Quantities -/

/-- A word behind a minus sign, if there is one. -/
def signed (negative : Bool) (word : Text) : Text := if negative then '-' :: word else word

/-- A quantity in figures or words, where rationals are written in a given way. -/
def written (rational : Rat → Text) (infinity undefined : String) : Quantity → Text
  | .finite x => rational x
  | .negZero => '-' :: rational 0
  | .infinite negative => signed negative infinity.toList
  | .undefined => undefined.toList

/-- **A quantity with a fixed number of decimal places.** -/
def fixedOf (places : Nat) (q : Quantity) : Text :=
  written (fixed places) plainStyle.infinity plainStyle.undefined q

/-- **A quantity with the fewest digits that name the same binary64 number.** -/
def shortestOf (style : ShortestStyle) (q : Quantity) : Text :=
  written (shortest style) style.infinity style.undefined q

/-- An amount with a fixed number of decimal places; a whole number is written as the binary64
    number nearest to it. -/
def fixedAmount (places : Nat) : Amount → Text
  | .whole n => fixed places (nearestDouble n)
  | .real q => fixedOf places q

end Worklog.Figure
