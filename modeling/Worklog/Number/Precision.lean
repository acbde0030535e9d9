import Worklog.Number.Quantity
import Worklog.Number.Rounding

/-!
# Exact and double precision

Durations, scores and times are rational numbers, and each arithmetic step keeps its result in a
precision. A `Precision` says what is kept:

* `Precision.exact` keeps everything, so that laws of real arithmetic hold;
* `Precision.double` keeps the nearest number with 53 binary digits (`nearestDouble`), and from
  `2 ^ 1024` on an infinity: the arithmetic of binary64.

A definition that computes takes the precision as an argument, so the same definition is run in
double precision and reasoned about exactly. Where numbers are known to stay small the arithmetic
is that of rationals (`add`, `sub`, `mul`, `div`); elsewhere it is that of quantities (`plus`,
`minus`, `times`, `ratio`), which on finite quantities in exact precision is the same.
-/

namespace Worklog

namespace Number

/-- The least exponent of a binary64 number written as `m * 2 ^ e` with `m < 2 ^ 53`. -/
def leastExponent : Int := -1074

/-- `n / d * 2 ^ (-e)` as a fraction of naturals. -/
def shifted (n d : Nat) (e : Int) : Nat × Nat :=
  if e < 0 then (n * Nat.pow 2 e.natAbs, d) else (n, d * Nat.pow 2 e.natAbs)

/-- The exponent at which the quotient `n / d` has 53 binary digits, or the least exponent. -/
def doubleExponent (n d : Nat) : Int :=
  let e : Int := (Nat.log2 n : Int) - Nat.log2 d - 53
  let (a, b) := shifted n d e
  max leastExponent (if a / b < Nat.pow 2 53 then e else e + 1)

/-- `m * 2 ^ e` as a rational. -/
def dyadic (m : Nat) (e : Int) : Rat :=
  if e < 0 then mkRat m (Nat.pow 2 e.natAbs) else mkRat (m * Nat.pow 2 e.natAbs : Nat) 1

/-- **The rational with 53 binary digits nearest to a rational**, a half going to the even
    neighbour. -/
def nearestDouble (x : Rat) : Rat :=
  if x.num = 0 then 0 else
    let n := x.num.natAbs
    let e := doubleExponent n x.den
    let (a, b) := shifted n x.den e
    let m := dyadic (nearestNat a b) e
    if x.num < 0 then -m else m

end Number

/-- What an arithmetic step keeps of its result. -/
structure Precision where
  /-- The kept value. -/
  keep : Rat → Rat
  /-- The magnitude from which a kept value is infinite, if there is one. -/
  bound : Option Rat

namespace Precision

/-! ## 1. The precisions -/

/-- Everything is kept. -/
def exact : Precision := ⟨id, none⟩

/-- The nearest binary64 number is kept. -/
def double : Precision := ⟨Number.nearestDouble, some (Nat.pow 2 1024 : Nat)⟩

/-! ## 2. Arithmetic of rationals -/

/-- A sum. -/
def add (p : Precision) (a b : Rat) : Rat := p.keep (a + b)

/-- A difference. -/
def sub (p : Precision) (a b : Rat) : Rat := p.keep (a - b)

/-- A product. -/
def mul (p : Precision) (a b : Rat) : Rat := p.keep (a * b)

/-- A quotient. -/
def div (p : Precision) (a b : Rat) : Rat := p.keep (a / b)

@[simp] theorem exact_keep (x : Rat) : exact.keep x = x := rfl

@[simp] theorem exact_add (a b : Rat) : exact.add a b = a + b := rfl

@[simp] theorem exact_sub (a b : Rat) : exact.sub a b = a - b := rfl

@[simp] theorem exact_mul (a b : Rat) : exact.mul a b = a * b := rfl

@[simp] theorem exact_div (a b : Rat) : exact.div a b = a / b := rfl

/-- A number of microseconds in seconds. -/
def seconds (p : Precision) (micros : Int) : Rat := p.keep (micros / 1000000)

/-- A rational rounded to decimal places and then kept. -/
def roundTo (p : Precision) (places : Nat) (x : Rat) : Rat := p.keep (Number.roundTo places x)

/-! ## 3. Arithmetic of quantities -/

/-- The magnitude of a rational. -/
def magnitude (x : Rat) : Rat := if x < 0 then -x else x

/-- **What is kept of a rational result**: an infinity if it is too large, and a zero with the sign
    of the result if it is too small. -/
def quantity (p : Precision) (x : Rat) : Quantity :=
  let y := p.keep x
  if p.bound.any (fun b => decide (b ≤ magnitude y)) then .infinite (decide (x < 0))
  else if y = 0 ∧ x < 0 then .negZero
  else .finite y

@[simp] theorem exact_quantity (x : Rat) : exact.quantity x = .finite x := by
  by_cases h : x = 0
  · subst h; simp [quantity, exact]
  · simp [quantity, exact, h]

/-- A sum. A sum of rationals that comes to nothing is the zero from above. -/
def plus (p : Precision) : Quantity → Quantity → Quantity
  | .undefined, _ => .undefined
  | _, .undefined => .undefined
  | .infinite s, .infinite t => if s = t then .infinite s else .undefined
  | .infinite s, _ => .infinite s
  | _, .infinite t => .infinite t
  | .negZero, .negZero => .negZero
  | a, b => p.quantity (a.value + b.value)

/-- A difference. -/
def minus (p : Precision) (a b : Quantity) : Quantity := p.plus a b.neg

/-- A product: it is negative if the signs differ. -/
def times (p : Precision) (a b : Quantity) : Quantity :=
  let negative := a.isNegative != b.isNegative
  match a, b with
  | .undefined, _ => .undefined
  | _, .undefined => .undefined
  | .infinite _, b => if b.isZero then .undefined else .infinite negative
  | a, .infinite _ => if a.isZero then .undefined else .infinite negative
  | a, b => if a.isZero || b.isZero then .zero negative else p.quantity (a.value * b.value)

/-- A quotient by a positive rational. -/
def ratio (p : Precision) (a : Quantity) (d : Rat) : Quantity :=
  match a with
  | .finite x => if x = 0 then .finite 0 else p.quantity (x / d)
  | a => a

/-- A quantity rounded to decimal places. What is rounded to nothing keeps its sign. -/
def rounded (p : Precision) (places : Nat) : Quantity → Quantity
  | .finite x =>
    let y := p.roundTo places x
    if y = 0 ∧ x < 0 then .negZero else .finite y
  | q => q

@[simp] theorem exact_plus_finite (x y : Rat) :
    exact.plus (.finite x) (.finite y) = .finite (x + y) := by
  simp [plus, Quantity.value]

@[simp] theorem exact_ratio_finite (x d : Rat) : exact.ratio (.finite x) d = .finite (x / d) := by
  by_cases h : x = 0
  · subst h
    simp only [ratio, if_true]
    rw [Rat.div_def, Rat.zero_mul]
  · simp [ratio, h]

end Precision

end Worklog
