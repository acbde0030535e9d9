import Worklog.Fault
import Worklog.Number.Precision

/-!
# Amounts

An amount is a number as a document gives it: whole numbers are exact and of any size, all others
are quantities. Arithmetic stays exact between whole numbers; as soon as a quantity takes part, or
a quotient is asked for, the whole numbers become quantities, for which they may be too large.

* `Amount.lt`, `Amount.le` and `Amount.same` compare exactly;
* `Amount.add`, `Amount.scale` and `Amount.ratio` compute;
* `Amount.wholeMinutes` counts the whole minutes of an amount of seconds.
-/

namespace Worklog

/-- A number as a document gives it. -/
inductive Amount where
  | whole (n : Int)
  | real (q : Quantity)
  deriving DecidableEq, Inhabited

namespace Amount

/-- A rational as an amount. -/
def ofRat (x : Rat) : Amount := real (.finite x)

/-! ## 1. Order -/

/-- The exact number that an amount is. -/
def exactly : Amount → Quantity
  | whole n => .finite n
  | real q => q

/-- Whether an amount is smaller than another. -/
def lt (a b : Amount) : Bool := a.exactly.lt b.exactly

/-- Whether an amount is no greater than another. -/
def le (a b : Amount) : Bool := a.exactly.le b.exactly

/-- Whether two amounts are equal numbers. -/
def same (a b : Amount) : Bool := a.exactly.same b.exactly

/-! ## 2. Arithmetic -/

/-- A whole number as a quantity; one beyond all quantities is too large. -/
def quantityOf (p : Precision) (n : Int) : Except Fault Quantity :=
  match p.quantity n with
  | .infinite _ => .error .tooLargeForFraction
  | q => .ok q

/-- An amount as a quantity. -/
def quantity (p : Precision) : Amount → Except Fault Quantity
  | whole n => quantityOf p n
  | real q => .ok q

/-- A sum. -/
def add (p : Precision) : Amount → Amount → Except Fault Amount
  | whole m, whole n => .ok (whole (m + n))
  | a, b => do return real (p.plus (← a.quantity p) (← b.quantity p))

/-- A multiple. -/
def scale (p : Precision) (n : Nat) : Amount → Amount
  | whole m => whole (m * n)
  | real q => real (p.times q (.ofNat n))

/-- A part: the quotient by a positive number. -/
def ratio (p : Precision) (n : Nat) : Amount → Except Fault Quantity
  | whole m =>
    match p.quantity ((m : Rat) / (n : Rat)) with
    | .infinite _ => .error .quotientTooLarge
    | q => .ok q
  | real q => .ok (p.ratio q n)

/-- The difference of an amount and a quantity. -/
def minus (p : Precision) (a : Amount) (q : Quantity) : Except Fault Quantity := do
  return p.minus (← a.quantity p) q

/-- The sum of some amounts in their order. -/
def sum (p : Precision) (as : List Amount) : Except Fault Amount :=
  as.foldlM (fun s a => s.add p a) (whole 0)

/-- An amount rounded to decimal places; a whole number is round already. -/
def rounded (p : Precision) (places : Nat) : Amount → Amount
  | whole n => whole n
  | real q => real (p.rounded places q)

/-! ## 3. Minutes -/

/-- A rational rounded towards zero. -/
def truncated (x : Rat) : Int := if x < 0 then -(-x).floor else x.floor

/-- The number of whole minutes of a rational number of seconds, where each step is kept in a
    precision: what is left over is taken off, and the rest is divided and goes to the nearest
    whole number. -/
def minutesOf (p : Precision) (seconds : Rat) : Int :=
  let left := seconds - 60 * (truncated (seconds / 60) : Rat)
  let quotient := p.div (p.sub seconds left) 60
  let quotient := if left < 0 then p.sub quotient 1 else quotient
  let n := quotient.floor
  if 1 / 2 < p.sub quotient n then n + 1 else n

/-- **The whole minutes of an amount of seconds.** Infinity and what is no number have none. -/
def wholeMinutes (p : Precision) : Amount → Except Fault Int
  | whole n => .ok (n.fdiv 60)
  | real (.finite x) => .ok (minutesOf p x)
  | real .negZero => .ok 0
  | real _ => .error .notWhole

@[simp] theorem exact_quantity (a : Amount) : a.quantity .exact = .ok a.exactly := by
  cases a <;> simp [quantity, quantityOf, exactly]

theorem lt_ofRat (x y : Rat) : (ofRat x).lt (ofRat y) = decide (x < y) := by
  simp [lt, ofRat, exactly]

theorem le_ofRat (x y : Rat) : (ofRat x).le (ofRat y) = decide (x ≤ y) := by
  simp [le, ofRat, exactly]

/-- Rationals are added in exact precision as rationals. -/
theorem add_ofRat (x y : Rat) : (ofRat x).add .exact (ofRat y) = .ok (ofRat (x + y)) := by
  simp [add, ofRat, quantity, bind, Except.bind, pure, Except.pure]

end Amount

end Worklog
