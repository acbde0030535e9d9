/-!
# Quantities

A quantity is what a binary64 number can be: a rational, a zero that came from below, an infinity
of either sign, or no number at all. Which rationals occur is left to the precision with which a
quantity is computed.

* `Quantity.value` is the rational of a finite quantity;
* `Quantity.lt`, `Quantity.le` and `Quantity.same` compare: the zero from below is zero, and what
  is no number compares with nothing, not even with itself;
* `Quantity.neg` turns the sign.
-/

namespace Worklog

/-- A number that may have left the range of the rationals. -/
inductive Quantity where
  | finite (x : Rat)
  /-- The zero that is reached from below. -/
  | negZero
  | infinite (negative : Bool)
  /-- No number. -/
  | undefined
  deriving DecidableEq, Inhabited

namespace Quantity

instance : Coe Rat Quantity := ⟨finite⟩

/-- A natural number as a quantity. -/
def ofNat (n : Nat) : Quantity := finite n

/-! ## 1. Parts -/

/-- The rational of a finite quantity; other quantities have none and count as zero. -/
def value : Quantity → Rat
  | finite x => x
  | _ => 0

/-- Whether a quantity has a minus sign. -/
def isNegative : Quantity → Bool
  | finite x => decide (x < 0)
  | negZero => true
  | infinite negative => negative
  | undefined => false

/-- Whether a quantity is a rational. -/
def isFinite : Quantity → Bool
  | finite _ => true
  | negZero => true
  | _ => false

/-- Whether a quantity is one of the two zeros. -/
def isZero : Quantity → Bool
  | finite x => decide (x = 0)
  | negZero => true
  | _ => false

/-- The zero with a sign. -/
def zero (negative : Bool) : Quantity := if negative then negZero else finite 0

/-- The quantity with the other sign. -/
def neg : Quantity → Quantity
  | finite x => if x = 0 then negZero else finite (-x)
  | negZero => finite 0
  | infinite negative => infinite !negative
  | undefined => undefined

/-- The sign is turned back by turning it again. -/
theorem neg_neg (q : Quantity) : q.neg.neg = q := by
  cases q with
  | finite x =>
    by_cases h : x = 0
    · simp [neg, h]
    · have h' : -x ≠ 0 := fun e => h (by rw [← Rat.neg_neg x, e]; rfl)
      simp [neg, h, h']
  | negZero => simp [neg]
  | infinite negative => simp [neg]
  | undefined => rfl

/-! ## 2. Order -/

/-- The place of a quantity in the order: below, among or above the rationals, and which rational
    it is. What is no number has no place. -/
def place : Quantity → Option (Int × Rat)
  | finite x => some (0, x)
  | negZero => some (0, 0)
  | infinite true => some (-1, 0)
  | infinite false => some (1, 0)
  | undefined => none

/-- Whether one place is before another. -/
def isBefore (a b : Int × Rat) : Bool := decide (a.1 < b.1) || (a.1 == b.1 && decide (a.2 < b.2))

/-- Whether a quantity is smaller than another. -/
def lt (a b : Quantity) : Bool :=
  match a.place, b.place with
  | some x, some y => isBefore x y
  | _, _ => false

/-- Whether two quantities are equal numbers. -/
def same (a b : Quantity) : Bool :=
  match a.place, b.place with
  | some x, some y => decide (x = y)
  | _, _ => false

/-- Whether a quantity is no greater than another. -/
def le (a b : Quantity) : Bool := a.lt b || a.same b

@[simp] theorem lt_finite (x y : Rat) : lt (finite x) (finite y) = decide (x < y) := by
  simp [lt, place, isBefore]

@[simp] theorem same_finite (x y : Rat) : same (finite x) (finite y) = decide (x = y) := by
  simp [same, place]

@[simp] theorem le_finite (x y : Rat) : le (finite x) (finite y) = decide (x ≤ y) := by
  simp only [le, lt_finite, same_finite]
  by_cases h : x ≤ y
  · rcases Rat.le_iff_lt_or_eq.mp h with h' | h' <;> simp [h, h']
  · have h1 : ¬ x < y := fun e => h (Rat.le_of_lt e)
    have h2 : ¬ x = y := fun e => h (e ▸ Rat.le_refl)
    simp [h, h1, h2]

end Quantity

end Worklog
