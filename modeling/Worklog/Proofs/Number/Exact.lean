import Worklog.Number.Amount

/-!
# Exact arithmetic

Quantities have two zeros, and whole numbers are not quantities; so amounts that are the same
rational may still be different amounts. In exact precision this makes no difference: what amounts
denote is computed with and compared as rationals are.

* `Quantity.Denotes`, `Amount.Denotes`, `Amount.IsRational`: rationals and what they are given as;
* `Quantity.Denotes.plus`, `Quantity.Denotes.times`, …: **arithmetic of quantities**;
* `Amount.Denotes.add`, `Amount.Denotes.scale`, …: **arithmetic of amounts**.
-/

namespace Worklog

/-! ## 1. Quantities -/

namespace Quantity

/-- A quantity denotes a rational if this is its place in the order. -/
def Denotes (q : Quantity) (x : Rat) : Prop := q.place = some (0, x)

instance (q : Quantity) (x : Rat) : Decidable (q.Denotes x) := decEq q.place _

theorem denotes_finite (x : Rat) : (finite x).Denotes x := rfl

/-- Either the rational is given as it is, or it is the zero from below. -/
theorem Denotes.cases {q : Quantity} {x : Rat} (h : q.Denotes x) :
    q = finite x ∨ q = negZero ∧ x = 0 := by
  cases q with
  | finite y =>
      cases h
      exact Or.inl rfl
  | negZero =>
      cases h
      exact Or.inr ⟨rfl, rfl⟩
  | infinite negative => cases negative <;> cases h
  | undefined => cases h

namespace Denotes

variable {a b : Quantity} {x y : Rat}

theorem value_eq (h : a.Denotes x) : a.value = x := by
  rcases h.cases with rfl | ⟨rfl, rfl⟩ <;> rfl

theorem lt (ha : a.Denotes x) (hb : b.Denotes y) : a.lt b = decide (x < y) := by
  unfold Denotes at ha hb
  simp [Quantity.lt, ha, hb, isBefore]

theorem same (ha : a.Denotes x) (hb : b.Denotes y) : a.same b = decide (x = y) := by
  unfold Denotes at ha hb
  simp [Quantity.same, ha, hb]

theorem le (ha : a.Denotes x) (hb : b.Denotes y) : a.le b = decide (x ≤ y) := by
  rw [Quantity.le, ha.lt hb, ha.same hb, ← Bool.decide_or]
  exact decide_eq_decide.mpr Rat.le_iff_lt_or_eq.symm

theorem neg (h : a.Denotes x) : a.neg.Denotes (-x) := by
  rcases h.cases with rfl | ⟨rfl, rfl⟩
  · by_cases hx : x = 0
    · subst hx
      rfl
    · rw [show (finite x).neg = finite (-x) from if_neg hx]
      rfl
  · rfl

theorem plus (ha : a.Denotes x) (hb : b.Denotes y) :
    (Precision.exact.plus a b).Denotes (x + y) := by
  rcases ha.cases with rfl | ⟨rfl, rfl⟩
  · rcases hb.cases with rfl | ⟨rfl, rfl⟩
    · rw [Precision.exact_plus_finite]
      rfl
    · simp [Precision.plus, value, Denotes, place]
  · rcases hb.cases with rfl | ⟨rfl, rfl⟩
    · simp [Precision.plus, value, Denotes, place]
    · rw [Rat.add_zero]
      rfl

theorem minus (ha : a.Denotes x) (hb : b.Denotes y) :
    (Precision.exact.minus a b).Denotes (x - y) := by
  rw [Rat.sub_eq_add_neg]
  exact ha.plus hb.neg

/-- A product that comes to nothing is one of the zeros. -/
theorem denotes_zero (negative : Bool) : (zero negative).Denotes 0 := by
  cases negative <;> rfl

theorem times (ha : a.Denotes x) (hb : b.Denotes y) :
    (Precision.exact.times a b).Denotes (x * y) := by
  rcases ha.cases with rfl | ⟨rfl, rfl⟩
  · rcases hb.cases with rfl | ⟨rfl, rfl⟩
    · unfold Precision.times
      dsimp only
      split
      next hzero =>
        have hxy : x * y = 0 := by
          rcases Bool.or_eq_true_iff.mp hzero with hx | hy
          · rw [of_decide_eq_true hx, Rat.zero_mul]
          · rw [of_decide_eq_true hy, Rat.mul_zero]
        rw [hxy]
        exact denotes_zero _
      next => simp [value, Denotes, place]
    · rw [Rat.mul_zero]
      simp [Precision.times, isZero, denotes_zero]
  · rw [Rat.zero_mul]
    rcases hb.cases with rfl | ⟨rfl, rfl⟩
    · simp [Precision.times, isZero, denotes_zero]
    · simp [Precision.times, isZero, denotes_zero]

theorem ratio (h : a.Denotes x) (d : Rat) : (Precision.exact.ratio a d).Denotes (x / d) := by
  rcases h.cases with rfl | ⟨rfl, rfl⟩
  · rw [Precision.exact_ratio_finite]
    rfl
  · rw [Rat.div_def, Rat.zero_mul]
    rfl

end Denotes

end Quantity

/-! ## 2. Amounts -/

namespace Amount

/-- An amount denotes the rational that it is. -/
def Denotes (a : Amount) (x : Rat) : Prop := a.exactly.Denotes x

/-- The rational that an amount is; an amount that is none counts as zero. -/
def value (a : Amount) : Rat := a.exactly.value

/-- Whether an amount is a rational. -/
def IsRational (a : Amount) : Prop := a.Denotes a.value

instance (a : Amount) : Decidable a.IsRational :=
  inferInstanceAs (Decidable (a.exactly.Denotes a.value))

theorem denotes_whole (n : Int) : (whole n).Denotes n := rfl

theorem denotes_ofRat (x : Rat) : (ofRat x).Denotes x := rfl

namespace Denotes

variable {a b : Amount} {q : Quantity} {x y : Rat}

theorem value_eq (h : a.Denotes x) : a.value = x := Quantity.Denotes.value_eq h

theorem isRational (h : a.Denotes x) : a.IsRational := by
  unfold IsRational
  rwa [h.value_eq]

theorem lt (ha : a.Denotes x) (hb : b.Denotes y) : a.lt b = decide (x < y) :=
  Quantity.Denotes.lt ha hb

theorem le (ha : a.Denotes x) (hb : b.Denotes y) : a.le b = decide (x ≤ y) :=
  Quantity.Denotes.le ha hb

theorem same (ha : a.Denotes x) (hb : b.Denotes y) : a.same b = decide (x = y) :=
  Quantity.Denotes.same ha hb

theorem add (ha : a.Denotes x) (hb : b.Denotes y) :
    ∃ c, a.add .exact b = .ok c ∧ c.Denotes (x + y) := by
  have hreal : ∀ {c d : Quantity}, c.Denotes x → d.Denotes y →
      (real (Precision.exact.plus c d)).Denotes (x + y) := fun hc hd => hc.plus hd
  cases a with
  | real c =>
      refine ⟨real (Precision.exact.plus c b.exactly), ?_, hreal ha hb⟩
      simp only [Amount.add, exact_quantity]
      rfl
  | whole m =>
      cases b with
      | real d =>
          refine ⟨real (Precision.exact.plus (whole m).exactly d), ?_, hreal ha hb⟩
          simp only [Amount.add, exact_quantity]
          rfl
      | whole n =>
          cases ha
          cases hb
          refine ⟨whole (m + n), rfl, ?_⟩
          rw [← Rat.intCast_add]
          exact denotes_whole _

theorem scale (h : a.Denotes x) (n : Nat) : (a.scale .exact n).Denotes (x * n) := by
  cases a with
  | whole m =>
      cases h
      have hcast : ((m * n : Int) : Rat) = (m : Rat) * (n : Rat) := Rat.intCast_mul _ _
      unfold Amount.scale
      rw [← hcast]
      exact denotes_whole _
  | real q => exact Quantity.Denotes.times h (Quantity.denotes_finite n)

theorem ratio (h : a.Denotes x) (n : Nat) :
    ∃ q, a.ratio .exact n = .ok q ∧ q.Denotes (x / n) := by
  cases a with
  | whole m =>
      cases h
      refine ⟨.finite ((m : Rat) / n), ?_, rfl⟩
      simp only [Amount.ratio, Precision.exact_quantity]
  | real q => exact ⟨_, rfl, Quantity.Denotes.ratio h n⟩

theorem minus (ha : a.Denotes x) (hq : q.Denotes y) :
    ∃ r, a.minus .exact q = .ok r ∧ r.Denotes (x - y) := by
  refine ⟨Precision.exact.minus a.exactly q, ?_, Quantity.Denotes.minus ha hq⟩
  unfold Amount.minus
  rw [exact_quantity]
  rfl

end Denotes

end Amount

end Worklog
