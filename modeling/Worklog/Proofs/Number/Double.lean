import Mathlib.Algebra.Order.Field.Power
import Mathlib.Data.Rat.Cast.Order
import Mathlib.Tactic.FieldSimp
import Mathlib.Tactic.Linarith
import Mathlib.Tactic.Positivity
import Mathlib.Tactic.Ring
import Worklog.Number.Precision

/-!
# Numbers with 53 binary digits

A rational goes to the nearest number with 53 binary digits, where the exponent is that of the
rational.

* `Number.doubleExponent_spec`: the exponent leaves a rational at most 53 digits, and all of them
  unless it is the least one;
* `Number.nearestDouble_spec`: the nearest number is half a unit away at most;
* `Number.IsPosDouble`: the numbers of binary64 that are above zero;
* **`Number.nearestDouble_eq`**: what is closer to a number than its neighbours goes to it.
-/

namespace Worklog.Number

/-! ## 1. Fractions of naturals -/

/-- A fraction is shifted by a power of two. -/
theorem shifted_spec (n : Nat) {d : Nat} (hd : 0 < d) (e : Int) : 0 < (shifted n d e).2 ∧
    ((shifted n d e).1 : ℚ) / (shifted n d e).2 = n / d / 2 ^ e := by
  have hd' : (d : ℚ) ≠ 0 := Nat.cast_ne_zero.mpr hd.ne'
  unfold shifted
  split
  next he =>
    obtain ⟨k, rfl⟩ : ∃ k : Nat, e = -k := ⟨e.natAbs, by omega⟩
    refine ⟨hd, ?_⟩
    rw [Int.natAbs_neg, Int.natAbs_natCast, zpow_neg, zpow_natCast]
    push_cast [Nat.pow_eq]
    field_simp
  next he =>
    obtain ⟨k, rfl⟩ : ∃ k : Nat, e = k := ⟨e.natAbs, by omega⟩
    refine ⟨Nat.mul_pos hd (Nat.pow_pos (by decide)), ?_⟩
    rw [Int.natAbs_natCast, zpow_natCast]
    push_cast [Nat.pow_eq]
    field_simp

theorem dyadic_eq (m : Nat) (e : Int) : dyadic m e = m * 2 ^ e := by
  unfold dyadic
  split
  next he =>
    obtain ⟨k, rfl⟩ : ∃ k : Nat, e = -k := ⟨e.natAbs, by omega⟩
    rw [Int.natAbs_neg, Int.natAbs_natCast, zpow_neg, zpow_natCast, Rat.mkRat_eq_div]
    push_cast [Nat.pow_eq]
    field_simp
  next he =>
    obtain ⟨k, rfl⟩ : ∃ k : Nat, e = k := ⟨e.natAbs, by omega⟩
    rw [Int.natAbs_natCast, zpow_natCast, Rat.mkRat_eq_div]
    push_cast [Nat.pow_eq]
    field_simp

/-- The nearest natural is half a unit away at most. -/
theorem abs_nearestNat_sub_le (a : Nat) {b : Nat} (hb : 0 < b) :
    |(nearestNat a b : ℚ) - a / b| ≤ 1 / 2 := by
  have hb' : (0 : ℚ) < b := Nat.cast_pos.mpr hb
  have hupper : (2 * (nearestNat a b * b) : ℚ) ≤ 2 * a + b := by
    exact_mod_cast two_mul_nearestNat_le a b
  have hlower : (2 * a : ℚ) ≤ 2 * (nearestNat a b * b) + b := by
    exact_mod_cast le_two_mul_nearestNat a hb
  have hle : (a : ℚ) / b ≤ nearestNat a b + 1 / 2 := by
    rw [div_le_iff₀ hb']
    linarith
  have hge : (nearestNat a b : ℚ) - 1 / 2 ≤ a / b := by
    rw [le_div_iff₀ hb']
    linarith
  rw [abs_le]
  constructor <;> linarith

/-- **What is closer to a natural than a half** goes to it. -/
theorem nearestNat_eq {a b m : Nat} (hb : 0 < b) (h : |(a : ℚ) / b - m| < 1 / 2) :
    nearestNat a b = m := by
  have hnear := abs_nearestNat_sub_le a hb
  have hclose : |(nearestNat a b : ℚ) - m| < 1 := by
    have := abs_sub_le (nearestNat a b : ℚ) (a / b) m
    linarith
  have hint : |(nearestNat a b : ℤ) - m| < 1 := by exact_mod_cast hclose
  rw [Int.abs_lt_one_iff] at hint
  omega

/-! ## 2. The exponent of a rational -/

/-- A natural lies between two powers of two. -/
theorem two_pow_log2_le {n : Nat} (h : 0 < n) :
    (2 : ℚ) ^ (Nat.log2 n : ℤ) ≤ n ∧ (n : ℚ) < 2 ^ (Nat.log2 n + 1 : ℤ) := by
  have hle : 2 ^ Nat.log2 n ≤ n := Nat.log2_self_le h.ne'
  have hlt : n < 2 ^ (Nat.log2 n + 1) := Nat.lt_log2_self
  exact ⟨by exact_mod_cast hle, by exact_mod_cast hlt⟩

/-- A quotient of naturals lies between the powers of two of its first guess. -/
theorem guess_spec {n d : Nat} (hn : 0 < n) (hd : 0 < d) :
    let e : Int := (Nat.log2 n : Int) - Nat.log2 d - 53
    (2 : ℚ) ^ 52 * 2 ^ e ≤ n / d ∧ (n : ℚ) / d < 2 ^ 54 * 2 ^ e := by
  intro e
  have hd' : (0 : ℚ) < d := Nat.cast_pos.mpr hd
  obtain ⟨hnle, hnlt⟩ := two_pow_log2_le hn
  obtain ⟨hdle, hdlt⟩ := two_pow_log2_le hd
  have hsplit : (2 : ℚ) ^ e = 2 ^ (Nat.log2 n : ℤ) / 2 ^ (Nat.log2 d : ℤ) / 2 ^ 53 := by
    unfold e
    rw [zpow_sub₀ two_ne_zero, zpow_sub₀ two_ne_zero]
    norm_num
  rw [zpow_add_one₀ two_ne_zero] at hnlt hdlt
  rw [hsplit]
  have hpow : (0 : ℚ) < 2 ^ (Nat.log2 d : ℤ) := by positivity
  have hcancel := div_mul_cancel₀ ((2 : ℚ) ^ (Nat.log2 n : ℤ)) hpow.ne'
  have hratio : (0 : ℚ) < 2 ^ (Nat.log2 n : ℤ) / 2 ^ (Nat.log2 d : ℤ) := by positivity
  constructor
  · rw [le_div_iff₀ hd']
    have hmul := mul_le_mul_of_nonneg_left hdlt.le hratio.le
    linarith
  · rw [div_lt_iff₀ hd']
    have hmul := mul_le_mul_of_nonneg_left hdle hratio.le
    linarith

/-- **The exponent of a rational** leaves it at most 53 digits before the point, and just as many
    unless it is the least exponent. -/
theorem doubleExponent_spec {n d : Nat} (hn : 0 < n) (hd : 0 < d) :
    leastExponent ≤ doubleExponent n d ∧ (n : ℚ) / d < 2 ^ 53 * 2 ^ doubleExponent n d ∧
      (doubleExponent n d = leastExponent ∨ 2 ^ 52 * 2 ^ doubleExponent n d ≤ (n : ℚ) / d) := by
  obtain ⟨hle, hlt⟩ := guess_spec hn hd
  let guess : Int := (Nat.log2 n : Int) - Nat.log2 d - 53
  obtain ⟨hb, hquotient⟩ := shifted_spec n hd guess
  have hpow : (0 : ℚ) < 2 ^ guess := by positivity
  have hfits : (shifted n d guess).1 / (shifted n d guess).2 < Nat.pow 2 53 ↔
      (n : ℚ) / d < 2 ^ 53 * 2 ^ guess := by
    rw [Nat.div_lt_iff_lt_mul hb, ← div_lt_iff₀ hpow, ← hquotient,
      div_lt_iff₀ (Nat.cast_pos.mpr hb)]
    norm_cast
  -- the guess, or the next exponent if the guess leaves 54 digits
  obtain ⟨e, he, hless, hmore⟩ : ∃ e, doubleExponent n d = max leastExponent e ∧
      (n : ℚ) / d < 2 ^ 53 * 2 ^ e ∧ 2 ^ 52 * 2 ^ e ≤ (n : ℚ) / d := by
    by_cases h : (shifted n d guess).1 / (shifted n d guess).2 < Nat.pow 2 53
    · exact ⟨guess, by unfold doubleExponent; dsimp only; rw [if_pos h], hfits.mp h, hle⟩
    · refine ⟨guess + 1, by unfold doubleExponent; dsimp only; rw [if_neg h], ?_, ?_⟩
      · rw [zpow_add_one₀ two_ne_zero]
        linarith
      · rw [hfits, not_lt] at h
        rw [zpow_add_one₀ two_ne_zero]
        linarith
  rw [he]
  refine ⟨le_max_left _ _, lt_of_lt_of_le hless ?_, ?_⟩
  · have hmono : (2 : ℚ) ^ e ≤ 2 ^ max leastExponent e :=
      zpow_le_zpow_right₀ one_le_two (le_max_right _ _)
    linarith
  · rcases le_total e leastExponent with hsmall | hlarge
    · exact Or.inl (max_eq_left hsmall)
    · rw [max_eq_right hlarge]
      exact Or.inr hmore

/-! ## 3. The nearest number -/

/-- **What a positive rational goes to**: a number of units of its exponent, which is half a unit
    away at most, and the only one that is closer than that. -/
structure GoesTo (y : ℚ) (m : ℕ) (e : ℤ) : Prop where
  least_le : leastExponent ≤ e
  lt : y < 2 ^ 53 * 2 ^ e
  normal : e = leastExponent ∨ 2 ^ 52 * 2 ^ e ≤ y
  near : |(m : ℚ) * 2 ^ e - y| ≤ 2 ^ e / 2
  unique : ∀ n : ℕ, |y - n * 2 ^ e| < 2 ^ e / 2 → m = n

/-- A distance in units is a distance. -/
theorem abs_div_sub (y n : ℚ) {u : ℚ} (hu : 0 < u) : |y / u - n| = |y - n * u| / u := by
  rw [← abs_of_pos hu, ← abs_div, abs_of_pos hu, sub_div, mul_div_cancel_right₀ _ hu.ne']

theorem nearestDouble_spec {y : ℚ} (hy : 0 < y) :
    ∃ (m : ℕ) (e : ℤ), nearestDouble y = m * 2 ^ e ∧ GoesTo y m e := by
  have hnum : 0 < y.num := Rat.num_pos.mpr hy
  have hn : 0 < y.num.natAbs := Int.natAbs_pos.mpr hnum.ne'
  have hquotient : (y.num.natAbs : ℚ) / y.den = y := by
    rw [Nat.cast_natAbs, abs_of_pos hnum]
    exact Rat.num_div_den y
  let e := doubleExponent y.num.natAbs y.den
  let fraction := shifted y.num.natAbs y.den e
  obtain ⟨hleast, hlt, hnormal⟩ := doubleExponent_spec hn y.den_pos
  obtain ⟨hb, hshifted⟩ := shifted_spec y.num.natAbs y.den_pos e
  rw [hquotient] at hshifted hlt hnormal
  have hpow : (0 : ℚ) < 2 ^ e := by positivity
  refine ⟨nearestNat fraction.1 fraction.2, e, ?_, hleast, hlt, hnormal, ?_, fun n hn => ?_⟩
  · unfold nearestDouble
    rw [if_neg hnum.ne']
    dsimp only
    rw [if_neg hnum.le.not_gt, dyadic_eq]
  · have hnear := abs_nearestNat_sub_le fraction.1 hb
    rw [hshifted, abs_sub_comm, abs_div_sub _ _ hpow, div_le_iff₀ hpow] at hnear
    rw [abs_sub_comm]
    linarith
  · refine nearestNat_eq hb ?_
    rw [hshifted, abs_div_sub _ _ hpow, div_lt_iff₀ hpow]
    linarith

/-! ## 4. The numbers of binary64 -/

/-- **A positive number of binary64** with 53 digits, or fewer if its exponent is the least. -/
structure IsNormal (m : ℕ) (e : ℤ) : Prop where
  pos : 0 < m
  lt : m < 2 ^ 53
  least_le : leastExponent ≤ e
  normal : e = leastExponent ∨ 2 ^ 52 ≤ m

section Close

variable {y : ℚ} {m m' : ℕ} {e e' : ℤ}

/-- A greater exponent needs a greater number. -/
theorem GoesTo.exponent_le (hgoes : GoesTo y m' e') (h : IsNormal m e)
    (hclose : |y - m * 2 ^ e| < 2 ^ e / 2) : e' ≤ e := by
  by_contra hmore
  have hpow : (0 : ℚ) < 2 ^ e := by positivity
  have hm : (m : ℚ) + 1 ≤ 2 ^ 53 := by exact_mod_cast h.lt
  have hnormal : 2 ^ 52 * 2 ^ e' ≤ y := hgoes.normal.resolve_left
    fun heq => by have := h.least_le; omega
  have hpow' : (2 : ℚ) ^ (e + 1) ≤ 2 ^ e' := zpow_le_zpow_right₀ one_le_two (by omega)
  rw [zpow_add_one₀ two_ne_zero] at hpow'
  have hprod : ((m : ℚ) + 1) * 2 ^ e ≤ 2 ^ 53 * 2 ^ e := mul_le_mul_of_nonneg_right hm hpow.le
  obtain ⟨-, hhigh⟩ := abs_lt.mp hclose
  linarith

/-- The exponent is smaller just below a power of two only. -/
theorem GoesTo.eq_of_exponent_lt (hgoes : GoesTo y m' e') (h : IsNormal m e) (hless : e' < e)
    (hclose : |y - m * 2 ^ e| < 2 ^ e / 2) (hbelow : m = 2 ^ 52 → |y - m * 2 ^ e| < 2 ^ e / 4) :
    m = 2 ^ 52 ∧ e' = e - 1 ∧ m' = 2 ^ 53 := by
  have hpow : (0 : ℚ) < 2 ^ e := by positivity
  have hnormal : 2 ^ 52 ≤ m := h.normal.resolve_left
    fun heq => by have := hgoes.least_le; omega
  have hpow' : (2 : ℚ) ^ e' ≤ 2 ^ (e - 1) := zpow_le_zpow_right₀ one_le_two (by omega)
  rw [zpow_sub_one₀ two_ne_zero] at hpow'
  have hlt := hgoes.lt
  have hm : m = 2 ^ 52 := by
    obtain ⟨hlow, -⟩ := abs_lt.mp hclose
    have hprod : (m : ℚ) * 2 ^ e < (2 ^ 52 + 1) * 2 ^ e := by linarith
    have hsmall : m < 2 ^ 52 + 1 := by exact_mod_cast lt_of_mul_lt_mul_right hprod hpow.le
    omega
  subst hm
  have hquarter := hbelow rfl
  have he : e' = e - 1 := by
    by_contra hne
    have hpow'' : (2 : ℚ) ^ e' ≤ 2 ^ (e - 2) := zpow_le_zpow_right₀ one_le_two (by omega)
    rw [zpow_sub₀ two_ne_zero] at hpow''
    obtain ⟨hlow, -⟩ := abs_lt.mp hquarter
    push_cast at hlow
    linarith
  subst he
  refine ⟨rfl, rfl, hgoes.unique (2 ^ 53) ?_⟩
  have hsame : ((2 ^ 53 : ℕ) : ℚ) * 2 ^ (e - 1) = (2 ^ 52 : ℕ) * 2 ^ e := by
    rw [zpow_sub_one₀ two_ne_zero]
    push_cast
    ring
  rw [hsame, zpow_sub_one₀ two_ne_zero]
  linarith

/-- **What is closer to a number than its neighbours goes to it.** Below a power of two the
    neighbour is closer. -/
theorem nearestDouble_eq (h : IsNormal m e) (hy : 0 < y)
    (hclose : |y - m * 2 ^ e| < 2 ^ e / 2) (hbelow : m = 2 ^ 52 → |y - m * 2 ^ e| < 2 ^ e / 4) :
    nearestDouble y = m * 2 ^ e := by
  obtain ⟨m', e', hy', hgoes⟩ := nearestDouble_spec hy
  rw [hy']
  rcases (hgoes.exponent_le h hclose).lt_or_eq with hless | rfl
  · obtain ⟨rfl, rfl, rfl⟩ := hgoes.eq_of_exponent_lt h hless hclose hbelow
    rw [zpow_sub_one₀ two_ne_zero]
    push_cast
    ring
  · rw [hgoes.unique m hclose]

end Close

/-! ## 5. Numbers that are kept -/

theorem nearestDouble_neg (x : ℚ) : nearestDouble (-x) = -nearestDouble x := by
  unfold nearestDouble
  rw [Rat.neg_num, Rat.neg_den, Int.natAbs_neg]
  rcases lt_trichotomy x.num 0 with hneg | hzero | hpos
  · rw [if_neg (by omega), if_neg (by omega)]
    dsimp only
    rw [if_neg (by omega), if_pos hneg, neg_neg]
  · rw [hzero]
    rfl
  · rw [if_neg (by omega), if_neg (by omega)]
    dsimp only
    rw [if_pos (by omega), if_neg (by omega)]

/-- **Naturals of 53 binary digits are kept.** -/
theorem nearestDouble_natCast {n : ℕ} (h : n < 2 ^ 53) : nearestDouble n = n := by
  rcases n.eq_zero_or_pos with rfl | hpos
  · rfl
  obtain ⟨m, e, hm, hgoes⟩ := nearestDouble_spec (Nat.cast_pos.mpr hpos)
  -- with 53 digits before the point there are whole units of the exponent
  have he : e ≤ 0 := by
    rcases hgoes.normal with rfl | hnormal
    · decide
    · by_contra hmore
      have hpow : (2 : ℚ) ^ (1 : ℤ) ≤ 2 ^ e := zpow_le_zpow_right₀ one_le_two (by omega)
      have hlt : (n : ℚ) < 2 ^ 53 := by exact_mod_cast h
      rw [zpow_one] at hpow
      linarith
  obtain ⟨k, rfl⟩ : ∃ k : ℕ, e = -k := ⟨e.natAbs, by omega⟩
  have hunits : ((n * 2 ^ k : ℕ) : ℚ) * 2 ^ (-(k : ℤ)) = n := by
    push_cast
    rw [zpow_neg, zpow_natCast, mul_assoc, mul_inv_cancel₀ (by positivity), mul_one]
  have hexact : m = n * 2 ^ k := by
    refine hgoes.unique _ ?_
    rw [hunits, sub_self, abs_zero]
    positivity
  rw [hm, hexact, hunits]

/-- A positive rational that double precision keeps, and below the bound. -/
structure IsPosDouble (x : ℚ) : Prop where
  pos : 0 < x
  kept : nearestDouble x = x
  small : x < 2 ^ 1024

/-- **A number that is kept** has 53 digits, or fewer at the least exponent. -/
theorem IsPosDouble.exists_normal {x : ℚ} (h : IsPosDouble x) :
    ∃ (m : ℕ) (e : ℤ), x = m * 2 ^ e ∧ IsNormal m e := by
  obtain ⟨m, e, hx, hgoes⟩ := nearestDouble_spec h.pos
  have hpow : (0 : ℚ) < 2 ^ e := by positivity
  rw [h.kept] at hx
  have hlt := hgoes.lt
  rw [hx] at hlt
  refine ⟨m, e, hx, ?_, ?_, hgoes.least_le, hgoes.normal.imp_right fun hle => ?_⟩
  · have hpos : (0 : ℚ) < m := (mul_pos_iff_of_pos_right hpow).mp (hx ▸ h.pos)
    exact_mod_cast hpos
  · exact_mod_cast lt_of_mul_lt_mul_right hlt hpow.le
  · rw [hx] at hle
    exact_mod_cast le_of_mul_le_mul_right hle hpow

/-- What goes to a number that is kept is neither too small nor too large. -/
theorem bounds_of_nearestDouble {x y : ℚ} (hx : IsPosDouble x) (hy : 0 < y)
    (h : nearestDouble y = x) : (2 : ℚ) ^ (-1075 : ℤ) ≤ y ∧ y < 2 ^ 1025 := by
  obtain ⟨m, e, hm, hgoes⟩ := nearestDouble_spec hy
  have hpow : (2 : ℚ) ^ leastExponent ≤ 2 ^ e := zpow_le_zpow_right₀ one_le_two hgoes.least_le
  have hhalf : (2 : ℚ) ^ leastExponent = 2 ^ (-1075 : ℤ) * 2 := by
    rw [← zpow_add_one₀ two_ne_zero]
    rfl
  rw [h] at hm
  constructor
  · by_contra hless
    have hzero : m = 0 := hgoes.unique 0 (by
      rw [Nat.cast_zero, zero_mul, sub_zero, abs_of_pos hy]
      linarith)
    rw [hzero, Nat.cast_zero, zero_mul] at hm
    exact hx.pos.ne' hm
  · by_contra hmore
    have hsmall := hx.small
    have hdouble : (2 : ℚ) ^ 1025 = 2 ^ 1024 * 2 := pow_succ 2 1024
    have hone : (1 : ℚ) ≤ 2 ^ 1024 := one_le_pow₀ one_le_two
    have hleast : (2 : ℚ) ^ 53 * 2 ^ leastExponent ≤ 1 := by
      rw [← zpow_natCast, ← zpow_add₀ two_ne_zero]
      exact zpow_le_one_of_nonpos₀ one_le_two (by decide)
    generalize (2 : ℚ) ^ 1025 = c at hmore hdouble
    generalize (2 : ℚ) ^ 1024 = b at hsmall hdouble hone
    have hnormal : 2 ^ 52 * 2 ^ e ≤ y := hgoes.normal.resolve_left fun heq => by
      have hlt := hgoes.lt
      rw [heq] at hlt
      linarith
    have hnear := (abs_le.mp hgoes.near).1
    rw [← hm] at hnear
    linarith

end Worklog.Number
