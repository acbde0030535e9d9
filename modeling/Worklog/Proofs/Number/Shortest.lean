import Mathlib.Data.List.TakeWhile
import Worklog.Number.Figure
import Worklog.Proofs.Number.Double
import Worklog.Proofs.Text.Digits

/-!
# The shortest digits of a number

Seventeen digits are enough to tell a number of binary64 from all others, so among the decimals with
up to seventeen digits there is one that goes to it. From that decimal the number is read back.

* `Figure.magnitude_le`: a number is no smaller than the power of ten of its first digit;
* `Figure.exists_onGrid`: **seventeen digits are enough**;
* `Figure.Names`: digits with an exponent that go to a number;
* **`Figure.names_shortestDigits`**: the shortest digits do;
* **`Figure.nearestDecimal_eq`**: and a decimal that goes to a number is read as it.
-/

namespace Worklog.Figure

open Worklog.Number Text

/-! ## 1. Powers of ten -/

theorem decimal_eq (n : Nat) (k : Int) : decimal n k = n * 10 ^ k := by
  unfold decimal
  split
  next hk =>
    obtain ⟨j, rfl⟩ : ∃ j : Nat, k = -j := ⟨k.natAbs, by omega⟩
    rw [Int.natAbs_neg, Int.natAbs_natCast, zpow_neg, zpow_natCast, Rat.mkRat_eq_div]
    push_cast [Nat.pow_eq]
    field_simp
  next hk =>
    obtain ⟨j, rfl⟩ : ∃ j : Nat, k = j := ⟨k.natAbs, by omega⟩
    rw [Int.natAbs_natCast, zpow_natCast, Rat.mkRat_eq_div]
    push_cast [Nat.pow_eq]
    field_simp

/-- A positive number as a fraction of naturals. -/
theorem natAbs_div_den {x : ℚ} (hx : 0 < x) : (x.num.natAbs : ℚ) / x.den = x := by
  rw [Nat.cast_natAbs, abs_of_pos (Rat.num_pos.mpr hx)]
  exact Rat.num_div_den x

theorem inPowersOfTen_spec {x : ℚ} (hx : 0 < x) (k : Int) : 0 < (inPowersOfTen x k).2 ∧
    ((inPowersOfTen x k).1 : ℚ) / (inPowersOfTen x k).2 = x / 10 ^ k := by
  have hquotient := natAbs_div_den hx
  unfold inPowersOfTen
  split
  next hk =>
    obtain ⟨j, rfl⟩ : ∃ j : Nat, k = -j := ⟨k.natAbs, by omega⟩
    refine ⟨x.den_pos, ?_⟩
    rw [Int.natAbs_neg, Int.natAbs_natCast, zpow_neg, zpow_natCast, div_inv_eq_mul]
    push_cast [Nat.pow_eq]
    rw [mul_div_right_comm, hquotient]
  next hk =>
    obtain ⟨j, rfl⟩ : ∃ j : Nat, k = j := ⟨k.natAbs, by omega⟩
    refine ⟨Nat.mul_pos x.den_pos (Nat.pow_pos (by decide)), ?_⟩
    rw [Int.natAbs_natCast, zpow_natCast]
    push_cast [Nat.pow_eq]
    rw [← div_div, hquotient]

/-- A natural with some digits lies between two powers of ten. -/
theorem bounds_of_length {n : Nat} (hn : 0 < n) :
    (10 : ℚ) ^ ((toString n).length - 1 : ℤ) ≤ n ∧ (n : ℚ) < 10 ^ ((toString n).length : ℤ) := by
  have hlength : (toString n).length = (ofNat n).length := String.length_toList.symm
  obtain ⟨l, hl⟩ : ∃ l, (ofNat n).length = l + 1 :=
    Nat.exists_eq_succ_of_ne_zero (List.length_pos_iff.mpr (ofNat_ne_nil n)).ne'
  have hlt : n < 10 ^ (l + 1) := (length_ofNat_le_iff (Nat.succ_pos l)).mp hl.le
  have hle : 10 ^ l ≤ n := by
    rcases Nat.eq_zero_or_pos l with rfl | hpos
    · exact hn
    · refine Nat.le_of_not_lt fun hless => ?_
      have := (length_ofNat_le_iff hpos).mpr hless
      omega
  rw [hlength, hl]
  push_cast
  rw [add_sub_cancel_right]
  exact ⟨by exact_mod_cast hle, by exact_mod_cast hlt⟩

/-- **The first digit of a number** stands for no more than the number. -/
theorem magnitude_le {x : ℚ} (hx : 0 < x) : (10 : ℚ) ^ magnitude x ≤ x := by
  have hnum : 0 < x.num.natAbs := Int.natAbs_pos.mpr (Rat.num_pos.mpr hx).ne'
  have hden : (0 : ℚ) < x.den := Nat.cast_pos.mpr x.den_pos
  let guess : Int := ((toString x.num.natAbs).length : Int) - (toString x.den).length
  obtain ⟨hb, hquotient⟩ := inPowersOfTen_spec hx guess
  have hpow : (0 : ℚ) < 10 ^ guess := by positivity
  by_cases hless : (inPowersOfTen x guess).1 < (inPowersOfTen x guess).2
  · have hguess : magnitude x = guess - 1 := if_pos hless
    have hle := (bounds_of_length hnum).1
    have hlt := (bounds_of_length x.den_pos).2
    have hten : (10 : ℚ) ^ (guess - 1) * 10 ^ ((toString x.den).length : ℤ) =
        10 ^ ((toString x.num.natAbs).length - 1 : ℤ) := by
      have hguess : guess - 1 + (toString x.den).length = (toString x.num.natAbs).length - 1 := by
        omega
      rw [← zpow_add₀ (by norm_num), hguess]
    have hprod : (10 : ℚ) ^ (guess - 1) * x.den ≤ x.num.natAbs :=
      calc (10 : ℚ) ^ (guess - 1) * x.den
          ≤ 10 ^ (guess - 1) * 10 ^ ((toString x.den).length : ℤ) := by gcongr
        _ = 10 ^ ((toString x.num.natAbs).length - 1 : ℤ) := hten
        _ ≤ x.num.natAbs := hle
    rwa [hguess, ← natAbs_div_den hx, le_div_iff₀ hden]
  · have hguess : magnitude x = guess := if_neg hless
    rw [hguess, ← one_le_div₀ hpow, ← hquotient, one_le_div₀ (Nat.cast_pos.mpr hb)]
    exact_mod_cast Nat.le_of_not_lt hless

/-! ## 2. Seventeen digits -/

/-- What is found on a grid goes to the number. -/
theorem of_onGrid {x : ℚ} {k : Int} {count n : Nat} {unit : Int}
    (h : onGrid x k count = some (n, unit)) : nearestDouble (n * 10 ^ unit) = x := by
  obtain ⟨m, -, hm⟩ := List.exists_of_findSome?_eq_some h
  split at hm
  next heq =>
    cases hm
    rwa [decimal_eq] at heq
  next => cases hm

/-- **A decimal of seventeen digits is closer** to a number than the neighbours of the number. -/
theorem nearestDouble_nearestNat {x : ℚ} (hx : IsPosDouble x) {k : Int} (hk : (10 : ℚ) ^ k ≤ x) :
    nearestDouble (nearestNat (inPowersOfTen x (k - 16)).1 (inPowersOfTen x (k - 16)).2 *
      10 ^ (k - 16)) = x := by
  obtain ⟨m, e, rfl, hnormal⟩ := hx.exists_normal
  obtain ⟨hb, hquotient⟩ := inPowersOfTen_spec hx.pos (k - 16)
  have hnear := abs_nearestNat_sub_le (inPowersOfTen (m * 2 ^ e) (k - 16)).1 hb
  generalize nearestNat (inPowersOfTen (m * 2 ^ e) (k - 16)).1
    (inPowersOfTen (m * 2 ^ e) (k - 16)).2 = n at hnear ⊢
  have hunit : (0 : ℚ) < 10 ^ (k - 16) := by positivity
  have hpow : (0 : ℚ) < 2 ^ e := by positivity
  rw [hquotient, abs_sub_comm, abs_div_sub _ _ hunit, div_le_iff₀ hunit, abs_sub_comm] at hnear
  -- a unit of the last digit against a unit of the last binary digit
  have hten : (10 : ℚ) ^ k = 10 ^ (k - 16) * 10 ^ 16 := by
    have hk : k - 16 + (16 : ℕ) = k := by omega
    rw [← zpow_natCast, ← zpow_add₀ (by norm_num), hk]
  rw [hten] at hk
  have hm : (m : ℚ) < 2 ^ 53 := by exact_mod_cast hnormal.lt
  have hprod : (m : ℚ) * 2 ^ e < 2 ^ 53 * 2 ^ e := mul_lt_mul_of_pos_right hm hpow
  obtain ⟨hlow, hhigh⟩ := abs_le.mp hnear
  refine nearestDouble_eq hnormal ?_ ?_ fun hleast => ?_
  · linarith
  · linarith
  · rw [hleast] at hk hnear ⊢
    push_cast at hk hnear ⊢
    linarith

/-- **Seventeen digits are enough.** -/
theorem exists_onGrid {x : ℚ} (hx : IsPosDouble x) {k : Int} (hk : (10 : ℚ) ^ k ≤ x) :
    ∃ n unit, onGrid x k 17 = some (n, unit) := by
  have h := nearestDouble_nearestNat hx hk
  have hunit : k - (17 : Nat) + 1 = k - 16 := by omega
  refine ⟨nearestNat (inPowersOfTen x (k - 16)).1 (inPowersOfTen x (k - 16)).2, k - 16, ?_⟩
  unfold onGrid
  dsimp only
  rw [hunit, List.findSome?_cons, decimal_eq, if_pos h]

/-- A decimal that goes to a positive number is positive. -/
theorem pos_of_nearestDouble {x : ℚ} (hx : IsPosDouble x) {n : Nat} {k : Int}
    (h : nearestDouble (n * 10 ^ k) = x) : 0 < n := by
  refine Nat.pos_of_ne_zero fun hzero => hx.pos.ne' ?_
  rw [hzero, Nat.cast_zero, zero_mul] at h
  exact h.symm

/-! ## 3. Shortest digits -/

/-- **Digits that name a number**: the first one is no zero and stands for `10 ^ k`, and the decimal
    goes to the number. -/
structure Names (digits : Text) (k : Int) (x : ℚ) : Prop where
  isDigits : IsDigits digits
  head : ∃ d rest, digits = d :: rest ∧ d ≠ '0'
  goesTo : nearestDouble (numeral digits * 10 ^ (k + 1 - digits.length)) = x

/-- The zeros at the end are taken away. -/
theorem dropZeros_append (t : Text) : ∃ n, dropZeros t ++ List.replicate n '0' = t := by
  let isZero := fun c : Char => c == '0'
  have hsplit : t.reverse.takeWhile isZero ++ t.reverse.dropWhile isZero = t.reverse :=
    List.takeWhile_append_dropWhile
  have hzeros : ∀ c ∈ t.reverse.takeWhile isZero, c = '0' := fun c hc => by
    have hzero : isZero c = true := List.mem_takeWhile_imp hc
    exact beq_iff_eq.mp hzero
  refine ⟨(t.reverse.takeWhile isZero).length, ?_⟩
  rw [← List.reverse_inj, List.reverse_append, List.reverse_replicate,
    ← List.eq_replicate_of_mem hzeros]
  exact (congrArg _ (List.reverse_reverse _)).trans hsplit

theorem names_dropZeros {n : Nat} {unit : Int} {x : ℚ} (hx : IsPosDouble x)
    (h : nearestDouble (n * 10 ^ unit) = x) :
    Names (dropZeros (ofNat n)) (unit + (ofNat n).length - 1) x := by
  have hn : n ≠ 0 := (pos_of_nearestDouble hx h).ne'
  obtain ⟨zeros, hzeros⟩ := dropZeros_append (ofNat n)
  have hlength := congrArg List.length hzeros
  have hnumeral := congrArg numeral hzeros
  rw [List.length_append, List.length_replicate] at hlength
  rw [numeral_append_zeros, numeral_ofNat] at hnumeral
  refine ⟨fun c hc => isDigits_ofNat n c (hzeros ▸ List.mem_append_left _ hc), ?_, ?_⟩
  · cases hd : dropZeros (ofNat n) with
    | nil =>
        rw [hd, numeral_nil, Nat.zero_mul] at hnumeral
        exact absurd hnumeral.symm hn
    | cons d rest =>
        refine ⟨d, rest, rfl, fun hzero => head?_ofNat hn ?_⟩
        rw [← hzeros, hd, hzero]
        rfl
  · have hexponent : unit + (ofNat n).length - 1 + 1 - (dropZeros (ofNat n)).length =
        zeros + unit := by omega
    rw [hexponent, zpow_add₀ (by norm_num), zpow_natCast, ← mul_assoc]
    rw [← hnumeral] at h
    push_cast at h
    exact h

/-- **The shortest digits of a number name it.** -/
theorem names_shortestDigits {x : ℚ} (hx : IsPosDouble x) :
    Names (shortestDigits x).1 (shortestDigits x).2 x := by
  obtain ⟨n', unit', henough⟩ := exists_onGrid hx (magnitude_le hx.pos)
  have hsome :
      ((List.range 17).findSome? fun i => onGrid x (magnitude x) (i + 1)).isSome = true := by
    rw [List.findSome?_isSome_iff]
    exact ⟨16, List.mem_range.mpr (by decide), by rw [henough]; rfl⟩
  obtain ⟨⟨n, unit⟩, hfound⟩ := Option.isSome_iff_exists.mp hsome
  obtain ⟨i, -, hgrid⟩ := List.exists_of_findSome?_eq_some hfound
  unfold shortestDigits
  dsimp only
  rw [hfound]
  exact names_dropZeros hx (of_onGrid hgrid)

/-! ## 4. What is read -/

theorem bound_double : Precision.double.bound = some (2 ^ 1024) := by
  have hcast : ∀ n : Nat, ((Nat.pow 2 n : Nat) : ℚ) = 2 ^ n := fun n => by
    rw [Nat.pow_eq, Nat.cast_pow, Nat.cast_ofNat]
  unfold Precision.double
  -- the power stays a power
  generalize 1024 = n
  exact congrArg some (hcast n)

/-- What is kept of a positive rational that goes to a number. -/
theorem quantity_double {x y : ℚ} (hx : IsPosDouble x) (h : nearestDouble y = x) :
    Precision.double.quantity y = .finite x := by
  have hkeep : Precision.double.keep y = x := h
  have hmagnitude : Precision.magnitude x = x := if_neg hx.pos.not_gt
  have hsmall : (Precision.double.bound.any fun b => decide (b ≤ x)) = false := by
    rw [bound_double]
    exact decide_eq_false hx.small.not_ge
  unfold Precision.quantity
  dsimp only
  rw [hkeep, hmagnitude, hsmall, if_neg Bool.false_ne_true, if_neg fun h => hx.pos.ne' h.1]

/-- The magnitude of a rational that double precision keeps. -/
theorem isPosDouble_abs {x : ℚ} (hx : x ≠ 0) (h : Precision.double.quantity x = .finite x) :
    IsPosDouble |x| := by
  have hmagnitude : ∀ y : ℚ, Precision.magnitude y = |y| := fun y => by
    unfold Precision.magnitude
    split
    next hneg => exact (abs_of_neg hneg).symm
    next hpos => exact (abs_of_nonneg (not_lt.mp hpos)).symm
  unfold Precision.quantity at h
  dsimp only at h
  split at h
  next => cases h
  next hsmall =>
    split at h
    next => cases h
    next =>
      have hkeep : nearestDouble x = x := Quantity.finite.inj h
      rw [bound_double, show Precision.double.keep x = x from hkeep, hmagnitude] at hsmall
      refine ⟨abs_pos.mpr hx, ?_, not_le.mp fun hle => hsmall (decide_eq_true hle)⟩
      rcases abs_choice x with habs | habs
      · rw [habs, hkeep]
      · rw [habs, nearestDouble_neg, hkeep]

theorem two_pow_le_ten_pow : (2 : ℚ) ^ 1075 ≤ 10 ^ 400 :=
  calc (2 : ℚ) ^ 1075 ≤ 2 ^ (3 * 400) := pow_le_pow_right₀ one_le_two (by decide)
    _ = (2 ^ 3) ^ 400 := pow_mul 2 3 400
    _ ≤ 10 ^ 400 := pow_le_pow_left₀ (by norm_num) (by norm_num) 400

/-- A decimal that goes to a number is neither too small nor too large to be carried out. -/
theorem exponent_bounds {x : ℚ} (hx : IsPosDouble x) {n : Nat} {k : Int} (hn : 0 < n)
    (h : nearestDouble (n * 10 ^ k) = x) :
    -greatestPower ≤ k + (Nat.log2 n + 1 : Nat) ∧ k ≤ greatestPower := by
  have hn' : (1 : ℚ) ≤ n := by exact_mod_cast hn
  have hpow : (0 : ℚ) < 10 ^ k := by positivity
  obtain ⟨hlow, hhigh⟩ := bounds_of_nearestDouble hx (by positivity) h
  constructor
  · by_contra hless
    have hlog : (n : ℚ) < 10 ^ (Nat.log2 n + 1) := by
      have hten : 2 ^ (Nat.log2 n + 1) ≤ 10 ^ (Nat.log2 n + 1) := Nat.pow_le_pow_left (by decide) _
      exact_mod_cast Nat.lt_log2_self.trans_le hten
    have hprod : (n : ℚ) * 10 ^ k < 10 ^ (k + (Nat.log2 n + 1 : Nat)) := by
      rw [add_comm k, zpow_add₀ (by norm_num), zpow_natCast]
      exact mul_lt_mul_of_pos_right hlog hpow
    have htiny : (10 : ℚ) ^ (k + (Nat.log2 n + 1 : Nat)) ≤ 10 ^ (-greatestPower) :=
      zpow_le_zpow_right₀ (by norm_num) (by omega)
    have hleast : (10 : ℚ) ^ (-greatestPower) ≤ 2 ^ (-1075 : ℤ) := by
      rw [zpow_neg, zpow_neg]
      exact inv_anti₀ (by positivity) two_pow_le_ten_pow
    exact ((hprod.trans_le htiny).trans_le (hleast.trans hlow)).false
  · by_contra hmore
    have hgreat : (10 : ℚ) ^ greatestPower ≤ 10 ^ k :=
      zpow_le_zpow_right₀ (by norm_num) (by omega)
    have hprod : (10 : ℚ) ^ k ≤ n * 10 ^ k := le_mul_of_one_le_left hpow.le hn'
    have htwo : (2 : ℚ) ^ 1025 ≤ 2 ^ 1075 := pow_le_pow_right₀ one_le_two (by decide)
    exact (hhigh.trans_le ((htwo.trans two_pow_le_ten_pow).trans (hgreat.trans hprod))).false

/-- **The number that a decimal goes to**, with a sign. -/
theorem nearestDecimal_eq {x : ℚ} (hx : IsPosDouble x) {n : Nat} {k : Int}
    (h : nearestDouble (n * 10 ^ k) = x) (negative : Bool) :
    nearestDecimal negative n k = .finite (if negative then -x else x) := by
  have hn : 0 < n := pos_of_nearestDouble hx h
  obtain ⟨hleast, hgreatest⟩ := exponent_bounds hx hn h
  have hfar : (decide (n = 0) || decide (k + (Nat.log2 n + 1 : Nat) < -greatestPower)) = false := by
    rw [decide_eq_false hn.ne', decide_eq_false hleast.not_gt]
    rfl
  unfold nearestDecimal
  rw [hfar, if_neg Bool.false_ne_true, min_eq_left hgreatest, decimal_eq, quantity_double hx h]
  dsimp only
  rw [if_neg hx.pos.ne']
  cases negative with
  | false => rfl
  | true => simp [Quantity.neg, hx.pos.ne']

end Worklog.Figure
