import Mathlib.Data.List.Basic
import Mathlib.Data.List.Induction
import Mathlib.Tactic.Ring
import Worklog.Text.Digit
import Worklog.Text.Quoted

/-!
# Numbers written in digits

A number written in decimal digits is read back by `Text.numeral`, and so it is with zeros in front
or behind. Digits of any base may be taken off one by one from the end.

* `Text.IsDigits`: texts of ASCII digits, `Text.IsDigits.takeWhile`: where they end;
* `Text.numeral_append`, `Text.numeral_zeros`: numbers written one after the other;
* **`Text.numeral_ofNat`**, **`Text.numeral_padded`**: what is written is read back;
* `Text.padded_succ`: the last digit of a number.
-/

namespace Worklog.Text

/-! ## 1. Runs of digits -/

/-- A text of ASCII digits. -/
def IsDigits (t : Text) : Prop := ∀ c ∈ t, isAsciiDigit c = true

theorem isAsciiDigit_iff {c : Char} : isAsciiDigit c = true ↔ 48 ≤ c.toNat ∧ c.toNat ≤ 57 := by
  unfold isAsciiDigit
  rw [Bool.and_eq_true, decide_eq_true_iff, decide_eq_true_iff]

/-- A run of characters that pass a test ends at one that does not. -/
theorem span_append {test : Char → Bool} {s t : Text} (hs : ∀ c ∈ s, test c = true)
    (ht : ∀ c, t.head? = some c → test c = false) :
    (s ++ t).takeWhile test = s ∧ (s ++ t).dropWhile test = t := by
  rw [List.takeWhile_append_of_pos hs, List.dropWhile_append_of_pos hs]
  cases t with
  | nil => simp
  | cons c t =>
      have hc := ht c rfl
      simp [hc]

/-- A digit is none of the other characters. -/
theorem ne_of_isAsciiDigit {c d : Char} (hc : isAsciiDigit c = true)
    (hd : isAsciiDigit d = false) : c ≠ d := fun h => by
  rw [h, hd] at hc
  cases hc

/-- The value of an ASCII digit. -/
theorem digitValue_of_isAsciiDigit {c : Char} (h : isAsciiDigit c = true) :
    digitValue c = c.toNat - 48 := by
  obtain ⟨hle, hlt⟩ := isAsciiDigit_iff.mp h
  have hrow : (decide (0x30 ≤ c.toNat) && decide (c.toNat < 0x30 + 10)) = true := by simp; omega
  have hfirst : digitZeros = 0x30 :: digitZeros.tail := rfl
  unfold digitValue digitValue?
  rw [hfirst, List.find?_cons, hrow]
  rfl

theorem isAsciiDigit_digitChar {n : Nat} (h : n < 10) : isAsciiDigit n.digitChar = true := by
  rw [isAsciiDigit_iff, Nat.toNat_digitChar_of_lt_ten h]
  omega

theorem digitValue_digitChar {n : Nat} (h : n < 10) : digitValue n.digitChar = n := by
  rw [digitValue_of_isAsciiDigit (isAsciiDigit_digitChar h), Nat.toNat_digitChar_of_lt_ten h]
  omega

namespace IsDigits

variable {s t : Text}

theorem append (hs : IsDigits s) (ht : IsDigits t) : IsDigits (s ++ t) := fun c hc =>
  (List.mem_append.mp hc).elim (hs c) (ht c)

theorem zeros (n : Nat) : IsDigits (List.replicate n '0') := fun c hc => by
  rw [List.eq_of_mem_replicate hc]
  decide

/-- A character that is no digit ends a run of digits. -/
theorem takeWhile (hs : IsDigits s) (ht : ∀ c, t.head? = some c → isAsciiDigit c = false) :
    (s ++ t).takeWhile isAsciiDigit = s ∧ (s ++ t).dropWhile isAsciiDigit = t := span_append hs ht

end IsDigits

/-! ## 2. Numbers -/

/-- **Numbers written one after the other.** -/
theorem numeral_append (s t : Text) :
    numeral (s ++ t) = numeral s * 10 ^ t.length + numeral t := by
  induction t using List.reverseRecOn with
  | nil => simp
  | append_singleton t c ih =>
      rw [← List.append_assoc, numeral_append_digit, numeral_append_digit, ih, List.length_append,
        List.length_singleton]
      ring

theorem numeral_zeros (n : Nat) : numeral (List.replicate n '0') = 0 := by
  induction n with
  | zero => rfl
  | succ n ih =>
      rw [List.replicate_succ', numeral_append_digit, ih]
      rfl

/-- Zeros in front change nothing. -/
theorem numeral_zeros_append (n : Nat) (t : Text) :
    numeral (List.replicate n '0' ++ t) = numeral t := by
  rw [numeral_append, numeral_zeros, Nat.zero_mul, Nat.zero_add]

/-- Zeros behind are powers of ten. -/
theorem numeral_append_zeros (t : Text) (n : Nat) :
    numeral (t ++ List.replicate n '0') = numeral t * 10 ^ n := by
  rw [numeral_append, numeral_zeros, List.length_replicate, Nat.add_zero]

theorem digitValue_lt (c : Char) : digitValue c < 10 := by
  unfold digitValue
  cases h : digitValue? c with
  | none => decide
  | some n => exact digitValue?_lt h

/-- A number has no more digits than are written. -/
theorem numeral_lt (t : Text) : numeral t < 10 ^ t.length := by
  induction t using List.reverseRecOn with
  | nil => decide
  | append_singleton t c ih =>
      have hdigit := digitValue_lt c
      rw [numeral_append_digit, List.length_append, List.length_singleton, Nat.pow_succ]
      omega

/-! ## 3. What is written -/

theorem ofNat_eq (n : Nat) : ofNat n = Nat.toDigits 10 n := by
  unfold ofNat
  rw [Nat.toString_eq_repr, Nat.toList_repr]

theorem ofNat_of_lt {n : Nat} (h : n < 10) : ofNat n = [n.digitChar] := by
  rw [ofNat_eq, Nat.toDigits_of_lt_base h]

theorem ofNat_of_le {n : Nat} (h : 10 ≤ n) : ofNat n = ofNat (n / 10) ++ [(n % 10).digitChar] := by
  rw [ofNat_eq, ofNat_eq, Nat.toDigits_of_base_le (by decide) h]

theorem ofNat_ne_nil (n : Nat) : ofNat n ≠ [] := by
  rw [ofNat_eq]
  exact Nat.toDigits_ne_nil

theorem isDigits_ofNat (n : Nat) : IsDigits (ofNat n) := by
  induction n using Nat.strong_induction_on with
  | _ n ih =>
      by_cases hn : n < 10
      · rw [ofNat_of_lt hn]
        exact fun c hc => List.mem_singleton.mp hc ▸ isAsciiDigit_digitChar hn
      · rw [ofNat_of_le (Nat.le_of_not_lt hn)]
        refine (ih (n / 10) (by omega)).append fun c hc => ?_
        exact List.mem_singleton.mp hc ▸ isAsciiDigit_digitChar (Nat.mod_lt n (by decide))

/-- **A number is read back.** -/
theorem numeral_ofNat (n : Nat) : numeral (ofNat n) = n := by
  induction n using Nat.strong_induction_on with
  | _ n ih =>
      by_cases hn : n < 10
      · rw [ofNat_of_lt hn]
        show 10 * 0 + digitValue n.digitChar = n
        rw [digitValue_digitChar hn]
        omega
      · rw [ofNat_of_le (Nat.le_of_not_lt hn), numeral_append_digit, ih (n / 10) (by omega),
          digitValue_digitChar (Nat.mod_lt n (by decide))]
        omega

/-- A number is not written with a zero in front, unless it is zero. -/
theorem head?_ofNat {n : Nat} (h : n ≠ 0) : (ofNat n).head? ≠ some '0' := by
  induction n using Nat.strong_induction_on with
  | _ n ih =>
      by_cases hn : n < 10
      · rw [ofNat_of_lt hn]
        simpa using h
      · rw [ofNat_of_le (Nat.le_of_not_lt hn), List.head?_append_of_ne_nil _ (ofNat_ne_nil _)]
        exact ih (n / 10) (by omega) (by omega)

theorem length_ofNat_le_iff {n width : Nat} (h : 0 < width) :
    (ofNat n).length ≤ width ↔ n < 10 ^ width := by
  rw [ofNat_eq]
  exact Nat.length_toDigits_le_iff (by decide) h

/-! ## 4. What is written with zeros in front -/

theorem length_padLeft {width : Nat} {t : Text} (fill : Char) (h : t.length ≤ width) :
    (padLeft width fill t).length = width := by
  unfold padLeft
  rw [List.length_append, List.length_replicate]
  omega

/-- **The last digit of a number** in any base, where the number is filled up with zeros. -/
theorem padded_succ {base width n : Nat} (hb : 1 < base) (hw : 0 < width) :
    padLeft (width + 1) '0' (Nat.toDigits base n) =
      padLeft width '0' (Nat.toDigits base (n / base)) ++ [(n % base).digitChar] := by
  unfold padLeft
  by_cases hn : n < base
  · have hzeros : List.replicate (width - 1) '0' ++ ['0'] = List.replicate width '0' := by
      rw [← List.replicate_succ', Nat.sub_add_cancel hw]
    rw [Nat.toDigits_of_lt_base hn, Nat.div_eq_of_lt hn, Nat.mod_eq_of_lt hn, Nat.toDigits_zero]
    simp only [List.length_singleton, Nat.add_sub_cancel, hzeros]
  · rw [Nat.toDigits_of_base_le hb (Nat.le_of_not_lt hn), List.length_append,
      List.length_singleton, Nat.add_sub_add_right, List.append_assoc]

section Padded

variable {width n : Nat}

theorem length_padded (hw : 0 < width) (h : n < 10 ^ width) :
    (ofNatPadded width n).length = width :=
  length_padLeft '0' ((length_ofNat_le_iff hw).mpr h)

theorem isDigits_padded : IsDigits (ofNatPadded width n) :=
  (IsDigits.zeros _).append (isDigits_ofNat n)

/-- **A number with zeros in front is read back.** -/
theorem numeral_padded : numeral (ofNatPadded width n) = n :=
  (numeral_zeros_append _ _).trans (numeral_ofNat n)

theorem padded_ne_nil : ofNatPadded width n ≠ [] := fun h =>
  ofNat_ne_nil n (List.append_eq_nil_iff.mp h).2

end Padded

end Worklog.Text
