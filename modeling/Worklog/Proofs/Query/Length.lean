import Worklog.Proofs.Number.Double
import Worklog.Proofs.Query.Duration
import Worklog.Proofs.Text.Origin

/-!
# Lengths of time in whole numbers

A run of nine digits writes a number below a thousand millions. So a length in whole numbers is far
from the end of what double precision keeps, and is read exactly, whatever script its digits are in.

* `Duration.numeral_lt_of_isRun`: how large a run of digits can be;
* `Duration.parse_compound`, `Duration.parse_unit`, `Duration.parse_minutes`: what is read of each
  shape;
* **`Duration.parse_exact`**: what can be read at all, and which number of seconds it is.
-/

namespace Worklog.Duration

open Worklog.Text

variable {n hours minutes t : Text} {p : Precision}

/-! ## 1. Whole numbers -/

theorem numeral_lt_of_isRun {least : Nat} (h : IsRun least n) : numeral n < 10 ^ 9 :=
  Nat.lt_of_lt_of_le (numeral_lt n) (Nat.pow_le_pow_right (by decide) h.le_nine)

theorem keep_natCast {k : Nat} (h : k < 2 ^ 53) : Precision.double.keep k = k :=
  Number.nearestDouble_natCast h

theorem mul_natCast {j k : Nat} (h : j * k < 2 ^ 53) :
    Precision.double.mul j k = (j * k : Nat) := by
  rw [Precision.mul, ← Nat.cast_mul, keep_natCast h]

/-- A number without decimals is a whole number. -/
theorem decimal_whole {least : Nat} (h : IsRun least n) : decimal .double n [] = numeral n := by
  have hlt := numeral_lt_of_isRun h
  have hwhole : Figure.decimal (numeral (n ++ [])) (-(([] : Text).length : Int)) = numeral n := by
    simp [Figure.decimal, Rat.mkRat_one]
  rw [decimal, hwhole, keep_natCast (by omega)]

/-! ## 2. Readings -/

/-- A length that is written in lower case and without blanks is what is looked at. -/
theorem IsLength.lower_strip (h : IsLength t) : lower (strip t) = t := by
  have hparts := h.isPart
  have hstays : ∀ c ∈ t, Text.stays c = true := by
    have hletters : ∀ c ∈ ['h', 'm', 's', '.'], Text.stays c = true := forall_mem_of_all (by decide)
    intro c hc
    rcases Bool.or_eq_true _ _ ▸ hparts c hc with hdigit | hletter
    · exact stays_of_isDigit hdigit
    · exact hletters c (List.contains_iff_mem.mp hletter)
  rw [strip_of_forall fun c hc => (isPart_spec (hparts c hc)).1, lower_of_stays hstays]

theorem parse_eq {u : Text} (h : lower (strip t) = u) :
    parse p t = (readCompound? p u).or ((readUnit? p u).or (readMinutes? p u)) := by
  rw [← h]
  rfl

/-- Hours and minutes take three characters behind the hours. -/
theorem readCompound?_eq_none {rest : Text} (hn : IsRun 1 n) (hrest : Ends rest)
    (hshort : rest.length ≤ 1) : readCompound? p (n ++ rest) = none := by
  rw [Option.eq_none_iff_forall_ne_some]
  intro s hs
  obtain ⟨hours, minutes, hhours, -, hsplit⟩ := exists_of_readCompound hs
  have hh : ∀ c, ('h' :: (minutes ++ ['m'])).head? = some c → isDigit c = false := by
    rintro c ⟨⟩
    decide
  have hspan := spanDigits_append hn fun c hc => (hrest c hc).1
  rw [hsplit, spanDigits_append hhours hh] at hspan
  obtain ⟨-, rfl⟩ := Prod.mk.inj hspan
  simp at hshort

/-- **Hours and minutes.** -/
theorem parse_compound (hhours : IsRun 1 hours) (hminutes : IsRun 1 minutes)
    (h : lower (strip t) = hours ++ 'h' :: (minutes ++ ['m'])) :
    parse .double t = some ((3600 * numeral hours + 60 * numeral minutes : Nat) : Rat) := by
  have hlt := numeral_lt_of_isRun hhours
  have hlt' := numeral_lt_of_isRun hminutes
  rw [parse_eq h, readCompound?_eq hhours hminutes, keep_natCast (by omega), Option.some_or,
    Nat.mul_comm 3600, Nat.mul_comm 60]

/-- **A whole number of a unit.** -/
theorem parse_unit {c : Char} {k : Nat} (hn : IsRun 1 n) (hc : unitSeconds? c = some k)
    (h : lower (strip t) = n ++ [c]) : parse .double t = some ((k * numeral n : Nat) : Rat) := by
  have hends : Ends [c] := ends_unit (mem_units.mpr (Option.isSome_of_eq_some hc))
  have hlt := numeral_lt_of_isRun hn
  have hk : numeral n * k < 2 ^ 53 := by
    have hle : k ≤ 3600 := by
      unfold unitSeconds? at hc
      grind
    have hmul := Nat.mul_le_mul_left (numeral n) hle
    omega
  rw [parse_eq h, readCompound?_eq_none hn hends (by simp), Option.none_or, readUnit?,
    readNumber?_whole hn hends]
  dsimp only
  rw [hc, Option.map_some, decimal_whole hn, mul_natCast hk, Option.some_or, Nat.mul_comm]

/-- **A bare whole number** of minutes. -/
theorem parse_minutes (hn : IsRun 1 n) (h : lower (strip t) = n) :
    parse .double t = some ((60 * numeral n : Nat) : Rat) := by
  have hlt := numeral_lt_of_isRun hn
  rw [← List.append_nil n] at h
  rw [parse_eq h, readCompound?_eq_none hn ends_nil (by simp), Option.none_or, readUnit?,
    readMinutes?, readNumber?_whole hn ends_nil, readNumber?_whole hn ends_nil]
  dsimp only
  rw [Option.none_or, decimal_whole hn]
  exact congrArg some ((mul_natCast (k := 60) (by omega)).trans (by rw [Nat.mul_comm]))

/-! ## 3. Exact lengths -/

/-- **Lengths are read exactly.** What can be read is what has one of the three shapes, once blanks
    around it are taken away and it is in lower case. For whole numbers of up to nine digits, hours
    and minutes, a number of a unit and a bare number of minutes come to just that many seconds; no
    minutes and no hours may be left out, and so may the unit of minutes. -/
theorem parse_exact :
    (∀ (p : Precision) (t : Text), (parse p t).isSome = true ↔ IsLength (lower (strip t))) ∧
    (∀ hours minutes t : Text, IsRun 1 hours → IsRun 1 minutes →
      lower (strip t) = hours ++ 'h' :: (minutes ++ ['m']) →
      parse .double t = some ((3600 * numeral hours + 60 * numeral minutes : Nat) : Rat)) ∧
    (∀ n t : Text, IsRun 1 n →
      (lower (strip t) = n ++ ['h'] → parse .double t = some ((3600 * numeral n : Nat) : Rat)) ∧
      (lower (strip t) = n ++ ['m'] → parse .double t = some ((60 * numeral n : Nat) : Rat)) ∧
      (lower (strip t) = n → parse .double t = some ((60 * numeral n : Nat) : Rat)) ∧
      (lower (strip t) = n ++ ['s'] → parse .double t = some ((numeral n : Nat) : Rat))) ∧
    ∀ n : Text, IsRun 1 n →
      parse .double (n ++ "h0m".toList) = parse .double (n ++ "h".toList) ∧
      parse .double ("0h".toList ++ n ++ "m".toList) = parse .double (n ++ "m".toList) ∧
      parse .double (n ++ "m".toList) = parse .double n := by
  refine ⟨parse_isSome_iff, fun _ _ _ => parse_compound, fun n t hn => ?_, fun n hn => ?_⟩
  · refine ⟨parse_unit hn rfl, parse_unit hn rfl, parse_minutes hn, fun h => ?_⟩
    rw [parse_unit hn rfl h, Nat.one_mul]
  · have hzero : IsRun 1 ['0'] := ⟨forall_mem_of_all (by decide), by decide, by decide⟩
    have hunit : ∀ c ∈ units, lower (strip (n ++ [c])) = n ++ [c] :=
      fun c hc => (IsLength.unit (.whole hn) hc).lower_strip
    have hhours : parse .double (n ++ ['h']) = some ((3600 * numeral n : Nat) : Rat) :=
      parse_unit hn rfl (hunit 'h' (by decide))
    have hminutes : parse .double (n ++ ['m']) = some ((60 * numeral n : Nat) : Rat) :=
      parse_unit hn rfl (hunit 'm' (by decide))
    refine ⟨?_, ?_, hminutes.trans ?_⟩
    · refine Eq.trans ?_ hhours.symm
      exact parse_compound hn hzero (IsLength.compound hn hzero).lower_strip
    · refine Eq.trans ?_ hminutes.symm
      have hnone : 3600 * numeral ['0'] + 60 * numeral n = 60 * numeral n := Nat.zero_add _
      rw [← hnone]
      exact parse_compound hzero hn (IsLength.compound hzero hn).lower_strip
    · exact (parse_minutes hn (IsLength.minutes (.whole hn)).lower_strip).symm

/-- Two hours and five minutes, with Arabic digits for the hours, a capital letter and blanks. -/
theorem parse_exact_two_hours : parse .double " ٢H05m\n".toList = some ((7500 : Nat) : Rat) ∧
    parse .double "999999999h0m".toList = parse .double "999999999h".toList := by
  obtain ⟨-, hcompound, -, hsame⟩ := parse_exact
  have htwo : IsRun 1 ['٢'] := ⟨forall_mem_of_all (by decide), by decide, by decide⟩
  have hfive : IsRun 1 ['0', '5'] := ⟨forall_mem_of_all (by decide), by decide, by decide⟩
  have hnines : IsRun 1 "999999999".toList := ⟨forall_mem_of_all (by decide), by decide, by decide⟩
  refine ⟨?_, (hsame _ hnines).1⟩
  exact hcompound ['٢'] ['0', '5'] _ htwo hfive (by decide +kernel)

end Worklog.Duration
