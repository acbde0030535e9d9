import Mathlib.Algebra.Order.Ring.Nat
import Worklog.Calendar.Moment

/-!
# Dates and day numbers

Every day number up to the last day of the calendar is that of one date, which `Date.ofOrdinal`
finds.

* `Date.yearOfOrdinal_spec`: the year of a day number starts no later and ends later;
* `Date.splitMonth_spec`: the months before a day and the days before it in its month make up its
  number in the year;
* **`Date.isValid_ofOrdinal`**, **`Date.toOrdinal_ofOrdinal`**: the date of a day number is a date
  with this number.
-/

namespace Worklog

namespace Date

/-! ## 1. Years -/

/-- How often a number divides the years up to a year. -/
theorem div_eq {year : Nat} (h : 1 ≤ year) (k : Nat) :
    year / k = (year - 1) / k + if year % k = 0 then 1 else 0 := by
  obtain ⟨y, rfl⟩ : ∃ y, year = y + 1 := ⟨year - 1, by omega⟩
  rw [Nat.add_sub_cancel, Nat.succ_div]
  simp only [Nat.dvd_iff_mod_eq_zero]

/-- The next year starts when the months of a year are over. -/
theorem daysBeforeYear_succ {year : Nat} (h : 1 ≤ year) :
    daysBeforeYear (year + 1) = daysBeforeYear year + (monthLengths year).sum := by
  have hsum : (monthLengths year).sum = if isLeap year then 366 else 365 := by
    unfold monthLengths
    cases isLeap year <;> rfl
  have hleap : isLeap year = true ↔ year % 4 = 0 ∧ (year % 100 ≠ 0 ∨ year % 400 = 0) := by
    simp [isLeap]
  have hcenturies : (year - 1) / 100 ≤ (year - 1) / 4 := Nat.div_le_div_left (by decide) (by decide)
  rw [hsum]
  unfold daysBeforeYear
  rw [Nat.add_sub_cancel, div_eq h 4, div_eq h 100, div_eq h 400]
  simp only [hleap]
  by_cases h4 : year % 4 = 0
  · by_cases h100 : year % 100 = 0
    · by_cases h400 : year % 400 = 0
      · rw [if_pos h4, if_pos h100, if_pos h400, if_pos ⟨h4, Or.inr h400⟩]
        omega
      · rw [if_pos h4, if_pos h100, if_neg h400, if_neg fun h => h.2.elim (· h100) h400]
        omega
    · have h400 : year % 400 ≠ 0 := by omega
      rw [if_pos h4, if_neg h100, if_neg h400, if_pos ⟨h4, Or.inl h100⟩]
      omega
  · have h100 : year % 100 ≠ 0 := by omega
    have h400 : year % 400 ≠ 0 := by omega
    rw [if_neg h4, if_neg h100, if_neg h400, if_neg fun h => h4 h.1]
    omega

/-- **The year of a day number** starts no later than the day, and ends later. -/
theorem yearOfOrdinal_spec (n : Nat) : 1 ≤ yearOfOrdinal n ∧
    daysBeforeYear (yearOfOrdinal n) ≤ n ∧ n < daysBeforeYear (yearOfOrdinal n + 1) := by
  have hbefore : daysBeforeYear (n * 400 / 146097 + 1 - 1) ≤ n := by
    unfold daysBeforeYear
    omega
  have hafter : n < daysBeforeYear (n * 400 / 146097 + 1 + 2) := by
    unfold daysBeforeYear
    omega
  unfold yearOfOrdinal
  dsimp only
  split
  next hlate =>
    have hpos : n * 400 / 146097 ≠ 0 := fun hzero => by
      rw [hzero] at hlate
      exact Nat.not_lt_zero n hlate
    refine ⟨by omega, hbefore, ?_⟩
    rwa [Nat.sub_add_cancel (Nat.le_add_left _ _)]
  next hlate =>
    split
    next hearly => exact ⟨by omega, hearly, hafter⟩
    next hearly => exact ⟨by omega, Nat.le_of_not_lt hlate, Nat.lt_of_not_le hearly⟩

theorem daysBeforeYear_mono {a b : Nat} (h : a ≤ b) : daysBeforeYear a ≤ daysBeforeYear b := by
  induction h with
  | refl => exact Nat.le_refl _
  | @step b _ ih =>
      refine Nat.le_trans ih ?_
      cases b with
      | zero => exact Nat.le_refl 0
      | succ b => exact daysBeforeYear_succ (Nat.le_add_left 1 b) ▸ Nat.le_add_right _ _

/-- The days of the calendar lie in its years. -/
theorem yearOfOrdinal_le {n : Nat} (h : n < Moment.dayCount) : yearOfOrdinal n ≤ lastYear := by
  obtain ⟨-, hstart, -⟩ := yearOfOrdinal_spec n
  refine Nat.le_of_not_lt fun hlate => ?_
  have hlast : daysBeforeYear (lastYear + 1) = Moment.dayCount := by decide
  have hmono : daysBeforeYear (lastYear + 1) ≤ daysBeforeYear (yearOfOrdinal n) :=
    daysBeforeYear_mono hlate
  omega

/-! ## 2. Months -/

/-- **The month and the day of the month** of a day in a year. -/
theorem splitMonth_spec : ∀ {lengths : List Nat} (month : Nat) {n : Nat}, n < lengths.sum →
    ∃ i day, splitMonth lengths month n = (month + i, day + 1) ∧
      (lengths.take i).sum + day = n ∧ ∃ length, lengths[i]? = some length ∧ day < length
  | [], _, _, h => absurd h (Nat.not_lt_zero _)
  | length :: rest, month, n, h => by
      unfold splitMonth
      by_cases hn : n < length
      · rw [if_pos hn]
        exact ⟨0, n, rfl, by simp, length, rfl, hn⟩
      · rw [if_neg hn]
        rw [List.sum_cons] at h
        have hrest : n - length < rest.sum := by omega
        obtain ⟨i, day, hsplit, hsum, hday⟩ := splitMonth_spec (month + 1) hrest
        refine ⟨i + 1, day, ?_, ?_, hday⟩
        · rw [hsplit, Nat.add_right_comm, Nat.add_assoc]
        · rw [List.take_succ_cons, List.sum_cons]
          omega

/-! ## 3. Day numbers -/

/-- The date of a day number: its year, the months before it and the days before it. -/
theorem ofOrdinal_spec (n : Nat) : ∃ i day length,
    ofOrdinal n = ⟨yearOfOrdinal n, 1 + i, day + 1⟩ ∧
      daysBeforeYear (yearOfOrdinal n) + (((monthLengths (yearOfOrdinal n)).take i).sum + day) = n ∧
      (monthLengths (yearOfOrdinal n))[i]? = some length ∧ day < length := by
  obtain ⟨hpos, hstart, hend⟩ := yearOfOrdinal_spec n
  have hwithin : n - daysBeforeYear (yearOfOrdinal n) < (monthLengths (yearOfOrdinal n)).sum := by
    rw [daysBeforeYear_succ hpos] at hend
    omega
  obtain ⟨i, day, hsplit, hsum, length, hlength, hday⟩ := splitMonth_spec 1 hwithin
  refine ⟨i, day, length, ?_, by omega, hlength, hday⟩
  unfold ofOrdinal
  dsimp only
  rw [hsplit]

/-- **The date of a day number is a date.** -/
theorem isValid_ofOrdinal {n : Nat} (h : n < Moment.dayCount) : (ofOrdinal n).IsValid := by
  obtain ⟨i, day, length, hdate, -, hlength, hday⟩ := ofOrdinal_spec n
  have hmonths : i < 12 := (List.getElem?_eq_some_iff.mp hlength).1
  have hdays : daysInMonth (yearOfOrdinal n) (1 + i) = length := by
    unfold daysInMonth
    rw [if_neg (by omega), Nat.add_sub_cancel_left, hlength]
    rfl
  rw [hdate]
  refine ⟨(yearOfOrdinal_spec n).1, yearOfOrdinal_le h, ?_, ?_, ?_, ?_⟩
  · exact Nat.le_add_right 1 i
  · show 1 + i ≤ 12
    omega
  · exact Nat.le_add_left 1 day
  · show day + 1 ≤ daysInMonth _ _
    rw [hdays]
    exact hday

/-- No month has more than 31 days. -/
theorem daysInMonth_le (year month : Nat) : daysInMonth year month ≤ 31 := by
  unfold daysInMonth
  split
  · exact Nat.zero_le 31
  · cases hlength : (monthLengths year)[month - 1]? with
    | none => exact Nat.zero_le 31
    | some length =>
        have hmem := List.mem_of_getElem? hlength
        unfold monthLengths at hmem
        cases hleap : isLeap year <;> simp [hleap] at hmem <;>
          simp only [Option.getD_some] <;> omega

/-- A date fits into four digits for the year and two for the month and the day. -/
theorem IsValid.fits {d : Date} (h : d.IsValid) :
    d.year < 10 ^ 4 ∧ d.month < 10 ^ 2 ∧ d.day < 10 ^ 2 := by
  obtain ⟨-, hyear, -, hmonth, -, hday⟩ := h
  have hdays := daysInMonth_le d.year d.month
  unfold lastYear at hyear
  omega

/-- **The date of a day number has this number.** -/
theorem toOrdinal_ofOrdinal (n : Nat) : (ofOrdinal n).toOrdinal = n := by
  obtain ⟨i, day, length, hdate, hsum, -, -⟩ := ofOrdinal_spec n
  rw [hdate]
  unfold toOrdinal daysBeforeMonth
  dsimp only
  rw [Nat.add_sub_cancel_left, Nat.add_sub_cancel]
  exact (Nat.add_assoc _ _ _).trans hsum

end Date

/-- The day of a moment has a number in the calendar. -/
theorem Moment.ordinal_lt (m : Moment) : m.ordinal < dayCount :=
  Nat.div_lt_of_lt_mul (Nat.mul_comm dayCount dayMicros ▸ m.inRange)

end Worklog
