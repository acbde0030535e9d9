import Worklog.Proofs.Calendar.Date

/-!
# The ends of the calendar

A start of a day that is moved by some days is the start of another day, as long as the calendar
has that day. How far back the first day of a month is depends on the date:

* **`Moment.shiftDays_ok`**, **`Moment.shiftDays_error`**: moving by days, within the calendar and
  out of it;
* `Date.monthStart_spec`: the first day of a month is not after its other days, and is the first
  day of the calendar in the first month only;
* `Moment.IsInner`: the moments that have a whole year in front of them and behind them.
-/

namespace Worklog

/-! ## 1. Days -/

namespace Moment

/-- A moment is the start of the day with a number. -/
def StartsDay (m : Moment) (n : Nat) : Prop := m.micros = n * dayMicros

theorem startsDay_midnight (m : Moment) : m.midnight.StartsDay m.ordinal := rfl

theorem StartsDay.ordinal {m : Moment} {n : Nat} (h : m.StartsDay n) : m.ordinal = n := by
  unfold Moment.ordinal
  rw [h]
  exact Nat.mul_div_cancel n (by decide)

theorem midnight_ordinal (m : Moment) : m.midnight.ordinal = m.ordinal :=
  m.startsDay_midnight.ordinal

theorem ofMicros?_day {n : Nat} (h : n < dayCount) :
    ∃ m, ofMicros? (n * dayMicros : Nat) = some m ∧ m.StartsDay n := by
  have hlt : n * dayMicros < count := Nat.mul_lt_mul_of_pos_right h (by decide)
  refine ⟨⟨n * dayMicros, hlt⟩, ?_, rfl⟩
  unfold ofMicros?
  rw [dif_pos ⟨Int.natCast_nonneg _, by rwa [Int.toNat_natCast]⟩]
  rfl

/-- **A start of a day, moved by some days**, is the start of the day where that leads. -/
theorem shiftDays_ok {m : Moment} {n n' : Nat} {days : Int} (hm : m.StartsDay n)
    (hn : (n : Int) + days = n') (h : n' < dayCount) :
    ∃ m', m.shiftDays days = .ok m' ∧ m'.StartsDay n' := by
  obtain ⟨m', hm', hstarts⟩ := ofMicros?_day h
  refine ⟨m', ?_, hstarts⟩
  have hmicros : (m.micros : Int) + days * dayMicros = (n' * dayMicros : Nat) := by
    rw [hm, Int.natCast_mul, Int.natCast_mul, ← hn, Int.add_mul]
  rw [shiftDays, shift, shift?, hmicros, hm']

/-- **Out of the calendar**, nothing can be moved. -/
theorem shiftDays_error {m : Moment} {n : Nat} {days : Int} (hm : m.StartsDay n)
    (h : (n : Int) + days < 0 ∨ (dayCount : Int) ≤ n + days) :
    m.shiftDays days = .error .dateOverflow := by
  have hmicros : (m.micros : Int) + days * dayMicros = (n + days) * dayMicros := by
    rw [hm, Int.natCast_mul, Int.add_mul]
  have hnone : ofMicros? ((n + days) * dayMicros) = none := by
    unfold ofMicros?
    rw [dif_neg]
    intro hin
    obtain ⟨hpos, hlt⟩ := hin
    have hday : (dayMicros : Int) = 86400000000 := rfl
    have hdays : (dayCount : Int) = 3652059 := rfl
    have hcount : count = 3652059 * 86400000000 := rfl
    rw [hday] at hpos hlt
    rw [hdays] at h
    omega
  rw [shiftDays, shift, shift?, hmicros, hnone]

end Moment

/-! ## 2. Months -/

namespace Date

/-- The months before a month are none, or last as long as the first one at least. -/
theorem sum_take_monthLengths (year i : Nat) :
    i = 0 ∨ 31 ≤ ((monthLengths year).take i).sum := by
  cases i with
  | zero => exact Or.inl rfl
  | succ i =>
      refine Or.inr ?_
      unfold monthLengths
      rw [List.take_succ_cons, List.sum_cons]
      exact Nat.le_add_right 31 _

/-- **The first day of a month** is not after the day, and is the first one of the calendar in the
    first 31 days only. -/
theorem monthStart_spec (n : Nat) : toOrdinal { ofOrdinal n with day := 1 } ≤ n ∧
    (toOrdinal { ofOrdinal n with day := 1 } = 0 ↔ n < 31) := by
  obtain ⟨i, day, length, hdate, hsum, hlength, hday⟩ := ofOrdinal_spec n
  have hyear : yearOfOrdinal n ≤ 1 ∨ 31 ≤ daysBeforeYear (yearOfOrdinal n) := by
    unfold daysBeforeYear
    omega
  have hfirst : daysBeforeYear (yearOfOrdinal n) = 0 ↔ yearOfOrdinal n ≤ 1 := by
    unfold daysBeforeYear
    omega
  have hstart : toOrdinal { ofOrdinal n with day := 1 } =
      daysBeforeYear (yearOfOrdinal n) + ((monthLengths (yearOfOrdinal n)).take i).sum := by
    rw [hdate]
    unfold toOrdinal daysBeforeMonth
    dsimp only
    rw [Nat.add_sub_cancel_left]
    rfl
  rw [hstart]
  refine ⟨by omega, ?_⟩
  rcases sum_take_monthLengths (yearOfOrdinal n) i with rfl | hmonths
  · have hjanuary : length = 31 := (Option.some.inj hlength).symm
    rw [List.take_zero, List.sum_nil] at hsum ⊢
    omega
  · omega

end Date

/-! ## 3. Years -/

namespace Moment

/-- A moment has a whole year of the calendar in front of it and one behind it. -/
def IsInner (m : Moment) : Prop := 2 ≤ m.date.year ∧ m.date.year < Date.lastYear

instance (m : Moment) : Decidable m.IsInner := inferInstanceAs (Decidable (_ ∧ _))

/-- The days of those years. -/
theorem IsInner.ordinal {m : Moment} (h : m.IsInner) : 365 ≤ m.ordinal ∧
    m.ordinal + 365 ≤ dayCount := by
  obtain ⟨hfirst, hlast⟩ := h
  obtain ⟨-, hstart, hend⟩ := Date.yearOfOrdinal_spec m.ordinal
  have hsecond : Date.daysBeforeYear 2 ≤ Date.daysBeforeYear (Date.yearOfOrdinal m.ordinal) :=
    Date.daysBeforeYear_mono hfirst
  have hlastYear : Date.daysBeforeYear (Date.yearOfOrdinal m.ordinal + 1) ≤
      Date.daysBeforeYear Date.lastYear := Date.daysBeforeYear_mono hlast
  have hvalues : Date.daysBeforeYear 2 = 365 ∧
      Date.daysBeforeYear Date.lastYear + 365 = dayCount := by decide
  omega

end Moment

end Worklog
