import Worklog.Proofs.Calendar.Reach

/-!
# Dates, weeks and months

A date has one day number and is found from it, so that dates may be compared by their numbers. From
that follows where weeks and months start:

* **`Date.ofOrdinal_toOrdinal`**: the date of a date's day number is the date;
* `Moment.exists_ofDate?`: every date has a start, which is a midnight of that date;
* `Date.ofOrdinal_in_month`: the days from the first one of a month on;
* `Moment.shiftDays?_cases`: where moving by days leads from a midnight;
* **`Moment.monday_iff`**: the one Monday within a week before a day;
* **`Moment.isLatest_monthStart`**: the first day of a moment's month is the latest first day of a
  month that is not after the moment.
-/

namespace Worklog

namespace Date

/-! ## 1. The date of a day number -/

/-- The months before a month, and a day in it, fall into that month. -/
theorem splitMonth_eq : ∀ {lengths : List Nat} {i length day : Nat} (month : Nat),
    lengths[i]? = some length → day < length →
    splitMonth lengths month ((lengths.take i).sum + day) = (month + i, day + 1)
  | [], _, _, _, _, h, _ => nomatch h
  | first :: rest, 0, length, day, month, h, hday => by
      obtain rfl : first = length := by simpa using h
      unfold splitMonth
      simp [hday]
  | first :: rest, i + 1, length, day, month, h, hday => by
      have hrest : rest[i]? = some length := by simpa using h
      have hsum : ((first :: rest).take (i + 1)).sum + day =
          first + ((rest.take i).sum + day) := by
        rw [List.take_succ_cons, List.sum_cons, Nat.add_assoc]
      unfold splitMonth
      rw [hsum, if_neg (by omega), Nat.add_sub_cancel_left, splitMonth_eq (month + 1) hrest hday]
      congr 1
      omega

/-- The months before a month and a day in it are fewer days than all months. -/
theorem sum_take_lt : ∀ {lengths : List Nat} {i length day : Nat},
    lengths[i]? = some length → day < length → (lengths.take i).sum + day < lengths.sum
  | [], _, _, _, h, _ => nomatch h
  | first :: rest, 0, length, day, h, hday => by
      obtain rfl : first = length := by simpa using h
      rw [List.take_zero, List.sum_nil, List.sum_cons]
      omega
  | first :: rest, i + 1, length, day, h, hday => by
      have hrest : rest[i]? = some length := by simpa using h
      have ih := sum_take_lt hrest hday
      rw [List.take_succ_cons, List.sum_cons, List.sum_cons]
      omega

/-- A year is the only one that starts no later than a day and ends later. -/
theorem yearOfOrdinal_eq {year n : Nat} (hstart : daysBeforeYear year ≤ n)
    (hend : n < daysBeforeYear (year + 1)) : yearOfOrdinal n = year := by
  obtain ⟨-, hstart', hend'⟩ := yearOfOrdinal_spec n
  rcases Nat.lt_trichotomy (yearOfOrdinal n) year with hless | heq | hmore
  · have hmono : daysBeforeYear (yearOfOrdinal n + 1) ≤ daysBeforeYear year :=
      daysBeforeYear_mono hless
    omega
  · exact heq
  · have hmono : daysBeforeYear (year + 1) ≤ daysBeforeYear (yearOfOrdinal n) :=
      daysBeforeYear_mono hmore
    omega

variable {d : Date}

/-- The month of a date has a length, and the day of the month lies within it. -/
theorem IsValid.exists_length (h : d.IsValid) : ∃ length,
    (monthLengths d.year)[d.month - 1]? = some length ∧ d.day - 1 < length := by
  obtain ⟨-, -, hmonth, hmonth', hday, hday'⟩ := h
  have hthere : d.month - 1 < (monthLengths d.year).length := by
    show d.month - 1 < 12
    omega
  have hlength := List.getElem?_eq_getElem hthere
  refine ⟨_, hlength, ?_⟩
  unfold daysInMonth at hday'
  rw [if_neg (by omega), hlength, Option.getD_some] at hday'
  omega

theorem toOrdinal_eq (d : Date) : d.toOrdinal =
    daysBeforeYear d.year + (((monthLengths d.year).take (d.month - 1)).sum + (d.day - 1)) :=
  Nat.add_assoc _ _ _

/-- **The date of a date's day number is the date.** -/
theorem ofOrdinal_toOrdinal (h : d.IsValid) : ofOrdinal d.toOrdinal = d := by
  obtain ⟨length, hlength, hday⟩ := h.exists_length
  obtain ⟨hyear, -, hmonth, -, hpos, -⟩ := h
  have hwithin := sum_take_lt hlength hday
  have hyear' : yearOfOrdinal d.toOrdinal = d.year := by
    refine yearOfOrdinal_eq ?_ ?_
    · rw [toOrdinal_eq]
      omega
    · rw [toOrdinal_eq, daysBeforeYear_succ hyear]
      omega
  unfold ofOrdinal
  dsimp only
  rw [hyear', toOrdinal_eq, Nat.add_sub_cancel_left, splitMonth_eq 1 hlength hday]
  show (⟨d.year, 1 + (d.month - 1), d.day - 1 + 1⟩ : Date) = d
  rw [Nat.add_sub_cancel' hmonth, Nat.sub_add_cancel hpos]

/-- A date has a number in the calendar. -/
theorem IsValid.toOrdinal_lt (h : d.IsValid) : d.toOrdinal < Moment.dayCount := by
  obtain ⟨length, hlength, hday⟩ := h.exists_length
  obtain ⟨hyear, hyear', -⟩ := h
  have hwithin := sum_take_lt hlength hday
  have hend : d.toOrdinal < daysBeforeYear (d.year + 1) := by
    rw [toOrdinal_eq, daysBeforeYear_succ hyear]
    omega
  have hlast : daysBeforeYear (d.year + 1) ≤ daysBeforeYear (lastYear + 1) :=
    daysBeforeYear_mono (Nat.succ_le_succ hyear')
  have hcount : daysBeforeYear (lastYear + 1) = Moment.dayCount := by decide
  omega

/-! ## 2. Months -/

/-- Every month has 28 days. -/
theorem le_daysInMonth (year : Nat) {month : Nat} (hpos : 1 ≤ month) (hle : month ≤ 12) :
    28 ≤ daysInMonth year month := by
  have hlengths : ∀ length ∈ monthLengths year, 28 ≤ length := by
    unfold monthLengths
    cases isLeap year <;> decide
  have hthere : month - 1 < (monthLengths year).length := by
    show month - 1 < 12
    omega
  unfold daysInMonth
  rw [if_neg (by omega), List.getElem?_eq_getElem hthere]
  exact hlengths _ (List.getElem_mem hthere)

/-- An earlier day of the month of a date is a date. -/
theorem IsValid.withDay (h : d.IsValid) {day : Nat} (hpos : 1 ≤ day) (hle : day ≤ d.day) :
    ({ d with day } : Date).IsValid := by
  obtain ⟨hyear, hyear', hmonth, hmonth', -, hday⟩ := h
  exact ⟨hyear, hyear', hmonth, hmonth', hpos, Nat.le_trans hle hday⟩

/-- The day number of the first day of a date's month. -/
def firstOfMonth (d : Date) : Nat := ({ d with day := 1 } : Date).toOrdinal

theorem toOrdinal_withDay (d : Date) (day : Nat) :
    ({ d with day } : Date).toOrdinal = d.firstOfMonth + (day - 1) := by
  unfold firstOfMonth
  rw [toOrdinal_eq, toOrdinal_eq]
  dsimp only
  omega

theorem firstOfMonth_le (n : Nat) : (ofOrdinal n).firstOfMonth ≤ n := (monthStart_spec n).1

/-- **The days of a month**, from the first one up to a day. -/
theorem ofOrdinal_in_month {n n' : Nat} (hn : n < Moment.dayCount)
    (hle : (ofOrdinal n).firstOfMonth ≤ n') (hle' : n' ≤ n) :
    ofOrdinal n' = { ofOrdinal n with day := n' - (ofOrdinal n).firstOfMonth + 1 } := by
  have hvalid := isValid_ofOrdinal hn
  have hpos : 1 ≤ (ofOrdinal n).day := hvalid.2.2.2.2.1
  have hsum : n = (ofOrdinal n).firstOfMonth + ((ofOrdinal n).day - 1) := by
    rw [← toOrdinal_withDay]
    exact (toOrdinal_ofOrdinal n).symm
  have hday : ({ ofOrdinal n with day := n' - (ofOrdinal n).firstOfMonth + 1 } : Date).toOrdinal =
      n' := by
    rw [toOrdinal_withDay]
    omega
  rw [← ofOrdinal_toOrdinal (hvalid.withDay (Nat.le_add_left 1 _) (by omega)), hday]

end Date

namespace Moment

variable {m m' : Moment} {n n' : Nat}

/-! ## 3. Midnights -/

/-- A moment is the start of a day. -/
def IsMidnight (m : Moment) : Prop := m.clock = 0

/-- A moment is the start of a Monday. -/
def IsMonday (m : Moment) : Prop := m.IsMidnight ∧ Date.weekday m.ordinal = 0

/-- A moment is the start of the first day of a month. -/
def IsMonthStart (m : Moment) : Prop := m.IsMidnight ∧ m.date.day = 1

instance (m : Moment) : Decidable m.IsMidnight := inferInstanceAs (Decidable (_ = _))

instance (m : Moment) : Decidable m.IsMonday := inferInstanceAs (Decidable (_ ∧ _))

theorem startsDay_iff : m.StartsDay n ↔ m.IsMidnight ∧ m.ordinal = n := by
  unfold StartsDay IsMidnight clock ordinal
  constructor
  · intro h
    rw [h]
    exact ⟨Nat.mul_mod_left _ _, Nat.mul_div_cancel n (by decide)⟩
  · rintro ⟨hzero, rfl⟩
    exact (Nat.div_mul_cancel (Nat.dvd_of_mod_eq_zero hzero)).symm

theorem IsMidnight.startsDay (h : m.IsMidnight) : m.StartsDay m.ordinal :=
  startsDay_iff.mpr ⟨h, rfl⟩

theorem StartsDay.isMidnight (h : m.StartsDay n) : m.IsMidnight := (startsDay_iff.mp h).1

/-- Starts of days are ordered as the days are. -/
theorem StartsDay.le_iff (h : m.StartsDay n) (h' : m'.StartsDay n') :
    m.le m' = true ↔ n ≤ n' := by
  unfold le StartsDay at *
  rw [decide_eq_true_iff, h, h']
  exact Nat.mul_le_mul_right_iff (by decide)

theorem StartsDay.lt_iff (h : m.StartsDay n) (h' : m'.StartsDay n') :
    m.lt m' = true ↔ n < n' := by
  unfold lt StartsDay at *
  rw [decide_eq_true_iff, h, h']
  exact Nat.mul_lt_mul_right (by decide)

theorem StartsDay.eq (h : m.StartsDay n) (h' : m'.StartsDay n) : m = m' :=
  ext_micros (h.trans h'.symm)

theorem StartsDay.date (h : m.StartsDay n) : m.date = Date.ofOrdinal n := by
  rw [Moment.date, h.ordinal]

/-- **Every date has a start**, which is a midnight of that date. -/
theorem exists_ofDate? {d : Date} (h : d.IsValid) :
    ∃ m, ofDate? d = some m ∧ m.StartsDay d.toOrdinal ∧ m.date = d := by
  obtain ⟨m, hm, hstarts⟩ := ofMicros?_day h.toOrdinal_lt
  refine ⟨m, ?_, hstarts, ?_⟩
  · rw [ofDate?, if_pos h]
    exact hm
  · rw [hstarts.date, Date.ofOrdinal_toOrdinal h]

/-- Only dates have a start. -/
theorem isMidnight_of_ofDate? {d : Date} (h : ofDate? d = some m) : m.IsMidnight := by
  unfold ofDate? at h
  split at h
  next hvalid =>
    obtain ⟨m', hm', hstarts⟩ := ofMicros?_day hvalid.toOrdinal_lt
    cases hm'.symm.trans h
    exact hstarts.isMidnight
  next => cases h

/-- **Where moving by days leads** from a start of a day: to a start of a day, or out of the
    calendar. -/
theorem StartsDay.shiftDays?_cases (h : m.StartsDay n) (days : Int) :
    (∃ n' m', (n : Int) + days = (n' : Nat) ∧ m.shiftDays? days = some m' ∧ m'.StartsDay n') ∨
      (((n : Int) + days < 0 ∨ (dayCount : Int) ≤ n + days) ∧ m.shiftDays? days = none) := by
  by_cases hin : 0 ≤ (n : Int) + days ∧ (n : Int) + days < dayCount
  · obtain ⟨hpos, hlt⟩ := hin
    obtain ⟨m', hm', hstarts⟩ := ofMicros?_day (n := ((n : Int) + days).toNat) (by omega)
    refine Or.inl ⟨_, m', (Int.toNat_of_nonneg hpos).symm, ?_, hstarts⟩
    rw [← hm', shiftDays?, shift?, h, Int.natCast_mul, Int.natCast_mul, Int.toNat_of_nonneg hpos,
      Int.add_mul]
  · have hout : (n : Int) + days < 0 ∨ (dayCount : Int) ≤ n + days := by omega
    refine Or.inr ⟨hout, ?_⟩
    have herror := shiftDays_error h hout
    cases hsome : m.shiftDays? days with
    | none => rfl
    | some m' =>
        rw [shiftDays, shift, show m.shift? (days * dayMicros) = some m' from hsome] at herror
        cases herror

/-- What can be moved is moved. -/
theorem shiftDays?_of_ok {days : Int} (h : m.shiftDays days = .ok m') :
    m.shiftDays? days = some m' := by
  unfold shiftDays shift at h
  unfold shiftDays?
  split at h
  next m'' hsome =>
    cases h
    exact hsome
  next => cases h

/-- A midnight is moved to a midnight. -/
theorem IsMidnight.shiftDays {days : Int} (h : m.IsMidnight) (hm' : m.shiftDays? days = some m') :
    m'.IsMidnight := by
  rcases h.startsDay.shiftDays?_cases days with ⟨n', m'', -, hsome, hstarts⟩ | ⟨-, hnone⟩
  · obtain rfl : m'' = m' := Option.some.inj (hsome.symm.trans hm')
    exact hstarts.isMidnight
  · rw [hnone] at hm'
    cases hm'

/-! ## 4. Weeks and months -/

/-- **The one Monday within a week before a day.** -/
theorem monday_iff {today : Moment} (htoday : today.StartsDay n)
    (hm : m.StartsDay (n - Date.weekday n)) (m' : Moment) :
    (m'.IsMonday ∧ m'.le today = true ∧ today.micros < m'.micros + 7 * dayMicros) ↔ m' = m := by
  unfold IsMonday
  constructor
  · rintro ⟨⟨hmidnight, hmonday⟩, hle, hlt⟩
    have hstarts := hmidnight.startsDay
    rw [hstarts.le_iff htoday] at hle
    have hweek : n < m'.ordinal + 7 := by
      unfold StartsDay at htoday hstarts
      rw [htoday, hstarts, ← Nat.add_mul] at hlt
      exact Nat.lt_of_mul_lt_mul_right hlt
    have hday : m'.ordinal = n - Date.weekday n := by
      unfold Date.weekday at hmonday ⊢
      omega
    exact StartsDay.eq (hday ▸ hstarts) hm
  · rintro rfl
    refine ⟨⟨hm.isMidnight, ?_⟩, (hm.le_iff htoday).mpr (Nat.sub_le _ _), ?_⟩
    · rw [hm.ordinal]
      unfold Date.weekday
      omega
    · unfold StartsDay at htoday hm
      rw [htoday, hm, ← Nat.add_mul]
      refine Nat.mul_lt_mul_of_pos_right ?_ (by decide)
      unfold Date.weekday
      omega

/-- The first day of a moment's month starts on that day. -/
theorem startsDay_monthStart (m : Moment) : m.monthStart.StartsDay m.date.firstOfMonth := by
  have hvalid : m.date.IsValid := Date.isValid_ofOrdinal m.ordinal_lt
  obtain ⟨m', hm', hstarts, -⟩ := exists_ofDate? (hvalid.withDay (Nat.le_refl 1) hvalid.2.2.2.2.1)
  rw [monthStart, hm']
  exact hstarts

/-- It is not after the moment, and is the first day of the calendar in the first 31 days only. -/
theorem monthStart_spec (m : Moment) :
    ∃ n, m.monthStart.StartsDay n ∧ n ≤ m.ordinal ∧ (n = 0 ↔ m.ordinal < 31) :=
  ⟨_, m.startsDay_monthStart, Date.monthStart_spec m.ordinal⟩

/-- A moment is the latest one with a property. -/
def IsLatest (P : Moment → Prop) (m : Moment) : Prop := P m ∧ ∀ m', P m' → m'.le m = true

/-- **The first day of a moment's month** is the latest first day of a month that is not after the
    moment. -/
theorem isLatest_monthStart (m : Moment) :
    IsLatest (fun m' => m'.IsMonthStart ∧ m'.le m = true) m.monthStart := by
  have hstarts := m.startsDay_monthStart
  have hle : m.date.firstOfMonth ≤ m.ordinal := Date.firstOfMonth_le m.ordinal
  refine ⟨⟨⟨hstarts.isMidnight, ?_⟩, ?_⟩, ?_⟩
  · rw [hstarts.date, Moment.date, Date.ofOrdinal_in_month m.ordinal_lt (Nat.le_refl _) hle,
      Nat.sub_self]
  · unfold le
    unfold StartsDay at hstarts
    rw [decide_eq_true_iff, hstarts]
    exact Nat.le_trans (Nat.mul_le_mul_right _ hle) (Nat.div_mul_le_self _ _)
  · rintro m' ⟨⟨hmidnight, hday⟩, hle'⟩
    rw [hmidnight.startsDay.le_iff hstarts]
    by_contra hlate
    -- A later day up to the moment lies in the same month, and is not its first one.
    have hbefore : m'.ordinal ≤ m.ordinal := by
      unfold le at hle'
      exact Nat.div_le_div_right (of_decide_eq_true hle')
    have hafter : m.date.firstOfMonth ≤ m'.ordinal := by omega
    have hgap : m'.ordinal - m.date.firstOfMonth + 1 = 1 := by
      rw [Moment.date, Date.ofOrdinal_in_month m.ordinal_lt hafter hbefore] at hday
      exact hday
    omega

/-- **The month before**: the first day of the month of the day before a day is the latest first day
    of a month before that day. -/
theorem isLatest_monthStart_before {first before : Moment} (hfirst : first.StartsDay (n + 1))
    (hbefore : before.StartsDay n) :
    IsLatest (fun m' => m'.IsMonthStart ∧ m'.lt first = true) before.monthStart := by
  obtain ⟨⟨hstart, hle⟩, hlatest⟩ := isLatest_monthStart before
  -- Among starts of days, those before a day are those up to the day before.
  have hup : ∀ {m' : Moment}, m'.IsMidnight → (m'.lt first = true ↔ m'.le before = true) := by
    intro m' hmidnight
    rw [hmidnight.startsDay.lt_iff hfirst, hmidnight.startsDay.le_iff hbefore, Nat.lt_succ_iff]
  refine ⟨⟨hstart, (hup hstart.1).mpr hle⟩, ?_⟩
  rintro m' ⟨hm', hlt⟩
  exact hlatest m' ⟨hm', (hup hm'.1).mp hlt⟩

end Moment

end Worklog
