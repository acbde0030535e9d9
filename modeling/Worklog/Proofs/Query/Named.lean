import Worklog.Proofs.Query.Stray

/-!
# Days by the clock

Named days and distances are counted from the midnight before the moment at which they are read. A
year or more from the ends of the calendar each name has its day, and a distance has one unless it
reaches behind the first day of the calendar. Neither letter case nor blanks matter: a date holds
nothing that comes from another character, and a unit comes from its capital only.

* `Day.absolute?_lower`, `Day.distance?_lower_eq`: what a text stands for shows in lower case;
* **`Day.read_congr`**: so two texts with the same lower case stand for the same day;
* `Day.read_named`, `Day.read_distance`: what is read of names and distances;
* `Day.isMidnight_of_read`: what is read is a midnight;
* **`Day.read_by_clock`**: which midnight that is.
-/

namespace Worklog.Day

open Worklog.Text

variable {now m : Moment}

/-! ## 1. Letter case and blanks -/

theorem absolute?_lower (t : Text) : absolute? (lower t) = absolute? t := by
  refine Option.ext fun m => ⟨fun h => ?_, fun h => ?_⟩
  · rwa [lower_eq_self (absolute?_spec h).1.isSole] at h
  · rwa [lower_of_stays (absolute?_spec h).1.isStretch.stays]

/-- What becomes a unit is the same unit already. -/
theorem unitDays?_of_origin {c d : Char} (hd : d ∈ units) (h : Origin d c) :
    unitDays? c = unitDays? d := by
  have hunits : ∀ d ∈ units, isFar d = false ∧ d ≠ Char.ofNat 0x69 ∧ d ≠ Char.ofNat 0x307 ∧
      (0x61 ≤ d.toNat → unitDays? (Char.ofNat (d.toNat - 32)) = unitDays? d) :=
    forall_mem_of_all (by decide +kernel)
  obtain ⟨hfar, hi, hdot, hcapital⟩ := hunits d hd
  cases h with
  | same => rfl
  | capital hlow hhigh hshift =>
      have hc : Char.ofNat (d.toNat - 32) = c := by
        rw [hshift, Nat.add_sub_cancel, Char.ofNat_toNat]
      rw [← hc]
      exact hcapital (by omega)
  | dotted hdots => exact absurd hdots (not_or.mpr ⟨hi, hdot⟩)
  | far hd =>
      rw [hfar] at hd
      cases hd

theorem distance?_lower_eq (t : Text) : distance? (lower t) = distance? t := by
  refine Option.ext fun n => ⟨fun h => ?_, fun h => (distance?_lower h).1⟩
  obtain ⟨run, d, days, hlower, hrun, hdays, hn⟩ := distance?_eq_some_iff.mp h
  obtain ⟨rest, inWord, rfl, hrest⟩ :=
    lowerFrom_eq_append (fun c hc => isSole_of_isDigit (hrun.digits c hc)) hlower
  obtain ⟨c, rfl, horigin⟩ := origin_of_lowerFrom hrest
  refine distance?_eq_some_iff.mpr ⟨run, c, days, rfl, hrun, ?_, hn⟩
  rw [unitDays?_of_origin (mem_units hdays) horigin, hdays]

/-- **Texts with the same lower case stand for the same day.** -/
theorem read_congr {t u : Text} (h : lower u = lower t) (now : Moment) :
    read now u = read now t := by
  have hstrip : lower (strip u) = lower (strip t) := by rw [lower_strip, h, ← lower_strip]
  unfold read
  dsimp only
  rw [← absolute?_lower (strip u), ← distance?_lower_eq (strip u), hstrip, absolute?_lower,
    distance?_lower_eq]

/-- **Blanks around a day change nothing.** -/
theorem read_append {l r : Text} (hl : IsBlanks l) (hr : IsBlanks r) (now : Moment) (t : Text) :
    read now (l ++ t ++ r) = read now t := by
  unfold read
  rw [strip_append hl hr]

/-! ## 2. Names -/

theorem read_named {t : Text} {name : Named} (h : Named.ofText? (lower (strip t)) = some name) :
    read now t = (name.start now.midnight).map some := by
  unfold read
  dsimp only
  rw [absolute?_of_named h, h]

/-- A name that leads some days from today is read as the day where they lead. -/
theorem read_shifted (now : Moment) {t : Text} (name : Named) {days : Int} {n : Nat}
    (h : Named.ofText? (lower (strip t)) = some name)
    (hstart : name.start now.midnight = now.midnight.shiftDays days)
    (hn : (now.ordinal : Int) + days = n) (hlt : n < Moment.dayCount) :
    ∃ m, read now t = .ok (some m) ∧ m.StartsDay n := by
  obtain ⟨m, hm, hstarts⟩ := Moment.shiftDays_ok now.startsDay_midnight hn hlt
  refine ⟨m, ?_, hstarts⟩
  rw [read_named h, hstart, hm]
  rfl

/-- A named day starts at midnight. -/
theorem Named.isMidnight_start {name : Named} (h : name.start now.midnight = .ok m) :
    m.IsMidnight := by
  have htoday : now.midnight.IsMidnight := now.startsDay_midnight.isMidnight
  have shifted : ∀ days, now.midnight.shiftDays days = .ok m → m.IsMidnight := fun days hm =>
    htoday.shiftDays (Moment.shiftDays?_of_ok hm)
  cases name with
  | today =>
      cases h
      exact htoday
  | thisMonth =>
      cases h
      exact (Moment.startsDay_monthStart _).isMidnight
  | lastMonth =>
      unfold Named.start at h
      obtain ⟨before, -, hm⟩ := bind_eq_ok.mp h
      cases hm
      exact (Moment.startsDay_monthStart _).isMidnight
  | _ => exact shifted _ h

/-! ## 3. Distances -/

/-- The days of the units, in either letter case. -/
def unitLengths : List (Char × Nat) :=
  [('d', 1), ('D', 1), ('w', 7), ('W', 7), ('m', 30), ('M', 30), ('y', 365), ('Y', 365)]

theorem unitDays?_of_mem {c : Char} {days : Nat} (h : (c, days) ∈ unitLengths) :
    unitDays? c = some days := by
  have hall : ∀ p ∈ unitLengths, unitDays? p.1 = some p.2 := by decide
  exact hall _ h

/-- **A run of digits and a unit** lead back from today. -/
theorem read_distance (now : Moment) {run : Text} {c : Char} {days : Nat} (hrun : IsRun 1 run)
    (hc : unitDays? c = some days) :
    read now (run ++ [c]) = .ok (now.midnight.shiftDays? (-(numeral run * days : Nat))) := by
  have hunits : ∀ c ∈ units, IsPlainPart c := forall_mem_of_all (by decide)
  have hparts : ∀ e ∈ run ++ [c], IsPlainPart e := by
    intro e he
    rcases List.mem_append.mp he with he | he
    · exact isPlainPart_of_isDigit (hrun.digits e he)
    · rw [List.mem_singleton.mp he]
      exact hunits c (mem_units hc)
  have hstrip : strip (run ++ [c]) = run ++ [c] := strip_of_forall fun e he => (hparts e he).1
  have hdate : absolute? (run ++ [c]) = none := absolute?_of_forall fun e he => (hparts e he).2.2
  have hname : Named.ofText? (lower (run ++ [c])) = none := by
    -- A name holds no digit.
    have hletters : ∀ t ∈ names, (t.all fun e => decide (isDigit e = false)) = true := by decide
    rw [Option.eq_none_iff_forall_not_mem]
    intro name hname
    obtain ⟨d, hd⟩ := List.exists_mem_of_length_pos hrun.least_le
    have hdigit := hrun.digits d hd
    have hmem : d ∈ lower (run ++ [c]) :=
      mem_lowerFrom_of_stays (stays_of_isDigit hdigit) (List.mem_append_left _ hd)
    rw [forall_mem_of_all (hletters _ (mem_names hname)) d hmem] at hdigit
    cases hdigit
  have hdistance := distance?_eq_some_iff.mpr ⟨run, c, days, rfl, hrun, hc, rfl⟩
  unfold read
  dsimp only
  rw [hstrip, hdate, hname, hdistance]

/-- **A distance leads back** by as many days as it writes, unless that leads behind the first day
    of the calendar. -/
theorem read_back (now : Moment) {run : Text} {c : Char} {days : Nat} (hrun : IsRun 1 run)
    (hc : unitDays? c = some days) :
    (numeral run * days ≤ now.ordinal → ∃ m : Moment, read now (run ++ [c]) = .ok (some m) ∧
      m.micros + numeral run * days * Moment.dayMicros = now.midnight.micros) ∧
    (now.ordinal < numeral run * days → read now (run ++ [c]) = .ok none) := by
  have htoday : now.midnight.StartsDay now.ordinal := now.startsDay_midnight
  have hlt := now.ordinal_lt
  rw [read_distance now hrun hc]
  rcases htoday.shiftDays?_cases (-(numeral run * days : Nat)) with
    ⟨n, m, hn, hm, hstarts⟩ | ⟨hout, hnone⟩
  · refine ⟨fun _ => ⟨m, by rw [hm], ?_⟩, fun hlate => by omega⟩
    have hsum : n + numeral run * days = now.ordinal := by omega
    unfold Moment.StartsDay at hstarts htoday
    rw [hstarts, htoday, ← Nat.add_mul, hsum]
  · exact ⟨fun hin => by omega, fun _ => by rw [hnone]⟩

/-- **What is read of a day is a midnight.** -/
theorem isMidnight_of_read {t : Text} (h : read now t = .ok (some m)) : m.IsMidnight := by
  unfold read at h
  dsimp only at h
  split at h
  next d hdate =>
    cases h
    obtain ⟨layout, -, hin⟩ := List.exists_of_findSome?_eq_some hdate
    unfold inLayout? at hin
    split at hin
    · exact Moment.isMidnight_of_ofDate? hin
    · cases hin
  next =>
    split at h
    next name _ =>
      cases hstart : name.start now.midnight with
      | error e =>
          rw [hstart] at h
          cases h
      | ok d =>
          rw [hstart] at h
          cases h
          exact Named.isMidnight_start hstart
    next =>
      split at h
      next days _ => exact now.startsDay_midnight.isMidnight.shiftDays (Except.ok.inj h)
      next => cases h

/-! ## 4. The calendar -/

section Inner

variable (h : now.IsInner)
include h

/-- No text lies outside the calendar. -/
theorem exists_read (t : Text) : ∃ day, read now t = .ok day := by
  rcases read_cases now t with ⟨-, hday⟩ | ⟨hout, -⟩
  · exact hday
  · rw [Query.not_dayStrays_of_isInner h] at hout
    cases hout

/-- **This week and the last one.** -/
theorem read_week : ∃ monday before : Moment,
    read now "thisweek".toList = .ok (some monday) ∧
    read now "lastweek".toList = .ok (some before) ∧
    (∀ m : Moment, (m.IsMonday ∧ m.le now.midnight = true ∧
      now.midnight.micros < m.micros + 7 * Moment.dayMicros) ↔ m = monday) ∧
    before.micros + 7 * Moment.dayMicros = monday.micros := by
  obtain ⟨hpos, hlast⟩ := h.ordinal
  have hweek : Date.weekday now.ordinal < 7 := Nat.mod_lt _ (by decide)
  have hordinal := now.midnight_ordinal
  obtain ⟨monday, hmonday, hstarts⟩ := read_shifted now (t := "thisweek".toList) .thisWeek
    (by decide) (n := now.ordinal - Date.weekday now.ordinal) rfl (by rw [hordinal]; omega)
    (by omega)
  obtain ⟨before, hbefore, hstarts'⟩ := read_shifted now (t := "lastweek".toList) .lastWeek
    (by decide) (n := now.ordinal - Date.weekday now.ordinal - 7) rfl (by rw [hordinal]; omega)
    (by omega)
  refine ⟨monday, before, hmonday, hbefore,
    Moment.monday_iff now.startsDay_midnight hstarts, ?_⟩
  unfold Moment.StartsDay at hstarts hstarts'
  rw [hstarts, hstarts', ← Nat.add_mul, Nat.sub_add_cancel (by omega)]

/-- **This month and the last one.** -/
theorem read_month : ∃ first before : Moment,
    read now "thismonth".toList = .ok (some first) ∧
    read now "lastmonth".toList = .ok (some before) ∧
    Moment.IsLatest (fun m => m.IsMonthStart ∧ m.le now.midnight = true) first ∧
    Moment.IsLatest (fun m => m.IsMonthStart ∧ m.lt first = true) before := by
  obtain ⟨hpos, -⟩ := h.ordinal
  have hlt := now.ordinal_lt
  obtain ⟨n, hfirst, hle, hzero⟩ := now.midnight.monthStart_spec
  rw [now.midnight_ordinal] at hle hzero
  have hsucc : now.midnight.monthStart.StartsDay (n - 1 + 1) := by
    rw [Nat.sub_add_cancel (by omega)]
    exact hfirst
  have hbefore : (n : Int) + (-1) = (n - 1 : Nat) := by omega
  obtain ⟨day, hday, hstarts⟩ := Moment.shiftDays_ok hfirst hbefore (by omega)
  have hthis : Named.ofText? (lower (strip "thismonth".toList)) = some .thisMonth := by decide
  have hlast : Named.ofText? (lower (strip "lastmonth".toList)) = some .lastMonth := by decide
  refine ⟨now.midnight.monthStart, day.monthStart, read_named hthis, ?_,
    Moment.isLatest_monthStart _, Moment.isLatest_monthStart_before hsucc hstarts⟩
  rw [read_named hlast, Named.start, hday]
  rfl

/-- **The days next to today.** -/
theorem read_neighbours : ∃ before after : Moment,
    read now "yesterday".toList = .ok (some before) ∧
    read now "tomorrow".toList = .ok (some after) ∧
    before.micros + Moment.dayMicros = now.midnight.micros ∧
    after.micros = now.midnight.micros + Moment.dayMicros := by
  obtain ⟨hpos, hlast⟩ := h.ordinal
  have hmicros : now.midnight.micros = now.ordinal * Moment.dayMicros := now.startsDay_midnight
  obtain ⟨before, hbefore, hstarts⟩ := read_shifted now (t := "yesterday".toList) .yesterday
    (by decide) (n := now.ordinal - 1) rfl (by omega) (by omega)
  obtain ⟨after, hafter, hstarts'⟩ := read_shifted now (t := "tomorrow".toList) .tomorrow
    (by decide) (n := now.ordinal + 1) rfl (by omega) (by omega)
  unfold Moment.StartsDay at hstarts hstarts'
  refine ⟨before, after, hbefore, hafter, ?_, ?_⟩
  · rw [hstarts, hmicros, ← Nat.succ_mul, Nat.succ_eq_add_one, Nat.sub_add_cancel (by omega)]
  · rw [hstarts', hmicros, Nat.succ_mul]

/-- **Days by the clock.** With a year of the calendar before and behind it, a moment gives every
    text a midnight or no day. `thisweek` is the one Monday within the week before today and
    `lastweek` seven days earlier, `thismonth` the latest first day of a month up to today and
    `lastmonth` the latest one before that, `yesterday` and `tomorrow` are a day away, and a
    distance leads back by as many days as it writes, or is no day if it leads behind the first day
    of the calendar. Texts with the same lower case, and with blanks around them, stand for the same
    day. -/
theorem read_by_clock :
    (∀ t, ∃ day, read now t = .ok day ∧ ∀ m ∈ day, m.IsMidnight) ∧
    (∃ monday before : Moment,
      read now "thisweek".toList = .ok (some monday) ∧
      read now "lastweek".toList = .ok (some before) ∧
      (∀ m : Moment, (m.IsMonday ∧ m.le now.midnight = true ∧
        now.midnight.micros < m.micros + 7 * Moment.dayMicros) ↔ m = monday) ∧
      before.micros + 7 * Moment.dayMicros = monday.micros) ∧
    (∃ first before : Moment,
      read now "thismonth".toList = .ok (some first) ∧
      read now "lastmonth".toList = .ok (some before) ∧
      Moment.IsLatest (fun m => m.IsMonthStart ∧ m.le now.midnight = true) first ∧
      Moment.IsLatest (fun m => m.IsMonthStart ∧ m.lt first = true) before) ∧
    (∃ before after : Moment,
      read now "yesterday".toList = .ok (some before) ∧
      read now "tomorrow".toList = .ok (some after) ∧
      before.micros + Moment.dayMicros = now.midnight.micros ∧
      after.micros = now.midnight.micros + Moment.dayMicros) ∧
    (∀ run c days, IsRun 1 run → (c, days) ∈ unitLengths →
      (numeral run * days ≤ now.ordinal → ∃ m : Moment, read now (run ++ [c]) = .ok (some m) ∧
        m.micros + numeral run * days * Moment.dayMicros = now.midnight.micros) ∧
      (now.ordinal < numeral run * days → read now (run ++ [c]) = .ok none)) ∧
    ∀ l r t u, IsBlanks l → IsBlanks r → lower u = lower t →
      read now (l ++ u ++ r) = read now t := by
  refine ⟨fun t => ?_, read_week h, read_month h, read_neighbours h,
    fun run c days hrun hc => read_back now hrun (unitDays?_of_mem hc), ?_⟩
  · obtain ⟨day, hday⟩ := exists_read h t
    refine ⟨day, hday, fun m hm => ?_⟩
    obtain rfl : day = some m := hm
    exact isMidnight_of_read hday
  · intro l r t u hl hr hlower
    rw [read_append hl hr, read_congr hlower]

end Inner

/-- Half past ten in the morning of the twelfth of June 2024, a Wednesday. -/
def june : Moment := ⟨63853785000000000, by decide⟩

/-- In the second week of June 2024 the week starts on the tenth, whatever the letter case, and a
    distance behind the first day of the calendar is no day. -/
theorem read_by_clock_june : june.IsInner ∧
    (∃ m : Moment, m.date = ⟨2024, 6, 10⟩ ∧ read june " ThisWeek\n".toList = .ok (some m)) ∧
    read june "999999999y".toList = .ok none := by
  have hinner : june.IsInner := by decide +kernel
  obtain ⟨-, ⟨monday, -, hmonday, -, hunique, -⟩, -, -, hdistance, hcase⟩ := read_by_clock hinner
  refine ⟨hinner, ⟨monday, ?_, ?_⟩, ?_⟩
  · obtain rfl := (hunique ⟨63853574400000000, by decide⟩).mp (by decide +kernel)
    decide +kernel
  · rw [← hmonday]
    exact hcase [' '] ['\n'] _ "ThisWeek".toList (forall_mem_of_all (by decide))
      (forall_mem_of_all (by decide)) (by decide)
  · have hnines : IsRun 1 "999999999".toList :=
      ⟨forall_mem_of_all (by decide), by decide, by decide⟩
    exact (hdistance "999999999".toList 'y' 365 hnines (by decide)).2 (by decide +kernel)

end Worklog.Day
