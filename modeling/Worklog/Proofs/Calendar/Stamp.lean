import Mathlib.Data.List.TakeWhile
import Worklog.Calendar.Stamp
import Worklog.Proofs.Calendar.Date
import Worklog.Proofs.Text.Digits

/-!
# Timestamps that are read back

A moment is written with ten characters for the date, a `T` and the time, where a fraction of a
second is left out if it is zero. The same moment is read from that text.

* `Stamp.number?_padded`: a number with zeros in front is read;
* `Stamp.date?_dateText`, `Stamp.timed?_clockText`: the two halves of a timestamp;
* **`Stamp.read_isoText`**, **`Moment.read_isoText`**: a moment that was written is read.
-/

namespace Worklog

open Text

namespace Stamp

/-! ## 1. Digits -/

/-- A number of a fixed width is read off the start of a text. -/
theorem number?_padded {width n : Nat} (hw : 0 < width) (h : n < 10 ^ width) (rest : Text) :
    number? width (ofNatPadded width n ++ rest) = some (n, rest) := by
  have hlength := length_padded hw h
  have htake : (ofNatPadded width n ++ rest).take width = ofNatPadded width n :=
    List.take_left' hlength
  have hdrop : (ofNatPadded width n ++ rest).drop width = rest := List.drop_left' hlength
  have hdigits : (ofNatPadded width n).all isAsciiDigit = true :=
    List.all_eq_true.mpr isDigits_padded
  unfold number?
  dsimp only
  rw [htake, hdrop, hlength, hdigits, numeral_padded]
  simp

/-- A number starts with a digit. -/
theorem exists_padded (width n : Nat) :
    ∃ c cs, ofNatPadded width n = c :: cs ∧ isAsciiDigit c = true := by
  have hne : ofNatPadded width n ≠ [] := padded_ne_nil
  obtain ⟨c, cs, h⟩ := List.exists_cons_of_ne_nil hne
  exact ⟨c, cs, h, isDigits_padded c (h ▸ List.mem_cons_self)⟩

/-! ## 2. The date -/

section Date

variable {d : Date}

theorem dateText_append (d : Date) (rest : Text) : Moment.dateText d ++ rest =
    ofNatPadded 4 d.year ++ ('-' :: (ofNatPadded 2 d.month ++ ('-' :: (ofNatPadded 2 d.day ++
      rest)))) := by
  simp [Moment.dateText]

variable (h : d.IsValid)
include h

theorem length_dateText : (Moment.dateText d).length = 10 := by
  obtain ⟨hyear, hmonth, hday⟩ := h.fits
  simp only [Moment.dateText, List.length_append, List.length_cons,
    length_padded (by decide) hyear, length_padded (by decide) hmonth,
    length_padded (by decide) hday]

/-- **A date is read.** -/
theorem date?_dateText (length : Nat) (rest : Text) :
    date? length (Moment.dateText d ++ rest) = some d := by
  obtain ⟨hyear, hmonth, hday⟩ := h.fits
  obtain ⟨c, cs, hc, hdigit⟩ := exists_padded 2 d.month
  have hmonth' := number?_padded (by decide) hmonth ('-' :: (ofNatPadded 2 d.day ++ rest))
  rw [hc] at hmonth'
  have hweek : c ≠ 'W' := ne_of_isAsciiDigit hdigit rfl
  unfold date?
  rw [dateText_append, number?_padded (by decide) hyear, hc]
  simp only [Option.bind_eq_bind, Option.bind_some]
  split
  next rest' heq => exact absurd (List.head_eq_of_cons_eq heq) hweek
  next hno =>
    rw [List.cons_append] at hmonth' ⊢
    rw [hmonth']
    simp only [Option.bind_some, if_true, number?_padded (by decide) hday]
    rfl

/-- The date takes up ten characters. -/
theorem dateLength_dateText (rest : Text) :
    dateLength (Moment.dateText d ++ rest) = 10 := by
  have hyear := length_padded (by decide) h.fits.1
  obtain ⟨c, cs, hc, hdigit⟩ := exists_padded 2 d.month
  have hweek : c ≠ 'W' := ne_of_isAsciiDigit hdigit rfl
  have hlength : (Moment.dateText d ++ rest).length ≠ 7 := by
    rw [List.length_append, length_dateText h]
    omega
  have hhyphen : hasAt (Moment.dateText d ++ rest) 4 '-' = true := by
    unfold hasAt
    rw [dateText_append, List.getElem?_append_right (Nat.le_of_eq hyear), hyear]
    rfl
  have hmonth : hasAt (Moment.dateText d ++ rest) 5 'W' = false := by
    unfold hasAt
    rw [dateText_append, List.getElem?_append_right (by omega), hyear, hc]
    simpa using hweek
  unfold dateLength
  rw [if_neg hlength, hhyphen, hmonth]
  rfl

end Date

/-! ## 3. The time -/

section Time

/-- A part of a time is read up to the colon behind it. -/
theorem next?_colon (rest : Text) (h : rest ≠ []) :
    next? true (':' :: rest) = some (.part rest) := by
  obtain ⟨c, cs, rfl⟩ := List.exists_cons_of_ne_nil h
  rfl

/-- The digits of a fraction behind the point. -/
theorem fraction?_padded (hour minute second : Nat) {micros : Nat} (h : micros < 10 ^ 6) :
    fraction? hour minute second (ofNatPadded 6 micros) =
      some (⟨hour, minute, second, micros⟩, true) := by
  have hlength := length_padded (by decide) h
  have hnumber := number?_padded (by decide) h []
  rw [List.append_nil] at hnumber
  unfold fraction?
  rw [hlength]
  simp only [Nat.min_self, hnumber, Nat.sub_self]
  simp [isEnd]

/-- A time of day, from the microseconds since midnight. -/
def Clock.ofMicros (micros : Nat) : Clock :=
  ⟨micros / 1000000 / 3600, micros / 1000000 / 60 % 60, micros / 1000000 % 60, micros % 1000000⟩

/-- **A time is read.** -/
theorem clock?_clockText {micros : Nat} (h : micros < Moment.dayMicros) :
    clock? (Moment.clockText micros) = some (.ofMicros micros, true) := by
  have hday : micros < 86400000000 := h
  have hhour : micros / 1000000 / 3600 < 10 ^ 2 := by omega
  have hminute : micros / 1000000 / 60 % 60 < 10 ^ 2 := by omega
  have hsecond : micros / 1000000 % 60 < 10 ^ 2 := by omega
  have htext : Moment.clockText micros = ofNatPadded 2 (micros / 1000000 / 3600) ++
      (':' :: (ofNatPadded 2 (micros / 1000000 / 60 % 60) ++ (':' ::
        (ofNatPadded 2 (micros / 1000000 % 60) ++
          if micros % 1000000 = 0 then [] else '.' :: ofNatPadded 6 (micros % 1000000))))) := by
    simp [Moment.clockText]
  unfold clock?
  rw [htext, number?_padded (by decide) hhour]
  simp only [Option.bind_eq_bind, Option.bind_some]
  rw [next?_colon _ (List.append_ne_nil_of_left_ne_nil padded_ne_nil _)]
  simp only [Option.bind_some, number?_padded (by decide) hminute]
  rw [next?_colon _ (List.append_ne_nil_of_left_ne_nil padded_ne_nil _)]
  simp only [Option.bind_some, number?_padded (by decide) hsecond]
  split
  next hzero =>
    simp only [next?, Option.bind_some, Clock.ofMicros, hzero]
    rfl
  next hzero =>
    obtain ⟨c, cs, hc, -⟩ := exists_padded 6 (micros % 1000000)
    have hnext : next? true ('.' :: ofNatPadded 6 (micros % 1000000)) =
        some (.fraction (ofNatPadded 6 (micros % 1000000))) := by
      rw [hc]
      rfl
    have hfraction : micros % 1000000 < 10 ^ 6 := Nat.mod_lt _ (by decide)
    simp only [hnext, Option.bind_some, fraction?_padded _ _ _ hfraction, Clock.ofMicros]

/-- The characters of a time. -/
theorem mem_clockText {micros : Nat} {c : Char} (h : c ∈ Moment.clockText micros) :
    isAsciiDigit c = true ∨ c = ':' ∨ c = '.' := by
  unfold Moment.clockText at h
  simp only [List.mem_append, List.mem_cons] at h
  rcases h with ((hc | rfl | hc) | rfl | hc) | hc
  · exact Or.inl (isDigits_padded c hc)
  · exact Or.inr (Or.inl rfl)
  · exact Or.inl (isDigits_padded c hc)
  · exact Or.inr (Or.inl rfl)
  · exact Or.inl (isDigits_padded c hc)
  · split at hc
    · cases hc
    · rcases List.mem_cons.mp hc with rfl | hc
      · exact Or.inr (Or.inr rfl)
      · exact Or.inl (isDigits_padded c hc)

/-- The characters that may start an offset. -/
def isMark (c : Char) : Bool := c == '+' || c == '-' || c == 'Z'

/-- No offset starts within a time. -/
theorem not_isMark_of_mem_clockText (micros : Nat) :
    ∀ c ∈ Moment.clockText micros, (!isMark c) = true := by
  intro c hc
  rcases mem_clockText hc with hdigit | rfl | rfl
  · have hplus : c ≠ '+' := ne_of_isAsciiDigit hdigit rfl
    have hminus : c ≠ '-' := ne_of_isAsciiDigit hdigit rfl
    have hzulu : c ≠ 'Z' := ne_of_isAsciiDigit hdigit rfl
    simp [isMark, hplus, hminus, hzulu]
  · rfl
  · rfl

/-- **A time is read, and no offset behind it.** -/
theorem timed?_clockText {micros : Nat} (h : micros < Moment.dayMicros) :
    timed? (Moment.clockText micros) = some (.ofMicros micros, none) := by
  have htake := List.takeWhile_eq_self_iff.mpr (not_isMark_of_mem_clockText micros)
  have hdrop := List.dropWhile_eq_nil_iff.mpr (not_isMark_of_mem_clockText micros)
  unfold isMark at htake hdrop
  unfold timed?
  dsimp only
  rw [htake, clock?_clockText h]
  simp only [Option.bind_eq_bind, Option.bind_some]
  rw [hdrop]
  rfl

end Time

/-- The parts of a time make it up. -/
theorem Clock.sum_ofMicros (micros : Nat) :
    (((Clock.ofMicros micros).hour * 60 + (Clock.ofMicros micros).minute) * 60 +
      (Clock.ofMicros micros).second) * 1000000 + (Clock.ofMicros micros).micros = micros := by
  unfold Clock.ofMicros
  dsimp only
  omega

theorem Clock.ofMicros_le {micros : Nat} (h : micros < Moment.dayMicros) :
    (Clock.ofMicros micros).hour ≤ 23 ∧ (Clock.ofMicros micros).minute ≤ 59 ∧
      (Clock.ofMicros micros).second ≤ 59 := by
  have hday : micros < 86400000000 := h
  unfold Clock.ofMicros
  dsimp only
  omega

end Stamp

namespace Moment

theorem clock_lt (m : Moment) : m.clock < dayMicros := Nat.mod_lt _ (by decide)

/-- The day and the time of a moment make it up. -/
theorem ordinal_add_clock (m : Moment) : m.ordinal * dayMicros + m.clock = m.micros :=
  Nat.div_add_mod' m.micros dayMicros

theorem ofMicros?_micros (m : Moment) : ofMicros? (m.micros : Nat) = some m := by
  unfold ofMicros?
  have h : (0 : Int) ≤ (m.micros : Nat) ∧ ((m.micros : Nat) : Int).toNat < count :=
    ⟨Int.natCast_nonneg _, m.inRange⟩
  rw [dif_pos h]
  rfl

/-- The date of a moment is a date. -/
theorem isValid_date (m : Moment) : m.date.IsValid := Date.isValid_ofOrdinal m.ordinal_lt

end Moment

/-! ## 4. Timestamps -/

namespace Stamp

/-- The date and the time of a moment are in range, and they are the moment's. -/
theorem check_moment (m : Moment) : check m.date (.ofMicros m.clock) = .ok m := by
  obtain ⟨hyear, hyear', hmonth, hmonth', hday, hday'⟩ := m.isValid_date
  obtain ⟨hhour, hminute, hsecond⟩ := Clock.ofMicros_le m.clock_lt
  have hordinal : m.date.toOrdinal = m.ordinal := Date.toOrdinal_ofOrdinal m.ordinal
  unfold check
  rw [if_neg (not_or.mpr ⟨Nat.not_lt.mpr hyear, Nat.not_lt.mpr hyear'⟩),
    if_neg (not_or.mpr ⟨Nat.not_lt.mpr hmonth, Nat.not_lt.mpr hmonth'⟩),
    if_neg (not_or.mpr ⟨Nat.not_lt.mpr hday, Nat.not_lt.mpr hday'⟩),
    if_neg (Nat.not_lt.mpr hhour), if_neg (Nat.not_lt.mpr hminute),
    if_neg (Nat.not_lt.mpr hsecond)]
  dsimp only
  rw [Clock.sum_ofMicros, hordinal, m.ordinal_add_clock, m.ofMicros?_micros]

/-- A moment that was written is read with whatever offset stands behind its time. -/
theorem read_isoText_append (m : Moment) {tail : Text} {offset : Option Int}
    (htimed : timed? (Moment.clockText m.clock ++ tail) = some (.ofMicros m.clock, offset))
    (hoffset : ∀ o ∈ offset, o.natAbs < Moment.dayMicros) :
    read (m.isoText ++ tail) = .ok ⟨m, offset⟩ := by
  have htext : m.isoText ++ tail =
      Moment.dateText m.date ++ 'T' :: (Moment.clockText m.clock ++ tail) := by
    simp [Moment.isoText]
  have hparts : parts? (m.isoText ++ tail) = some (m.date, .ofMicros m.clock, offset) := by
    have hdrop : (m.isoText ++ tail).drop 10 = 'T' :: (Moment.clockText m.clock ++ tail) := by
      rw [htext]
      exact List.drop_left' (length_dateText m.isValid_date)
    have hlength : ¬(m.isoText ++ tail).length < 7 := by
      rw [htext, List.length_append, length_dateText m.isValid_date]
      omega
    have hdateLength : dateLength (m.isoText ++ tail) = 10 := by
      rw [htext]
      exact dateLength_dateText m.isValid_date _
    have hdate : date? 10 (m.isoText ++ tail) = some m.date := by
      rw [htext]
      exact date?_dateText m.isValid_date 10 _
    unfold parts?
    rw [if_neg hlength]
    simp only [hdateLength, hdate, hdrop, Option.bind_eq_bind, Option.bind_some, htimed]
    rfl
  unfold read
  rw [hparts]
  cases offset with
  | none =>
      simp only [check_moment]
      rfl
  | some o =>
      have hsmall : ¬o.natAbs ≥ Moment.dayMicros := Nat.not_le.mpr (hoffset o rfl)
      simp only [check_moment, if_neg hsmall]
      rfl

/-- **A moment that was written is read**, without an offset. -/
theorem read_isoText (m : Moment) : read m.isoText = .ok m.toStamp := by
  have hread : read (m.isoText ++ []) = .ok ⟨m, none⟩ := read_isoText_append m
    (by rw [List.append_nil, timed?_clockText m.clock_lt]) fun o ho => by cases ho
  rwa [List.append_nil] at hread

end Stamp

namespace Moment

/-- A text that ends in another character is read as it is. -/
theorem spellZulu_eq {t : Text} {c : Char} (h : t.getLast? = some c) (hz : c ≠ 'Z' ∧ c ≠ 'z') :
    spellZulu t = t := by
  unfold spellZulu
  rw [h]
  simp [hz]

/-- A moment is written without an offset. -/
theorem isoText_toStamp (m : Moment) : m.toStamp.isoText = m.isoText := List.append_nil _

/-- A moment that was written does not end in a `Z`. -/
theorem spellZulu_isoText (m : Moment) : spellZulu m.isoText = m.isoText := by
  have hne : clockText m.clock ≠ [] := by simp [clockText]
  have hlast : m.isoText.getLast? = some ((clockText m.clock).getLast hne) := by
    unfold isoText
    rw [List.append_cons, List.getLast?_append_of_ne_nil _ hne, List.getLast?_eq_some_getLast]
  refine spellZulu_eq hlast ?_
  rcases Stamp.mem_clockText (List.getLast_mem hne) with hdigit | hcolon | hpoint
  · exact ⟨ne_of_isAsciiDigit hdigit rfl, ne_of_isAsciiDigit hdigit rfl⟩
  · rw [hcolon]
    decide
  · rw [hpoint]
    decide

/-- **A moment that was written is read** as local time. -/
theorem read_isoText (m : Moment) : Moment.read m.isoText = .ok m := by
  unfold Moment.read
  rw [spellZulu_isoText, Stamp.read_isoText]
  rfl

end Moment

end Worklog
