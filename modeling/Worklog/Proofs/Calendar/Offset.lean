import Worklog.Proofs.Calendar.Stamp
import Worklog.Proofs.Fault

/-!
# Offsets

A clock that is some minutes ahead of UTC shows a later moment, and writes by how much behind it.
What is read is the moment in UTC again, whatever the offset, and whichever day, month or year the
clock showed.

* `Stamp.timed?_offset`: a time is read with the offset behind it;
* `Stamp.instant`, `Stamp.toMoment_eq`: a timestamp is read as its instant;
* `Moment.IsWritten`: the texts of a moment, as it is or with an offset;
* **`Moment.read_of_isWritten`**: each of them is read as the moment.
-/

namespace Worklog

open Text

namespace Stamp

/-! ## 1. Reading an offset -/

/-- The microseconds of a minute. -/
abbrev minuteMicros : Int := 60000000

/-- A whole number of minutes is written as a sign, hours and minutes. -/
theorem offsetText_minutes (minutes : Int) : offsetText (minutes * minuteMicros) =
    (if minutes < 0 then '-' else '+') :: (ofNatPadded 2 (minutes.natAbs / 60) ++
      ':' :: ofNatPadded 2 (minutes.natAbs % 60)) := by
  have habs : (minutes * minuteMicros).natAbs = minutes.natAbs * 60000000 := by
    rw [Int.natAbs_mul]
    rfl
  have hsign : minutes * minuteMicros < 0 ↔ minutes < 0 := by
    unfold minuteMicros
    omega
  have hhour : minutes.natAbs * 60000000 / 1000000 / 3600 = minutes.natAbs / 60 := by omega
  have hminute : minutes.natAbs * 60000000 / 1000000 / 60 % 60 = minutes.natAbs % 60 := by omega
  have hwhole : minutes.natAbs * 60000000 % 60000000 = 0 := Nat.mul_mod_left _ _
  have hseconds : minutes.natAbs * 60000000 % 1000000 = 0 := by omega
  unfold offsetText
  dsimp only
  rw [habs, hhour, hminute, if_pos hwhole, if_pos hseconds]
  simp only [hsign, List.append_nil, List.cons_append]

/-- Hours and minutes are read. -/
theorem clock?_minutes {hour minute : Nat} (hhour : hour < 10 ^ 2) (hminute : minute < 10 ^ 2) :
    clock? (ofNatPadded 2 hour ++ ':' :: ofNatPadded 2 minute) =
      some (⟨hour, minute, 0, 0⟩, true) := by
  have hrest := number?_padded (by decide) hminute []
  rw [List.append_nil] at hrest
  unfold clock?
  rw [number?_padded (by decide) hhour]
  simp only [Option.bind_eq_bind, Option.bind_some]
  rw [next?_colon _ padded_ne_nil]
  simp only [Option.bind_some, hrest]
  rfl

/-- **A time is read with the offset behind it**: a sign, hours and minutes. -/
theorem timed?_signed {micros hour minute : Nat} (h : micros < Moment.dayMicros) {sign : Char}
    (hsign : sign = '+' ∨ sign = '-') (hhour : hour < 10 ^ 2) (hminute : minute < 10 ^ 2) :
    timed? (Moment.clockText micros ++
        sign :: (ofNatPadded 2 hour ++ ':' :: ofNatPadded 2 minute)) =
      some (.ofMicros micros, some (if sign == '-' then -((hour * 60 + minute : Nat) * minuteMicros)
        else (hour * 60 + minute : Nat) * minuteMicros)) := by
  have hmark : (!isMark sign) = false := by rcases hsign with rfl | rfl <;> rfl
  have hzulu : sign ≠ 'Z' := by rcases hsign with rfl | rfl <;> decide
  have htake : ∀ rest, (Moment.clockText micros ++ sign :: rest).takeWhile (!isMark ·) =
      Moment.clockText micros := fun rest => by
    rw [List.takeWhile_append_of_pos (not_isMark_of_mem_clockText micros), List.takeWhile_cons,
      if_neg (Bool.eq_false_iff.mp hmark), List.append_nil]
  have hdrop : ∀ rest, (Moment.clockText micros ++ sign :: rest).dropWhile (!isMark ·) =
      sign :: rest := fun rest => by
    rw [List.dropWhile_append_of_pos (not_isMark_of_mem_clockText micros), List.dropWhile_cons,
      if_neg (Bool.eq_false_iff.mp hmark)]
  have hvalue : (if ((hour : Int) * 3600 + (minute : Nat) * 60 + (0 : Nat)) = 0 then 0
      else ((hour : Int) * 3600 + (minute : Nat) * 60 + (0 : Nat)) * 1000000 + (0 : Nat)) =
      ((hour * 60 + minute : Nat) : Int) * minuteMicros := by
    unfold minuteMicros
    split <;> omega
  unfold isMark at htake hdrop
  unfold timed?
  dsimp only
  rw [htake, clock?_clockText h]
  simp only [Option.bind_eq_bind, Option.bind_some]
  rw [hdrop]
  split
  next heq => cases heq
  next heq => exact absurd (List.head_eq_of_cons_eq heq) hzulu
  next mark rest heq =>
    obtain ⟨rfl, rfl⟩ := List.cons.inj heq
    rw [clock?_minutes hhour hminute]
    simp only [Option.bind_some, if_true, hvalue]
    rfl

/-- The offset of a clock that is some minutes ahead of UTC, or behind it. -/
theorem timed?_offset {micros : Nat} (h : micros < Moment.dayMicros) {minutes : Int}
    (hminutes : minutes.natAbs < 24 * 60) :
    timed? (Moment.clockText micros ++ offsetText (minutes * minuteMicros)) =
      some (.ofMicros micros, some (minutes * minuteMicros)) := by
  have hsum : minutes.natAbs / 60 * 60 + minutes.natAbs % 60 = minutes.natAbs :=
    Nat.div_add_mod' minutes.natAbs 60
  rw [offsetText_minutes, timed?_signed h (by split <;> simp) (by omega) (by omega), hsum]
  by_cases hneg : minutes < 0
  · rw [if_pos hneg]
    have habs : -((minutes.natAbs : Int) * minuteMicros) = minutes * minuteMicros := by
      unfold minuteMicros
      omega
    rw [if_pos (by decide), habs]
  · rw [if_neg hneg]
    have habs : (minutes.natAbs : Int) * minuteMicros = minutes * minuteMicros := by
      unfold minuteMicros
      omega
    rw [if_neg (by decide), habs]

/-! ## 2. Instants -/

/-- The microseconds of UTC at which a timestamp was taken. -/
def instant (s : Stamp) : Int := s.shown.micros - s.offset.getD 0

/-- **A timestamp is read as its instant.** -/
theorem toMoment_eq (s : Stamp) : s.toMoment =
    match Moment.ofMicros? s.instant with
    | some m => .ok m
    | none => .error .dateOverflow := by
  obtain ⟨shown, offset⟩ := s
  cases offset with
  | none =>
      have hsame : instant ⟨shown, none⟩ = (shown.micros : Nat) := Int.sub_zero _
      rw [hsame, shown.ofMicros?_micros]
      rfl
  | some o => rfl

/-- Timestamps of the same instant are read alike. -/
theorem toMoment_congr {s t : Stamp} (h : s.instant = t.instant) : s.toMoment = t.toMoment := by
  rw [toMoment_eq, toMoment_eq, h]

theorem toMoment_of_instant {s : Stamp} {m : Moment} (h : s.instant = m.micros) :
    s.toMoment = .ok m := by
  rw [toMoment_eq, h, m.ofMicros?_micros]

end Stamp

namespace Moment

variable {m : Moment} {t : Text}

/-! ## 3. The texts of a moment -/

/-- **The texts of a moment**: as it is, marked as UTC in either letter case, or as a clock shows it
    that is some minutes ahead of UTC or behind it, with its offset. -/
inductive IsWritten (m : Moment) : Text → Prop where
  | plain : IsWritten m m.isoText
  | zulu {c : Char} (hc : c = 'Z' ∨ c = 'z') : IsWritten m (m.isoText ++ [c])
  | offset {minutes : Int} (hminutes : minutes.natAbs < 24 * 60) {shown : Moment}
      (hshown : m.shift? (minutes * Stamp.minuteMicros) = some shown) :
      IsWritten m (Stamp.isoText ⟨shown, some (minutes * Stamp.minuteMicros)⟩)

theorem micros_of_shift? {micros : Int} {shown : Moment} (h : m.shift? micros = some shown) :
    (shown.micros : Int) = m.micros + micros := by
  unfold shift? ofMicros? at h
  split at h
  next hrange =>
    cases h
    exact Int.toNat_of_nonneg hrange.1
  next => cases h

/-- A moment with an offset is read with its offset, whatever the clock showed. -/
theorem read_isoText_offset (shown : Moment) {minutes : Int} (hminutes : minutes.natAbs < 24 * 60) :
    Stamp.read (shown.isoText ++ Stamp.offsetText (minutes * Stamp.minuteMicros)) =
      .ok ⟨shown, some (minutes * Stamp.minuteMicros)⟩ := by
  refine Stamp.read_isoText_append shown (Stamp.timed?_offset shown.clock_lt hminutes) ?_
  intro o ho
  obtain rfl := Option.mem_some.mp ho
  unfold Stamp.minuteMicros dayMicros
  omega

/-- A mark of UTC is spelled out. -/
theorem spellZulu_mark (t : Text) {c : Char} (hc : c = 'Z' ∨ c = 'z') :
    spellZulu (t ++ [c]) = t ++ "+00:00".toList := by
  unfold spellZulu
  rw [List.getLast?_concat, List.dropLast_concat]
  rcases hc with rfl | rfl
  · rfl
  · rfl

/-- A text with an offset ends in a digit. -/
theorem spellZulu_offset (t : Text) (minutes : Int) :
    spellZulu (t ++ Stamp.offsetText (minutes * Stamp.minuteMicros)) =
      t ++ Stamp.offsetText (minutes * Stamp.minuteMicros) := by
  have hne : ofNatPadded 2 (minutes.natAbs % 60) ≠ [] := padded_ne_nil
  have hlast : (t ++ Stamp.offsetText (minutes * Stamp.minuteMicros)).getLast? =
      some ((ofNatPadded 2 (minutes.natAbs % 60)).getLast hne) := by
    rw [Stamp.offsetText_minutes, List.append_cons, List.append_cons (ofNatPadded 2 _),
      ← List.append_assoc, List.getLast?_append_of_ne_nil _ hne, List.getLast?_eq_some_getLast]
  have hdigit := isDigits_padded _ (List.getLast_mem hne)
  exact spellZulu_eq hlast ⟨ne_of_isAsciiDigit hdigit rfl, ne_of_isAsciiDigit hdigit rfl⟩

/-- **Each text of a moment is a timestamp of its instant.** -/
theorem IsWritten.exists_stamp (h : m.IsWritten t) :
    ∃ s, Stamp.read (spellZulu t) = .ok s ∧ s.instant = m.micros := by
  cases h with
  | plain =>
      rw [spellZulu_isoText]
      exact ⟨m.toStamp, Stamp.read_isoText m, Int.sub_zero _⟩
  | zulu hc =>
      have hread : Stamp.read (m.isoText ++ Stamp.offsetText (0 * Stamp.minuteMicros)) = _ :=
        read_isoText_offset m (by decide)
      rw [spellZulu_mark m.isoText hc]
      exact ⟨_, hread, Int.sub_zero _⟩
  | @offset minutes hminutes shown hshown =>
      refine ⟨⟨shown, some (minutes * Stamp.minuteMicros)⟩, ?_, ?_⟩
      · rw [Stamp.isoText, spellZulu_offset]
        exact read_isoText_offset shown hminutes
      · rw [Stamp.instant, micros_of_shift? hshown]
        exact Int.add_sub_cancel _ _

/-- **Whichever way a moment is written, it is read.** -/
theorem read_of_isWritten (h : m.IsWritten t) : Moment.read t = .ok m := by
  obtain ⟨s, hs, hinstant⟩ := h.exists_stamp
  unfold Moment.read
  rw [hs, ok_bind, Stamp.toMoment_of_instant hinstant]

end Moment

end Worklog
