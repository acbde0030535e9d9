import Worklog.Criteria
import Worklog.Proofs.Fault

/-!
# Limits, and checks that may not be decided

A limit to a day reaches to the start of the next one, and the last day of the calendar has none. So
a check of a record comes to a verdict, or to the fault `dateOverflow`; `Tells` says which verdict,
and for which cause there is none. Checks one after the other stall at the first that has none:

* `Tells.and`, **`Tells.allPass`**: checks together;
* **`Tells.filterM`**: what a list is narrowed to (`Finds`);
* `Moment.shiftDays_one`: the next day, where there is one;
* `DayLimit.Holds`, `LengthLimit.Holds`: what a limit says, whether or not it can be decided;
* **`DayLimit.tells`**, **`LengthLimit.tells`**: a limit tells what it says, but for a limit to the
  last day of the calendar.
-/

namespace Worklog

/-! ## 1. Checks -/

/-- **What a check tells**: that something holds or that it does not; or, just if there is a cause,
    the calendar ends. -/
def Tells (check : Except Fault Bool) (holds cause : Prop) : Prop :=
  (∃ b, check = .ok b ∧ (b = true ↔ holds) ∧ ¬cause) ∨ (check = .error .dateOverflow ∧ cause)

/-- **What a search finds**: some items, and no others; or, just if there is a cause, the calendar
    ends. -/
def Finds {α : Type} (search : Except Fault (List α)) (found : α → Prop) (cause : Prop) : Prop :=
  (∃ l, search = .ok l ∧ (∀ a, a ∈ l ↔ found a) ∧ ¬cause) ∨
    (search = .error .dateOverflow ∧ cause)

/-- One check after the other is passed, up to one that has no verdict. -/
def Stalls {α : Type} (holds cause : α → Prop) : List α → Prop
  | [] => False
  | a :: l => cause a ∨ (holds a ∧ Stalls holds cause l)

/-- What stalls still does so with more checks to come. -/
theorem Stalls.append {α : Type} {holds cause : α → Prop} : ∀ {l : List α},
    Stalls holds cause l → ∀ l', Stalls holds cause (l ++ l')
  | [], h, _ => h.elim
  | _ :: _, h, l' => h.imp_right (And.imp_right fun h => Stalls.append h l')

/-- Without a cause nothing stalls. -/
theorem not_stalls {α : Type} {holds : α → Prop} : ∀ {l : List α},
    ¬Stalls holds (fun _ => False) l
  | [], h => h
  | _ :: _, h => h.elim id fun h => not_stalls h.2

namespace Tells

variable {check check' : Except Fault Bool} {P Q C D : Prop}

theorem of_ok {b : Bool} (h : check = .ok b) (hb : b = true ↔ P) : Tells check P False :=
  Or.inl ⟨b, h, hb, id⟩

theorem of_eq {b : Bool} (h : check = .ok b) : Tells check (b = true) False := of_ok h Iff.rfl

theorem imp (h : Tells check P C) (hP : P ↔ Q) (hC : C ↔ D) : Tells check Q D := by
  rcases h with ⟨b, hb, hP', hno⟩ | ⟨he, hc⟩
  · exact Or.inl ⟨b, hb, hP'.trans hP, fun hD => hno (hC.mpr hD)⟩
  · exact Or.inr ⟨he, hC.mp hc⟩

/-- A check tells that it is passed, or that it comes to a fault. -/
theorem self (h : Tells check P C) :
    Tells check (check = .ok true) (check = .error .dateOverflow) := by
  rcases h with ⟨b, rfl, -, -⟩ | ⟨rfl, -⟩
  · exact Or.inl ⟨b, rfl, by rw [Except.ok.injEq], nofun⟩
  · exact Or.inr ⟨rfl, rfl⟩

/-- A check that comes only after another one was passed. -/
theorem and (h : Tells check P C) (h' : Tells check' Q D) :
    Tells (check >>= fun b => if b then check' else .ok false) (P ∧ Q) (C ∨ (P ∧ D)) := by
  rcases h with ⟨b, rfl, hP, hno⟩ | ⟨rfl, hC⟩
  · cases b with
    | false =>
        have hPno : ¬P := fun h => Bool.false_ne_true (hP.mpr h)
        exact Or.inl ⟨false, rfl, ⟨nofun, fun h => absurd h.1 hPno⟩,
          fun h => h.elim hno fun h => hPno h.1⟩
    | true =>
        have hPyes : P := hP.mp rfl
        exact h'.imp (and_iff_right hPyes).symm
          ⟨fun h => Or.inr ⟨hPyes, h⟩, fun h => h.elim (absurd · hno) And.right⟩
  · exact Or.inr ⟨rfl, Or.inl hC⟩

/-- **Checks one after the other**, up to the first that is not passed. -/
theorem allPass {α : Type} {f : α → Except Fault Bool} {P C : α → Prop} : ∀ {l : List α},
    (∀ a ∈ l, Tells (f a) (P a) (C a)) → Tells (allPass f l) (∀ a ∈ l, P a) (Stalls P C l)
  | [], _ => of_ok rfl ⟨fun _ _ ha => absurd ha List.not_mem_nil, fun _ => rfl⟩
  | a :: _, h =>
      ((h a List.mem_cons_self).and (allPass fun b hb => h b (List.mem_cons_of_mem a hb))).imp
        List.forall_mem_cons.symm Iff.rfl

/-- **A list of which those are kept** of which a check tells that they hold. -/
theorem filterM {α : Type} {f : α → Except Fault Bool} {P C : α → Prop} {l : List α}
    (h : ∀ a ∈ l, Tells (f a) (P a) (C a)) :
    Finds (l.filterM f) (fun a => a ∈ l ∧ P a) (∃ a ∈ l, C a) := by
  by_cases hcause : ∃ a ∈ l, C a
  · obtain ⟨a, ha, hC⟩ := hcause
    have he : f a = .error .dateOverflow := by
      rcases h a ha with ⟨-, -, -, hno⟩ | ⟨he, -⟩
      · exact absurd hC hno
      · exact he
    refine Or.inr ⟨filterM_error (fun b hb => ?_) ha he, a, ha, hC⟩
    exact Or.imp (fun ⟨v, hv, _⟩ => ⟨v, hv⟩) And.left (h b hb)
  · have hall : ∀ a ∈ l, ∃ b, f a = .ok b ∧ (b = true ↔ P a) := fun a ha => by
      rcases h a ha with ⟨b, hb, hP, -⟩ | ⟨-, hC⟩
      · exact ⟨b, hb, hP⟩
      · exact absurd ⟨a, ha, hC⟩ hcause
    refine Or.inl ⟨_, filterM_ok (g := fun a => (f a).toOption.getD false) fun a ha => ?_,
      fun a => ?_, hcause⟩
    · obtain ⟨b, hb, -⟩ := hall a ha
      rw [hb]
      rfl
    · rw [List.mem_filter]
      refine and_congr_right fun ha => ?_
      obtain ⟨b, hb, hP⟩ := hall a ha
      rw [hb]
      exact hP

end Tells

/-! ## 2. Limits -/

/-- **What a limit on days says**: the day starts no later than the record, or later than it, or the
    record starts within the day. -/
def DayLimit.Holds (limit : DayLimit) (start : Moment) : Prop :=
  match limit.bound with
  | .after => limit.day.micros ≤ start.micros
  | .before => start.micros < limit.day.micros
  | .on => limit.day.micros ≤ start.micros ∧
      start.micros < limit.day.micros + Moment.dayMicros

/-- The limit is to a day that no day follows, and the record starts on it or later. -/
def DayLimit.Overflows (limit : DayLimit) (start : Moment) : Prop :=
  limit.bound = .on ∧ limit.day.micros ≤ start.micros ∧
    Moment.count ≤ limit.day.micros + Moment.dayMicros

theorem Moment.shift_ofNat (m : Moment) (n : Nat) : m.shift n =
    if h : m.micros + n < count then .ok ⟨m.micros + n, h⟩ else .error .dateOverflow := by
  have hsum : (m.micros : Int) + (n : Int) = ((m.micros + n : Nat) : Int) := rfl
  unfold shift shift? ofMicros?
  rw [hsum]
  by_cases h : m.micros + n < count
  · rw [dif_pos ⟨Int.natCast_nonneg _, h⟩, dif_pos h]
    rfl
  · rw [dif_neg fun hm => h hm.2, dif_neg h]

/-- The next day, if there is one. -/
theorem Moment.shiftDays_one (m : Moment) :
    (∃ next, m.shiftDays 1 = .ok next ∧ next.micros = m.micros + dayMicros) ∨
      (m.shiftDays 1 = .error .dateOverflow ∧ count ≤ m.micros + dayMicros) := by
  have hshift : m.shiftDays 1 = m.shift (dayMicros : Nat) := congrArg m.shift (Int.one_mul _)
  rw [hshift, shift_ofNat]
  by_cases h : m.micros + dayMicros < count
  · rw [dif_pos h]
    exact Or.inl ⟨_, rfl, rfl⟩
  · rw [dif_neg h]
    exact Or.inr ⟨rfl, Nat.le_of_not_lt h⟩

/-- **A limit on days tells what it says**, but for the last day of the calendar. -/
theorem DayLimit.tells (limit : DayLimit) (start : Moment) :
    Tells (limit.admits start) (limit.Holds start) (limit.Overflows start) := by
  obtain ⟨bound, day⟩ := limit
  cases bound with
  | after => exact (Tells.of_ok rfl decide_eq_true_iff).imp Iff.rfl ⟨False.elim, nofun⟩
  | before => exact (Tells.of_ok rfl decide_eq_true_iff).imp Iff.rfl ⟨False.elim, nofun⟩
  | on =>
      unfold admits Holds Overflows
      dsimp only
      by_cases hle : day.micros ≤ start.micros
      · have hday : day.le start = true := decide_eq_true hle
        rw [if_pos hday]
        rcases day.shiftDays_one with ⟨next, hnext, hmicros⟩ | ⟨hnone, hlast⟩
        · rw [hnext]
          have hroom : day.micros + Moment.dayMicros < Moment.count := hmicros ▸ next.inRange
          refine Or.inl ⟨start.lt next, rfl, ?_, fun h => Nat.not_le_of_lt hroom h.2.2⟩
          rw [Moment.lt, decide_eq_true_iff, hmicros, and_iff_right hle]
        · rw [hnone]
          exact Or.inr ⟨rfl, rfl, hle, hlast⟩
      · have hday : ¬ day.le start = true := fun h => hle (of_decide_eq_true h)
        rw [if_neg hday]
        exact Or.inl ⟨false, rfl, ⟨nofun, fun h => absurd h.1 hle⟩, fun h => hle h.2.1⟩

/-- **What a limit on lengths says**, of seconds; sameness is a matter of whole minutes. -/
def LengthLimit.Holds (p : Precision) (limit : LengthLimit) (seconds : Rat) : Prop :=
  ∃ x, limit.seconds = .ofRat x ∧
    match limit.bound with
    | .above => x < seconds
    | .below => seconds < x
    | .same => Amount.minutesOf p seconds = Amount.minutesOf p x

/-- **A limit on lengths tells what it says**, if it is a rational number of seconds. -/
theorem LengthLimit.tells (p : Precision) {limit : LengthLimit} {x : Rat}
    (hx : limit.seconds = .ofRat x) (seconds : Rat) :
    Tells (limit.admits p (.ofRat seconds)) (limit.Holds p seconds) False := by
  obtain ⟨bound, amount⟩ := limit
  obtain rfl : amount = .ofRat x := hx
  have hsame : ∀ {y : Rat}, Amount.ofRat x = .ofRat y → x = y := fun h => by
    cases h
    rfl
  unfold admits Holds
  cases bound with
  | above =>
      refine .of_ok rfl ⟨fun h => ⟨x, rfl, ?_⟩, fun ⟨y, hy, h⟩ => ?_⟩
      · rw [Amount.lt_ofRat] at h
        exact of_decide_eq_true h
      · rw [Amount.lt_ofRat, hsame hy]
        exact decide_eq_true h
  | below =>
      refine .of_ok rfl ⟨fun h => ⟨x, rfl, ?_⟩, fun ⟨y, hy, h⟩ => ?_⟩
      · rw [Amount.lt_ofRat] at h
        exact of_decide_eq_true h
      · rw [Amount.lt_ofRat, hsame hy]
        exact decide_eq_true h
  | same =>
      refine .of_ok rfl ⟨fun h => ⟨x, rfl, eq_of_beq h⟩, fun ⟨y, hy, h⟩ => ?_⟩
      rw [hsame hy]
      exact beq_iff_eq.mpr h

end Worklog
