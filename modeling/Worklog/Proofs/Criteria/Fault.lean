import Worklog.Proofs.Criteria

/-!
# The fault of a check

Criteria may ask for what cannot be decided: a limit to the last day of the calendar, a bound that
is no number, a length without whole minutes. Which of these stops a check depends on the criteria
and hardly on the record: records that get as far as the part that cannot be decided come to its
fault, and no record gets past it. So the checks of all records fail alike, and it makes no
difference which record is checked first.

* `FailsAlike`: checks with one fault at most; `FailsAlike.and`, `FailsAlike.allPass`: checks one
  after the other;
* `DayLimit.failsAlike`, `LengthLimit.failsAlike`, `TimeCriteria.failsAlike`: the parts;
* **`ActivityCriteria.failsAlike`**, **`TimeEntryCriteria.failsAlike`**,
  **`ProjectCriteria.failsAlike`**: the checks of complete records.
-/

namespace Worklog

/-! ## 1. Checks -/

/-- **Checks of good items fail alike**: none of them comes to a fault, or none of them is passed,
    and there is only one fault that stops them. -/
def FailsAlike {α : Type} (good : α → Prop) (check : α → Except Fault Bool) : Prop :=
  (∀ a, good a → ∃ b, check a = .ok b) ∨
    ∃ f, ∀ a, good a → check a = .ok false ∨ check a = .error f

namespace FailsAlike

variable {α β : Type} {good : α → Prop} {check check' : α → Except Fault Bool}

theorem of_ok (verdict : α → Bool) (h : ∀ a, good a → check a = .ok (verdict a)) :
    FailsAlike good check :=
  Or.inl fun a ha => ⟨verdict a, h a ha⟩

theorem congr (h : FailsAlike good check) (heq : ∀ a, good a → check' a = check a) :
    FailsAlike good check' :=
  h.imp (fun h a ha => by rw [heq a ha]; exact h a ha) fun ⟨f, h⟩ => ⟨f, fun a ha => by
    rw [heq a ha]
    exact h a ha⟩

/-- A check that looks only at a part of an item. -/
theorem part {good' : β → Prop} {check : β → Except Fault Bool} (h : FailsAlike good' check)
    (view : α → β) (hgood : ∀ a, good a → good' (view a)) :
    FailsAlike good fun a => check (view a) :=
  h.imp (fun h a ha => h _ (hgood a ha)) fun ⟨f, h⟩ => ⟨f, fun a ha => h _ (hgood a ha)⟩

/-- **A check that comes only after another one was passed.** -/
theorem and (h : FailsAlike good check) (h' : FailsAlike good check') :
    FailsAlike good fun a => check a >>= fun b => if b then check' a else .ok false := by
  unfold FailsAlike
  dsimp only
  rcases h with h | ⟨f, h⟩
  · rcases h' with h' | ⟨f, h'⟩
    · refine Or.inl fun a ha => ?_
      obtain ⟨b, hb⟩ := h a ha
      rw [hb]
      cases b with
      | false => exact ⟨false, rfl⟩
      | true => exact h' a ha
    · refine Or.inr ⟨f, fun a ha => ?_⟩
      obtain ⟨b, hb⟩ := h a ha
      rw [hb]
      cases b with
      | false => exact Or.inl rfl
      | true => exact h' a ha
  · -- nothing gets past the first check
    refine Or.inr ⟨f, fun a ha => ?_⟩
    rcases h a ha with hb | hf
    · rw [hb]
      exact Or.inl rfl
    · rw [hf]
      exact Or.inr rfl

/-- **Checks one after the other**, up to the first that is not passed. -/
theorem allPass {f : β → α → Except Fault Bool} : ∀ {l : List β},
    (∀ b ∈ l, FailsAlike good (f b)) → FailsAlike good fun a => allPass (f · a) l
  | [], _ => of_ok (fun _ => true) fun _ _ => rfl
  | b :: _, h =>
      (h b List.mem_cons_self).and (allPass fun b' hb' => h b' (List.mem_cons_of_mem b hb'))

/-- **There is one fault** that can stop the checks. -/
theorem exists_fault (h : FailsAlike good check) :
    ∃ f, ∀ a, good a → (∃ b, check a = .ok b) ∨ check a = .error f := by
  rcases h with h | ⟨f, h⟩
  · exact ⟨.dateOverflow, fun a ha => Or.inl (h a ha)⟩
  · exact ⟨f, fun a ha => (h a ha).imp_left fun hb => ⟨false, hb⟩⟩

end FailsAlike

/-! ## 2. Limits and bounds -/

/-- A limit to a day that no day follows is passed by no record. -/
theorem DayLimit.failsAlike (limit : DayLimit) : FailsAlike (fun _ => True) limit.admits := by
  obtain ⟨bound, day⟩ := limit
  cases bound with
  | after => exact .of_ok (fun start => day.le start) fun _ _ => rfl
  | before => exact .of_ok (fun start => start.lt day) fun _ _ => rfl
  | on =>
      unfold admits
      dsimp only
      rcases day.shiftDays_one with ⟨next, hnext, -⟩ | ⟨hnone, -⟩
      · refine .of_ok (fun start => day.le start && start.lt next) fun start _ => ?_
        rw [hnext]
        cases day.le start with
        | false => rfl
        | true => rfl
      · refine Or.inr ⟨.dateOverflow, fun start _ => ?_⟩
        dsimp only
        rw [hnone]
        cases day.le start with
        | false => exact Or.inl rfl
        | true => exact Or.inr rfl

/-- A limit to a length without whole minutes cannot be decided for any record. -/
theorem LengthLimit.failsAlike (p : Precision) (limit : LengthLimit) :
    FailsAlike (fun _ => True) fun seconds => limit.admits p (.ofRat seconds) := by
  obtain ⟨bound, amount⟩ := limit
  cases bound with
  | above => exact .of_ok (fun seconds => amount.lt (.ofRat seconds)) fun _ _ => rfl
  | below => exact .of_ok (fun seconds => (Amount.ofRat seconds).lt amount) fun _ _ => rfl
  | same =>
      unfold admits
      dsimp only
      cases hminutes : amount.wholeMinutes p with
      | ok n => exact .of_ok (fun seconds => Amount.minutesOf p seconds == n) fun _ _ => rfl
      | error f => exact Or.inr ⟨f, fun _ _ => Or.inr rfl⟩

/-- A bound that is no number cannot be compared with any number. -/
theorem keepsTo_failsAlike {α : Type} {good : α → Prop} (symbol : String) (bound : Json)
    (holds : α → Amount → Bool) : FailsAlike good fun a => keepsTo symbol (holds a) bound := by
  cases hgiven : bound.isGiven with
  | false =>
      refine .of_ok (fun _ => true) fun a _ => ?_
      unfold keepsTo
      rw [hgiven]
      rfl
  | true =>
      cases hamount : bound.amount? with
      | some b =>
          refine .of_ok (fun a => holds a b) fun a _ => ?_
          unfold keepsTo
          rw [hgiven, hamount]
          rfl
      | none =>
          refine Or.inr ⟨.unordered symbol "float" bound.kindName, fun a _ => Or.inr ?_⟩
          unfold keepsTo
          rw [hgiven, hamount]
          rfl

/-! ## 3. Times -/

namespace TimeCriteria

theorem admitsLength_failsAlike (p : Precision) (c : TimeCriteria) :
    FailsAlike (fun _ => True) (c.admitsLength p) := by
  have hlimits : FailsAlike (fun _ : Rat => True) fun seconds =>
      allPass (·.admits p (Amount.ofRat seconds)) c.lengths :=
    .allPass (f := fun (limit : LengthLimit) seconds => limit.admits p (Amount.ofRat seconds))
      fun limit _ => limit.failsAlike p
  have hmin : FailsAlike (fun _ : Rat => True) fun seconds =>
      keepsTo "<" (·.le (Amount.ofRat seconds)) c.minSeconds := keepsTo_failsAlike _ _ _
  have hmax : FailsAlike (fun _ : Rat => True) fun seconds =>
      keepsTo ">" ((Amount.ofRat seconds).le ·) c.maxSeconds := keepsTo_failsAlike _ _ _
  refine (hmin.and (hmax.and hlimits)).congr fun seconds _ => ?_
  unfold admitsLength
  refine congrArg _ (funext fun atLeast => ?_)
  cases atLeast with
  | false => rfl
  | true =>
      refine congrArg (keepsTo ">" _ c.maxSeconds >>= ·) (funext fun atMost => ?_)
      cases atMost with
      | false => rfl
      | true => rfl

/-- The checks of starts and lengths fail alike. -/
theorem failsAlike (p : Precision) (c : TimeCriteria) :
    FailsAlike (fun _ => True) fun time : Moment × Rat => c.admits p time.1 time.2 := by
  have hstart : FailsAlike (fun _ : Moment × Rat => True) fun time =>
      .ok (c.admitsStart time.1) := .of_ok (fun time => c.admitsStart time.1) fun _ _ => rfl
  have hdays : FailsAlike (fun _ : Moment × Rat => True) fun time =>
      allPass (·.admits time.1) c.days :=
    .allPass (f := fun (limit : DayLimit) (time : Moment × Rat) => limit.admits time.1)
      fun limit _ => limit.failsAlike.part _ fun _ _ => trivial
  have hlength : FailsAlike (fun _ : Moment × Rat => True) fun time => c.admitsLength p time.2 :=
    (c.admitsLength_failsAlike p).part _ fun _ _ => trivial
  exact hstart.and (hdays.and hlength)

end TimeCriteria

/-! ## 4. Records -/

/-- **The checks of complete activities fail alike.** -/
theorem ActivityCriteria.failsAlike (p : Precision) (c : ActivityCriteria) :
    FailsAlike (fun a => (Record.activity a).IsComplete) (c.admits p) := by
  have hpicks : FailsAlike (fun a => (Record.activity a).IsComplete) fun a => .ok (c.picks a) :=
    .of_ok c.picks fun _ _ => rfl
  have htime : FailsAlike (fun a => (Record.activity a).IsComplete) fun a =>
      c.time.admits p (a.start.getD default)
        (Activity.secondsBetween p (a.start.getD default) (a.finish.getD c.time.now)) :=
    (c.time.failsAlike p).part (fun a : Activity => (a.start.getD default,
      Activity.secondsBetween p (a.start.getD default) (a.finish.getD c.time.now)))
      fun _ _ => trivial
  have htext : FailsAlike (fun a => (Record.activity a).IsComplete) fun a =>
      .ok (c.text.admits (loweredTexts (Record.activity a).written)) := .of_ok _ fun _ _ => rfl
  refine (hpicks.and (htime.and htext)).congr fun a ha => ?_
  obtain ⟨start, hstart⟩ := Option.isSome_iff_exists.mp ha.settled
  rw [admits_eq ha hstart, hstart]
  rfl

/-- **The checks of complete time entries fail alike.** -/
theorem TimeEntryCriteria.failsAlike (p : Precision) (c : TimeEntryCriteria) :
    FailsAlike (fun e => (Record.timeEntry e).IsComplete) (c.admits p) := by
  have hpicks : FailsAlike (fun e => (Record.timeEntry e).IsComplete) fun e => .ok (c.picks e) :=
    .of_ok c.picks fun _ _ => rfl
  have htime : FailsAlike (fun e => (Record.timeEntry e).IsComplete) fun e =>
      c.time.admits p e.start (e.seconds p) :=
    (c.time.failsAlike p).part (fun e : TimeEntry => (e.start, e.seconds p))
      fun _ _ => trivial
  have htext : FailsAlike (fun e => (Record.timeEntry e).IsComplete) fun e =>
      .ok (c.text.admits (loweredTexts (Record.timeEntry e).written)) := .of_ok _ fun _ _ => rfl
  exact (hpicks.and (htime.and htext)).congr fun e he => admits_eq he p

/-- **The checks of complete projects** come to no fault. -/
theorem ProjectCriteria.failsAlike (c : ProjectCriteria) :
    FailsAlike (fun x => (Record.project x).IsComplete) c.admits :=
  .of_ok c.meets fun _ hx => admits_ok hx

end Worklog
