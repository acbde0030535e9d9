import Worklog.Proofs.Limit
import Worklog.Proofs.Store

/-!
# Criteria for complete records

Criteria may come to a fault: where a bound on the length is no number, or a record lacks what they
look at. For complete records and bounds that are numbers or null, the limits on days are all that
may not be decided:

* `TimeCriteria.admits_ok`: without limits the bounds of the panel decide;
* **`ActivityCriteria.admits_ok`**, **`TimeEntryCriteria.admits_ok`**,
  **`ProjectCriteria.admits_ok`**: all that is asked of a record, where its time can be judged;
* `TimeCriteria.tells`, **`ActivityCriteria.tells`**, **`TimeEntryCriteria.tells`**: what is told of
  a record, whether or not its time can be judged.
-/

namespace Worklog

/-! ## 1. Values -/

/-- Whether a value can be a bound on a length: null, or a number. -/
def Json.isBound (v : Json) : Bool := !v.isGiven || v.amount?.isSome

/-- Whether a number keeps to a bound, if there is one. -/
def Json.keeps (holds : Amount → Bool) (bound : Json) : Bool :=
  !bound.isGiven || bound.amount?.all holds

theorem keepsTo_ok {bound : Json} (h : bound.isBound = true) (symbol : String)
    (holds : Amount → Bool) : keepsTo symbol holds bound = .ok (bound.keeps holds) := by
  unfold keepsTo Json.keeps
  unfold Json.isBound at h
  cases hgiven : bound.isGiven with
  | false => rfl
  | true =>
      rw [hgiven] at h
      obtain ⟨b, hb⟩ := Option.isSome_iff_exists.mp h
      rw [hb]
      rfl

/-- Whether a label is one of some, if there are any to choose from. -/
def isChosen (selection : List Label) (l : Label) : Bool :=
  selection.isEmpty || selection.contains l

theorem isSelected_ok (selection : List Label) {v : Json} {l : Label} (h : v.label = .ok l) :
    isSelected selection v = .ok (isChosen selection l) := by
  unfold isSelected isChosen
  cases selection.isEmpty with
  | true => rfl
  | false =>
      rw [h]
      rfl

/-! ## 2. Texts -/

/-- The texts of the fields of a record; a field without a text has the empty one. -/
def Record.written (r : Record) : List Text := r.fields.map (·.2.textD)

/-- A field of a record contains a text, letter case aside. -/
def Record.Contains (r : Record) (w : Text) : Prop :=
  ∃ t ∈ r.written, t ≠ [] ∧ w <:+: Text.lower t

instance (r : Record) (w : Text) : Decidable (r.Contains w) :=
  inferInstanceAs (Decidable (∃ t ∈ r.written, t ≠ [] ∧ w <:+: Text.lower t))

/-- The texts of a complete record are looked at in lower case. -/
theorem searchTexts_ok {r : Record} (h : r.HasTexts) :
    searchTexts r.fields = .ok (loweredTexts r.written) := by
  have hfields : ∀ fields : List (Field × Json), (∀ f ∈ fields, f.1.admits f.2 = true) →
      searchTexts fields = .ok (loweredTexts (fields.map (·.2.textD))) := by
    intro fields hall
    induction fields with
    | nil => rfl
    | cons f fields ih =>
        obtain ⟨name, v⟩ := f
        have hv := hall _ List.mem_cons_self
        have hrest := ih fun g hg => hall g (List.mem_cons_of_mem _ hg)
        unfold searchTexts at hrest ⊢
        unfold loweredTexts at hrest ⊢
        cases v with
        | null => exact hrest
        | str t =>
            cases t with
            | nil => exact hrest
            | cons c t =>
                show (List.mapM _ ((name, Json.str (c :: t)) :: _)) = _
                rw [List.mapM_cons, hrest]
                rfl
        | _ => cases hv
  exact hfields r.fields h

/-- A text that is not empty occurs in some text of a record, letter case aside. -/
theorem any_loweredTexts_iff {w : Text} (hw : w ≠ []) {ts : List Text} :
    (loweredTexts ts).any (Text.occursIn w) = true ↔ ∃ t ∈ ts, w <:+: Text.lower t := by
  simp only [loweredTexts, List.any_map, List.any_eq_true, List.mem_filter, Text.occursIn_iff,
    Function.comp_apply]
  constructor
  · intro h
    obtain ⟨t, ⟨ht, -⟩, hi⟩ := h
    exact ⟨t, ht, hi⟩
  · intro h
    obtain ⟨t, ht, hi⟩ := h
    refine ⟨t, ⟨ht, ?_⟩, hi⟩
    cases t with
    | nil => exact absurd (List.infix_nil.mp hi) hw
    | cons c t => rfl

/-! ## 3. Times -/

namespace TimeCriteria

/-- Whether a start and a length keep to the bounds of the panel. -/
def inBounds (c : TimeCriteria) (start : Moment) (seconds : Rat) : Bool :=
  c.admitsStart start && c.minSeconds.keeps (·.le (Amount.ofRat seconds)) &&
    c.maxSeconds.keeps ((Amount.ofRat seconds).le ·)

/-- The bounds of the panel on a length come before the limits on it. -/
theorem admitsLength_eq {c : TimeCriteria} (hmin : c.minSeconds.isBound = true)
    (hmax : c.maxSeconds.isBound = true) (p : Precision) (seconds : Rat) :
    c.admitsLength p seconds = if c.minSeconds.keeps (·.le (Amount.ofRat seconds)) &&
        c.maxSeconds.keeps ((Amount.ofRat seconds).le ·) then
      allPass (·.admits p (Amount.ofRat seconds)) c.lengths
    else .ok false := by
  unfold admitsLength
  dsimp only
  rw [keepsTo_ok hmin, keepsTo_ok hmax]
  cases c.minSeconds.keeps (·.le (Amount.ofRat seconds)) with
  | false => rfl
  | true =>
      show (if !(c.maxSeconds.keeps _) then _ else _) = _
      cases c.maxSeconds.keeps ((Amount.ofRat seconds).le ·) with
      | false => rfl
      | true => rfl

/-- **Without limits from a query, the bounds of the panel decide.** -/
theorem admits_ok {c : TimeCriteria} (hdays : c.days = []) (hlengths : c.lengths = [])
    (hmin : c.minSeconds.isBound = true) (hmax : c.maxSeconds.isBound = true) (p : Precision)
    (start : Moment) (seconds : Rat) :
    c.admits p start seconds = .ok (c.inBounds start seconds) := by
  have hlength : c.admitsLength p seconds =
      .ok (c.minSeconds.keeps (·.le (Amount.ofRat seconds)) &&
        c.maxSeconds.keeps ((Amount.ofRat seconds).le ·)) := by
    rw [admitsLength_eq hmin hmax, hlengths]
    cases c.minSeconds.keeps (·.le (Amount.ofRat seconds)) &&
        c.maxSeconds.keeps ((Amount.ofRat seconds).le ·) with
    | false => rfl
    | true => rfl
  unfold admits inBounds
  rw [hdays, hlength, Bool.and_assoc]
  cases c.admitsStart start with
  | false => rfl
  | true => rfl

/-- The limits on days stall for a start within the bounds of the panel. -/
def Stalls (c : TimeCriteria) (start : Moment) : Prop :=
  c.admitsStart start = true ∧ Worklog.Stalls (·.Holds start) (·.Overflows start) c.days

/-- **What is told of a start and a length**: that they keep to the bounds of the panel, and what
    the limits of a query tell. -/
theorem tells {c : TimeCriteria} (hmin : c.minSeconds.isBound = true)
    (hmax : c.maxSeconds.isBound = true) (hlengths : ∀ l ∈ c.lengths, ∃ x, l.seconds = .ofRat x)
    (p : Precision) (start : Moment) (seconds : Rat) :
    Tells (c.admits p start seconds)
      (c.inBounds start seconds = true ∧ (∀ l ∈ c.days, l.Holds start) ∧
        ∀ l ∈ c.lengths, l.Holds p seconds)
      (c.Stalls start) := by
  have hlimits : Tells (allPass (·.admits p (Amount.ofRat seconds)) c.lengths)
      (∀ l ∈ c.lengths, l.Holds p seconds) False :=
    (Tells.allPass (C := fun _ => False) fun l hl =>
      let ⟨_, hx⟩ := hlengths l hl
      l.tells p hx seconds).imp Iff.rfl ⟨not_stalls, False.elim⟩
  have hlength : Tells (c.admitsLength p seconds)
      ((c.minSeconds.keeps (·.le (Amount.ofRat seconds)) &&
        c.maxSeconds.keeps ((Amount.ofRat seconds).le ·)) = true ∧
        ∀ l ∈ c.lengths, l.Holds p seconds) False := by
    rw [admitsLength_eq hmin hmax]
    exact ((Tells.of_eq rfl).and hlimits).imp Iff.rfl
      ⟨fun h => h.elim id And.right, False.elim⟩
  have hdays : Tells (allPass (·.admits start) c.days) (∀ l ∈ c.days, l.Holds start)
      (Worklog.Stalls (·.Holds start) (·.Overflows start) c.days) :=
    Tells.allPass fun l _ => l.tells start
  have hall : Tells (c.admits p start seconds) (c.admitsStart start = true ∧
      (∀ l ∈ c.days, l.Holds start) ∧ (c.minSeconds.keeps (·.le (Amount.ofRat seconds)) &&
        c.maxSeconds.keeps ((Amount.ofRat seconds).le ·)) = true ∧
      ∀ l ∈ c.lengths, l.Holds p seconds) _ :=
    (Tells.of_eq (b := c.admitsStart start) rfl).and (hdays.and hlength)
  refine hall.imp ?_ ?_
  · unfold inBounds
    rw [Bool.and_assoc (c.admitsStart start), Bool.and_eq_true (c.admitsStart start)]
    exact ⟨fun ⟨hs, hd, hb, hl⟩ => ⟨⟨hs, hb⟩, hd, hl⟩, fun ⟨⟨hs, hb⟩, hd, hl⟩ => ⟨hs, hd, hb, hl⟩⟩
  · unfold Stalls
    rw [false_or, and_false, or_false]

end TimeCriteria

/-! ## 4. Records -/

/-- Whether an activity is of an app that is asked for, and no idle time if that is left out. -/
def ActivityCriteria.picks (c : ActivityCriteria) (a : Activity) : Bool :=
  !(c.excludeIdle && a.idle) && isChosen c.apps (.text a.appName.textD) &&
    containsSome c.appPatterns (Text.lower a.appName.textD)

/-- **What an activity has to meet**, where `inTime` is the verdict on its time. -/
def ActivityCriteria.meets (c : ActivityCriteria) (a : Activity) (inTime : Bool) : Bool :=
  !(c.excludeIdle && a.idle) && isChosen c.apps (.text a.appName.textD) &&
    containsSome c.appPatterns (Text.lower a.appName.textD) && inTime &&
    c.text.admits (loweredTexts (Record.activity a).written)

/-- A complete activity is checked for its app, then for its time, then for its texts. -/
theorem ActivityCriteria.admits_eq {c : ActivityCriteria} {a : Activity}
    (h : (Record.activity a).IsComplete) {start : Moment} (hstart : a.start = some start)
    (p : Precision) : c.admits p a =
      if c.picks a then
        c.time.admits p start (Activity.secondsBetween p start (a.finish.getD c.time.now)) >>=
          fun inTime => if inTime then
            .ok (c.text.admits (loweredTexts (Record.activity a).written)) else .ok false
      else .ok false := by
  have hname : a.appName = .str a.appName.textD :=
    h.texts.eq_str (f := .appName) List.mem_cons_self rfl
  have hbegin : a.begin = .ok start := by
    unfold Activity.begin
    rw [hstart]
  have happ : c.admitsApp a = .ok (c.picks a) := by
    have hselected : isSelected c.apps a.appName = .ok (isChosen c.apps (.text a.appName.textD)) :=
      isSelected_ok _ (by rw [hname]; rfl)
    have hlowered : a.appName.lowered = .ok (Text.lower a.appName.textD) := by
      rw [hname]
      rfl
    unfold admitsApp picks
    rw [hselected, hlowered]
    cases c.excludeIdle && a.idle with
    | true => rfl
    | false =>
        cases isChosen c.apps (.text a.appName.textD) with
        | false => rfl
        | true => rfl
  unfold admits
  rw [happ, Activity.seconds, hbegin, searchTexts_ok h.texts]
  cases c.picks a with
  | false => rfl
  | true =>
      show (c.time.admits p start _ >>= _) = _
      refine congrArg _ (funext fun inTime => ?_)
      cases inTime with
      | false => rfl
      | true => rfl

/-- **What is asked of a complete activity.** -/
theorem ActivityCriteria.admits_ok {c : ActivityCriteria} {a : Activity}
    (h : (Record.activity a).IsComplete) {start : Moment} (hstart : a.start = some start)
    {p : Precision} {inTime : Bool} (htime : c.time.admits p start
      (Activity.secondsBetween p start (a.finish.getD c.time.now)) = .ok inTime) :
    c.admits p a = .ok (c.meets a inTime) := by
  have hmeets : c.meets a inTime = (c.picks a && inTime &&
      c.text.admits (loweredTexts (Record.activity a).written)) := rfl
  rw [admits_eq h hstart, htime, hmeets]
  cases c.picks a with
  | false => rfl
  | true =>
      cases inTime with
      | false => rfl
      | true => rfl

/-- **What is told of a complete activity.** -/
theorem ActivityCriteria.tells {c : ActivityCriteria} {a : Activity}
    (h : (Record.activity a).IsComplete) {start : Moment} (hstart : a.start = some start)
    {p : Precision} {T C : Prop} (htime : Tells (c.time.admits p start
      (Activity.secondsBetween p start (a.finish.getD c.time.now))) T C) :
    Tells (c.admits p a) (c.picks a = true ∧ T ∧
      c.text.admits (loweredTexts (Record.activity a).written) = true)
      (c.picks a = true ∧ C) := by
  rw [admits_eq h hstart]
  refine ((Tells.of_eq (b := c.picks a) rfl).and (htime.and (.of_eq rfl))).imp Iff.rfl ?_
  rw [false_or, and_false, or_false]

/-- The label of the project of a time entry. -/
def TimeEntry.project (e : TimeEntry) : Label :=
  match e.projectId with
  | .str t => .text t
  | _ => .nothing

theorem label_projectId {e : TimeEntry} (h : (Record.timeEntry e).IsComplete) :
    e.projectId.label = .ok e.project := by
  have hsettled := h.settled
  simp only [Record.isSettled] at hsettled
  unfold TimeEntry.project
  cases hid : e.projectId with
  | null => rfl
  | str t => rfl
  | _ =>
      rw [hid] at hsettled
      cases hsettled

/-- Whether a time entry belongs to a project that is asked for. -/
def TimeEntryCriteria.picks (c : TimeEntryCriteria) (e : TimeEntry) : Bool :=
  isChosen c.projects e.project && c.queryProjects.all (·.contains e.project)

/-- **What a time entry has to meet**, where `inTime` is the verdict on its time. -/
def TimeEntryCriteria.meets (c : TimeEntryCriteria) (e : TimeEntry) (inTime : Bool) : Bool :=
  isChosen c.projects e.project && c.queryProjects.all (·.contains e.project) && inTime &&
    c.text.admits (loweredTexts (Record.timeEntry e).written)

/-- A complete time entry is checked for its project, then for its time, then for its texts. -/
theorem TimeEntryCriteria.admits_eq {c : TimeEntryCriteria} {e : TimeEntry}
    (h : (Record.timeEntry e).IsComplete) (p : Precision) : c.admits p e =
      if c.picks e then
        c.time.admits p e.start (e.seconds p) >>= fun inTime => if inTime then
          .ok (c.text.admits (loweredTexts (Record.timeEntry e).written)) else .ok false
      else .ok false := by
  have hproject : e.projectId.label = .ok e.project := label_projectId h
  have hadmits : c.admitsProject e = .ok (c.picks e) := by
    unfold admitsProject picks
    rw [isSelected_ok _ hproject]
    cases isChosen c.projects e.project with
    | false => rfl
    | true =>
        cases c.queryProjects with
        | none => rfl
        | some ids =>
            show (e.projectId.label >>= _) = _
            rw [hproject]
            rfl
  unfold admits
  rw [hadmits, searchTexts_ok h.texts]
  cases c.picks e with
  | false => rfl
  | true =>
      show (c.time.admits p e.start _ >>= _) = _
      refine congrArg _ (funext fun inTime => ?_)
      cases inTime with
      | false => rfl
      | true => rfl

/-- **What is asked of a complete time entry.** -/
theorem TimeEntryCriteria.admits_ok {c : TimeEntryCriteria} {e : TimeEntry}
    (h : (Record.timeEntry e).IsComplete) {p : Precision} {inTime : Bool}
    (htime : c.time.admits p e.start (e.seconds p) = .ok inTime) :
    c.admits p e = .ok (c.meets e inTime) := by
  have hmeets : c.meets e inTime = (c.picks e && inTime &&
      c.text.admits (loweredTexts (Record.timeEntry e).written)) := rfl
  rw [admits_eq h, htime, hmeets]
  cases c.picks e with
  | false => rfl
  | true =>
      cases inTime with
      | false => rfl
      | true => rfl

/-- **What is told of a complete time entry.** -/
theorem TimeEntryCriteria.tells {c : TimeEntryCriteria} {e : TimeEntry}
    (h : (Record.timeEntry e).IsComplete) {p : Precision} {T C : Prop}
    (htime : Tells (c.time.admits p e.start (e.seconds p)) T C) :
    Tells (c.admits p e) (c.picks e = true ∧ T ∧
      c.text.admits (loweredTexts (Record.timeEntry e).written) = true)
      (c.picks e = true ∧ C) := by
  rw [admits_eq h]
  refine ((Tells.of_eq (b := c.picks e) rfl).and (htime.and (.of_eq rfl))).imp Iff.rfl ?_
  rw [false_or, and_false, or_false]

/-- **What a project has to meet.** -/
def ProjectCriteria.meets (c : ProjectCriteria) (p : Project) : Bool :=
  isChosen c.projects (.text p.id) && (containsSome c.namePatterns (Text.lower p.name.textD) &&
    c.text.admits [Text.lower p.name.textD])

/-- **What is asked of a complete project.** -/
theorem ProjectCriteria.admits_ok {c : ProjectCriteria} {p : Project}
    (h : (Record.project p).IsComplete) : c.admits p = .ok (c.meets p) := by
  have hlowered : p.name.lowered = .ok (Text.lower p.name.textD) := by
    rw [Store.name_eq_str h]
    rfl
  unfold admits meets
  rw [isSelected_ok _ (l := .text p.id) rfl, hlowered]
  cases isChosen c.projects (.text p.id) with
  | false => rfl
  | true => rfl

end Worklog
