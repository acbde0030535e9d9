import Worklog.Proofs.Criteria
import Worklog.Proofs.Query.Plain
import Worklog.Search.Basic

/-!
# What a search asks of a record

A search by words asks two things of a record, and they do not depend on each other: that it meets
the panel (`Panel.admits`), and that each text that is looked for occurs in one of its texts
(`Record.mentions`). `Search.activity_verdict`, `Search.timeEntry_verdict` and
`Search.project_verdict` say so of the criteria of the three kinds.

The bounds on the length have to be numbers or null (`Panel.HasBounds`).
-/

namespace Worklog

/-! ## 1. The two questions -/

/-- The bounds on the length are numbers or null. -/
def Panel.HasBounds (f : Panel) : Prop :=
  f.minSeconds.isBound = true ∧ f.maxSeconds.isBound = true

instance (f : Panel) : Decidable f.HasBounds :=
  inferInstanceAs (Decidable (f.minSeconds.isBound = true ∧ f.maxSeconds.isBound = true))

/-- Whether a start and a length keep to the bounds of a panel. -/
def Panel.inBounds (f : Panel) (start : Moment) (seconds : Rat) : Bool :=
  f.start.all (·.le start) && f.finish.all (start.le ·) &&
    f.minSeconds.keeps (·.le (Amount.ofRat seconds)) &&
    f.maxSeconds.keeps ((Amount.ofRat seconds).le ·)

/-- **Whether a complete record meets a panel.** -/
def Panel.admits (p : Precision) (now : Moment) (f : Panel) : Record → Bool
  | .activity a =>
    let start := a.start.getD default
    !(f.excludeIdle && a.idle) && isChosen (Json.labels f.apps) (.text a.appName.textD) &&
      f.inBounds start (Activity.secondsBetween p start (a.finish.getD now))
  | .timeEntry e => isChosen (Json.labels f.projects) e.project && f.inBounds e.start (e.seconds p)
  | .project r => isChosen (Json.labels f.projects) (.text r.id)

/-- The lower-cased texts of a record that criteria look at. -/
def Record.wording : Record → List Text
  | .project r => [Text.lower r.name.textD]
  | r => loweredTexts r.written

/-- **Whether each of some texts occurs in a text of a record.** -/
def Record.mentions (r : Record) (ts : List Text) : Bool :=
  ts.all fun t => r.wording.any t.occursIn

/-- A record mentions a text that is not empty if one of its fields contains it, letter case
    aside. -/
theorem Record.any_wording_iff {r : Record} {w : Text} (hw : w ≠ []) :
    r.wording.any w.occursIn = true ↔ ∃ t ∈ r.written, w <:+: Text.lower t := by
  cases r with
  | activity a => exact any_loweredTexts_iff hw
  | timeEntry e => exact any_loweredTexts_iff hw
  | project p =>
      show [Text.lower p.name.textD].any w.occursIn = true ↔ ∃ t ∈ [p.name.textD], _
      simp [Text.occursIn_iff]

/-! ## 2. Verdicts -/

namespace Search

variable {f : Panel} {p : Precision} {now : Moment} {ws : List Text}

theorem time_verdict (hf : f.HasBounds) (start : Moment) (seconds : Rat) :
    (timeCriteria (.ofWords ws) f now).admits p start seconds = .ok (f.inBounds start seconds) :=
  TimeCriteria.admits_ok rfl rfl hf.1 hf.2 p start seconds

theorem text_verdict (texts : List Text) : (textCriteria (.ofWords ws)).admits texts =
    (Query.textTerms (.ofWords ws)).all fun t => texts.any t.occursIn := by
  unfold TextCriteria.admits textCriteria
  exact Bool.and_true _

/-- **A search by words asks of an activity** that it meets the panel and mentions the words. -/
theorem activity_verdict (hf : f.HasBounds) {a : Activity} (ha : (Record.activity a).IsComplete) :
    (activityCriteria (.ofWords ws) f now).admits p a =
      .ok (f.admits p now (.activity a) &&
        (Record.activity a).mentions (Query.textTerms (.ofWords ws))) := by
  obtain ⟨start, hstart⟩ := Option.isSome_iff_exists.mp ha.settled
  have hadmits := ActivityCriteria.admits_ok (c := activityCriteria (.ofWords ws) f now) ha hstart
    (time_verdict (p := p) hf start
      (Activity.secondsBetween p start (a.finish.getD now)))
  rw [hadmits]
  simp only [ActivityCriteria.meets, Panel.admits, Record.mentions, hstart, Option.getD_some]
  show Except.ok (_ && _ && true && _ && (textCriteria (.ofWords ws)).admits _) = _
  rw [text_verdict, Bool.and_true]
  rfl

/-- **A search by words asks of a time entry** that it meets the panel and mentions the words. -/
theorem timeEntry_verdict (hf : f.HasBounds) {e : TimeEntry}
    (he : (Record.timeEntry e).IsComplete) :
    (timeEntryCriteria (.ofWords ws) f now none).admits p e =
      .ok (f.admits p now (.timeEntry e) &&
        (Record.timeEntry e).mentions (Query.textTerms (.ofWords ws))) := by
  rw [TimeEntryCriteria.admits_ok he (time_verdict hf e.start (e.seconds p))]
  unfold TimeEntryCriteria.meets Panel.admits Record.mentions
  show Except.ok (_ && true && _ && (textCriteria (.ofWords ws)).admits _) = _
  rw [text_verdict, Bool.and_true]
  rfl

/-- **A search by words asks of a project** that it meets the panel and mentions the words. -/
theorem project_verdict {r : Project} (hr : (Record.project r).IsComplete) :
    (projectCriteria (.ofWords ws) f).admits r =
      .ok (f.admits p now (.project r) &&
        (Record.project r).mentions (Query.textTerms (.ofWords ws))) := by
  rw [ProjectCriteria.admits_ok hr]
  unfold ProjectCriteria.meets Panel.admits Record.mentions
  show Except.ok (_ && (true && (textCriteria (.ofWords ws)).admits _)) = _
  rw [text_verdict, Bool.true_and]
  rfl

end Search

end Worklog
