import Worklog.Proofs.Store
import Worklog.Score
import Worklog.Search.Basic

/-!
# Ranking complete records

Complete records have scores, and so they can be ranked. A ranked list holds what was ranked, each
item with its score:

* `Score.ranked_ok`: a ranked list, item by item;
* **`Search.rank_ok`**: the results of a search, record by record.

`Results.scored` lists the records of results with their scores, whatever their kind.
-/

namespace Worklog

/-! ## 1. Scores -/

/-- The texts of a complete record. -/
theorem Record.texts_ok {r : Record} (h : r.HasTexts) :
    r.texts = .ok (r.fields.map fun f => (f.1, f.2.textD)) := by
  refine mapM_ok fun f hf => ?_
  obtain ⟨name, v⟩ := f
  have hv := h _ hf
  cases v with
  | str t => rfl
  | null => rfl
  | _ => cases hv

namespace Score

theorem ofFields_ok {r : Record} (h : r.HasTexts) (p : Precision) (text : Text) :
    ∃ x, ofFields p text r = .ok x := by
  unfold ofFields
  dsimp only
  split
  · exact ⟨_, rfl⟩
  · rw [Record.texts_ok h]
    exact ⟨_, rfl⟩

theorem activity_ok {a : Activity} (h : (Record.activity a).IsComplete) (p : Precision)
    (text : Text) (now : Moment) : ∃ x, activity p text now a = .ok x := by
  obtain ⟨x, hx⟩ := ofFields_ok h.texts p text
  obtain ⟨start, hstart⟩ := Option.isSome_iff_exists.mp h.settled
  have hbegin : a.begin = .ok start := by
    unfold Activity.begin
    rw [hstart]
  unfold activity Activity.seconds
  rw [hx, hbegin]
  exact ⟨_, rfl⟩

theorem timeEntry_ok {e : TimeEntry} (h : (Record.timeEntry e).IsComplete) (p : Precision)
    (text : Text) (now : Moment) : ∃ x, timeEntry p text now e = .ok x := by
  obtain ⟨x, hx⟩ := ofFields_ok h.texts p text
  unfold timeEntry
  rw [hx]
  exact ⟨_, rfl⟩

theorem project_ok {r : Project} (h : (Record.project r).IsComplete) (p : Precision) (text : Text) :
    ∃ x, project p text r = .ok x := by
  obtain ⟨x, hx⟩ := ofFields_ok h.texts p text
  unfold project
  rw [hx]
  exact ⟨_, rfl⟩

/-- **A ranked list holds what was ranked**, each item with its score. -/
theorem ranked_ok {α : Type} {score : α → Except Fault Rat} {items : List α}
    (h : ∀ a ∈ items, ∃ x, score a = .ok x) :
    ∃ l, ranked score items = .ok l ∧
      ∀ s : Scored α, s ∈ l ↔ s.item ∈ items ∧ score s.item = .ok s.score := by
  have hscored : scored score items =
      .ok (items.map fun a => ⟨a, (score a).toOption.getD 0⟩) := mapM_ok fun a ha => by
    obtain ⟨x, hx⟩ := h a ha
    rw [hx]
    rfl
  refine ⟨_, congrArg (fun l => (do return sorted (← l))) hscored, fun s => ?_⟩
  rw [(sorted_perm _).mem_iff, List.mem_map]
  constructor
  · intro hm
    obtain ⟨a, ha, rfl⟩ := hm
    obtain ⟨x, hx⟩ := h a ha
    refine ⟨ha, ?_⟩
    show score a = .ok ((score a).toOption.getD 0)
    rw [hx]
    rfl
  · intro hm
    obtain ⟨hs, hx⟩ := hm
    refine ⟨s.item, hs, ?_⟩
    rw [hx]
    rfl

end Score

/-! ## 2. Results -/

namespace Results

/-- The records of results with their scores. -/
def scored (r : Results) : List (Scored Record) :=
  r.activities.map (fun s => ⟨.activity s.item, s.score⟩) ++
    r.timeEntries.map (fun s => ⟨.timeEntry s.item, s.score⟩) ++
    r.projects.map fun s => ⟨.project s.item, s.score⟩

theorem mem_scored_activity {res : Results} {a : Activity} {x : Rat} :
    ⟨.activity a, x⟩ ∈ res.scored ↔ ⟨a, x⟩ ∈ res.activities := by
  simp only [scored, List.mem_append, List.mem_map, Scored.mk.injEq, Record.activity.injEq,
    reduceCtorEq, false_and, and_false, exists_false, or_false]
  constructor
  · intro h
    obtain ⟨s, hs, rfl, rfl⟩ := h
    exact hs
  · intro hs
    exact ⟨_, hs, rfl, rfl⟩

theorem mem_scored_timeEntry {res : Results} {e : TimeEntry} {x : Rat} :
    ⟨.timeEntry e, x⟩ ∈ res.scored ↔ ⟨e, x⟩ ∈ res.timeEntries := by
  simp only [scored, List.mem_append, List.mem_map, Scored.mk.injEq, Record.timeEntry.injEq,
    reduceCtorEq, false_and, and_false, exists_false, or_false, false_or]
  constructor
  · intro h
    obtain ⟨s, hs, rfl, rfl⟩ := h
    exact hs
  · intro hs
    exact ⟨_, hs, rfl, rfl⟩

theorem mem_scored_project {res : Results} {p : Project} {x : Rat} :
    ⟨.project p, x⟩ ∈ res.scored ↔ ⟨p, x⟩ ∈ res.projects := by
  simp only [scored, List.mem_append, List.mem_map, Scored.mk.injEq, Record.project.injEq,
    reduceCtorEq, false_and, and_false, exists_false, false_or]
  constructor
  · intro h
    obtain ⟨s, hs, rfl, rfl⟩ := h
    exact hs
  · intro hs
    exact ⟨_, hs, rfl, rfl⟩

/-- The records of results. -/
def records (r : Results) : List Record := r.scored.map (·.item)

theorem mem_records {res : Results} {r : Record} : r ∈ res.records ↔ ∃ x, ⟨r, x⟩ ∈ res.scored := by
  rw [records, List.mem_map]
  constructor
  · intro h
    obtain ⟨s, hs, rfl⟩ := h
    exact ⟨s.score, hs⟩
  · intro h
    obtain ⟨x, hx⟩ := h
    exact ⟨_, hx, rfl⟩

end Results

/-- The score of a record for a text. -/
def Score.record (p : Precision) (text : Text) (now : Moment) : Record → Except Fault Rat
  | .activity a => activity p text now a
  | .timeEntry e => timeEntry p text now e
  | .project r => project p text r

theorem Score.record_ok {r : Record} (h : r.IsComplete) (p : Precision) (text : Text)
    (now : Moment) :
    ∃ x, Score.record p text now r = .ok x := by
  cases r with
  | activity a => exact activity_ok h p text now
  | timeEntry e => exact timeEntry_ok h p text now
  | project r => exact project_ok h p text

/-- The record is among some activities, time entries and projects. -/
def Record.isAmong (as : List Activity) (es : List TimeEntry) (ps : List Project) : Record → Prop
  | .activity a => a ∈ as
  | .timeEntry e => e ∈ es
  | .project p => p ∈ ps

theorem Store.mem_records_iff {s : Store} {r : Record} : r ∈ s.records ↔
    r.isAmong s.activityTable.values s.timeEntryTable.values s.projectTable.values := by
  cases r <;> simp [Store.records, Record.isAmong]

/-- **Complete records can be ranked**: the results hold each of them with its score. -/
theorem Search.rank_ok {as : List Activity} {es : List TimeEntry} {ps : List Project}
    (h : ∀ r : Record, r.isAmong as es ps → r.IsComplete) (p : Precision) (text : Text)
    (now : Moment) :
    ∃ res, rank p text now as es ps = .ok res ∧
      ∀ r x, ⟨r, x⟩ ∈ res.scored ↔ r.isAmong as es ps ∧ Score.record p text now r = .ok x := by
  have hactivity : ∀ a ∈ as, ∃ x, Score.activity p text now a = .ok x := fun a ha =>
    Score.activity_ok (h (.activity a) ha) p text now
  have htimeEntry : ∀ e ∈ es, ∃ x, Score.timeEntry p text now e = .ok x := fun e he =>
    Score.timeEntry_ok (h (.timeEntry e) he) p text now
  have hproject : ∀ r ∈ ps, ∃ x, Score.project p text r = .ok x := fun r hr =>
    Score.project_ok (h (.project r) hr) p text
  obtain ⟨la, hla, hma⟩ := Score.ranked_ok hactivity
  obtain ⟨le, hle, hme⟩ := Score.ranked_ok htimeEntry
  obtain ⟨lp, hlp, hmp⟩ := Score.ranked_ok hproject
  refine ⟨.found la le lp, ?_, fun r x => ?_⟩
  · unfold rank
    rw [hla, hle, hlp]
    rfl
  · cases r with
    | activity a => exact Results.mem_scored_activity.trans (hma _)
    | timeEntry e => exact Results.mem_scored_timeEntry.trans (hme _)
    | project r => exact Results.mem_scored_project.trans (hmp _)

/-- Complete records are in results that hold them with their scores. -/
theorem Results.mem_records_of {res : Results} {P : Record → Prop} (hP : ∀ r, P r → r.IsComplete)
    {p : Precision} {text : Text} {now : Moment}
    (h : ∀ r x, ⟨r, x⟩ ∈ res.scored ↔ P r ∧ Score.record p text now r = .ok x) (r : Record) :
    r ∈ res.records ↔ P r := by
  rw [mem_records]
  constructor
  · intro hm
    obtain ⟨x, hx⟩ := hm
    exact ((h r x).mp hx).1
  · intro hr
    obtain ⟨x, hx⟩ := Score.record_ok (hP r hr) p text now
    exact ⟨x, (h r x).mpr ⟨hr, hx⟩⟩

end Worklog
