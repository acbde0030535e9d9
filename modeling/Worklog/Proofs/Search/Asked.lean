import Worklog.Proofs.Criteria
import Worklog.Proofs.Panel
import Worklog.Proofs.Query.Executed
import Worklog.Proofs.Search.Ranking
import Worklog.Proofs.Search.Verdict
import Worklog.Session.Basic

/-!
# What a search over the store finds

The criteria of a search over the store are made of the query and the panel, kind by kind, and
projects are looked up for time entries before these are checked. What all this comes to is said
here without criteria:

* `Search.Asked`: the app or project, the time and the texts that are asked of a record;
* `Search.Undecided`: a record on the last day of the calendar for which there is no verdict;
* `Query.lengths_of_read`: the lengths of a query that was read are rational numbers of seconds;
* `Search.projectsNamed_ok`, `Search.queryProjects_ok`: the projects that a query names;
* `Search.activity_tells`, `Search.timeEntry_tells`, `Search.project_meets_iff`: what the criteria
  say of a record;
* `Search.full_of_read`: what a search over the store comes to once the query is read;
* **`Search.full_finds`**: a search over the store finds the records of which the query and the
  panel ask it, or it comes to a fault, just if there is no verdict on some record.
-/

namespace Worklog

/-! ## 1. Lengths that were read -/

namespace Query

/-- A part that is a limit on lengths gives a rational number of seconds. -/
def Part.IsRational (part : Part) : Prop := ∀ l, part = .length l → ∃ x, l.seconds = .ofRat x

theorem isRational_filterPart {p : Precision} {now : Moment} {token : Text} {key : Key}
    {value : Text} {part : Part} (h : filterPart p now token key value = .ok part) :
    part.IsRational := by
  intro l hl
  subst hl
  unfold filterPart at h
  split at h
  · cases h
  · cases key with
    | app => cases h
    | project => cases h
    | day bound =>
        obtain ⟨day, -, h⟩ := bind_eq_ok.mp h
        cases day with
        | none => cases h
        | some day => cases h
    | length bound =>
        dsimp only at h
        split at h
        · cases h
          exact ⟨_, rfl⟩
        · cases h

theorem isRational_plainPart {p : Precision} {token : Text} {part : Part}
    (h : plainPart p token = some part) : part.IsRational := by
  intro l hl
  subst hl
  unfold plainPart nonEmpty at h
  split at h
  · split at h
    · cases h
      exact ⟨_, rfl⟩
    · cases h
  · split at h
    · split at h
      · cases h
      · cases h
    · cases h

/-- Every token gives a rational number of seconds, if it is a limit on lengths. -/
theorem isRational_partOf {p : Precision} {now : Moment} {token : Text} {part : Part}
    (h : partOf p now token = .ok (some part)) : part.IsRational := by
  unfold partOf at h
  split at h
  · unfold nonEmpty at h
    split at h
    · cases h
    · cases h
      exact fun l hl => nomatch hl
  · split at h
    next =>
      unfold colonPart at h
      split at h
      next =>
        cases hfilter : filterPart p now token _ _ with
        | error fault =>
            rw [hfilter] at h
            cases h
        | ok part' =>
            rw [hfilter] at h
            cases h
            exact isRational_filterPart hfilter
      next =>
        cases h
        exact fun l hl => nomatch hl
    next => exact isRational_plainPart (Except.ok.inj h)

/-- **The lengths of a query that was read** are rational numbers of seconds. -/
theorem lengths_of_read {p : Precision} {now : Moment} {q : Text} {query : Query}
    (h : read p now q = .ok query) : ∀ l ∈ query.lengths, ∃ x, l.seconds = .ofRat x := by
  obtain ⟨parts, hparts, h⟩ := bind_eq_ok.mp h
  cases h
  intro l hl
  rw [ofParts_eq] at hl
  obtain ⟨part, hpart, hlength⟩ := List.mem_filterMap.mp hl
  have hpart' : part = .length l := by
    cases part with
    | length l' =>
        cases hlength
        rfl
    | _ => cases hlength
  subst hpart'
  rcases List.mem_append.mp hpart with hpart | hpart
  · obtain ⟨o, ho, hsome⟩ := List.mem_filterMap.mp hpart
    obtain rfl : o = some (.length l) := hsome
    obtain ⟨token, -, htoken⟩ := mem_of_mapM hparts _ ho
    exact isRational_partOf htoken l rfl
  · unfold quoteProblem at hpart
    split at hpart
    · exact absurd (List.mem_singleton.mp hpart) nofun
    · cases hpart

end Query

/-! ## 2. What is asked -/

/-- The start and the length of a record, if it has one; open activities run until now. -/
def Record.span? (p : Precision) (now : Moment) : Record → Option (Moment × Rat)
  | .activity a =>
    a.start.map fun start => (start, Activity.secondsBetween p start (a.finish.getD now))
  | .timeEntry e => some (e.start, e.seconds p)
  | .project _ => none

theorem span?_activity {a : Activity} {start : Moment} (h : a.start = some start) (p : Precision)
    (now : Moment) : (Record.activity a).span? p now =
      some (start, Activity.secondsBetween p start (a.finish.getD now)) := by
  unfold Record.span?
  dsimp only
  rw [h]
  rfl

/-- A text contains one of some texts, letter case aside, if there are any. -/
def Text.NamesSome (names : List Text) (t : Text) : Prop :=
  names = [] ∨ ∃ w ∈ names, Text.lower w <:+: Text.lower t

namespace Search

/-- The texts that a query looks for are in a record, and those that it excludes are not. -/
def IsWorded (q : Query) (r : Record) : Prop :=
  (∀ w ∈ q.textTerms, r.Contains w) ∧ ∀ w ∈ q.excludedTerms, ¬ r.Contains w

/-- A start and a length are within the bounds of the panel and the limits of a query. -/
def IsTimely (p : Precision) (q : Query) (f : Panel) (start : Moment) (seconds : Rat) : Prop :=
  f.inBounds start seconds = true ∧ (∀ l ∈ q.days, l.Holds start) ∧
    ∀ l ∈ q.lengths, l.Holds p seconds

/-- A reference to a project is to one of the store that a query names, if it names any. -/
def IsNamed (s : Store) (q : Query) (reference : Json) : Prop :=
  q.projects = [] ∨ ∃ r, .project r ∈ s.records ∧ reference = .str r.id ∧
    ∃ w ∈ q.projects, Text.lower w <:+: Text.lower r.name.textD

/-- A record is of an app or a project that is asked for. An activity is not if a query names
    projects, a time entry or a project is not if it names apps; a time entry has to belong to a
    project of the store that the query names. -/
def IsOf (s : Store) (q : Query) (f : Panel) : Record → Prop
  | .activity a =>
    q.projects = [] ∧ ¬(f.excludeIdle = true ∧ a.idle = true) ∧
      (f.apps = [] ∨ a.appName ∈ f.apps) ∧ Text.NamesSome q.apps a.appName.textD
  | .timeEntry e =>
    q.apps = [] ∧ (f.projects = [] ∨ e.projectId ∈ f.projects) ∧ IsNamed s q e.projectId
  | .project r =>
    q.apps = [] ∧ (f.projects = [] ∨ .str r.id ∈ f.projects) ∧
      Text.NamesSome q.projects r.name.textD

/-- **What a search over the store asks of a record**: its app or project, its time if it has one,
    and its texts. -/
def Asked (p : Precision) (now : Moment) (s : Store) (q : Query) (f : Panel) (r : Record) : Prop :=
  IsOf s q f r ∧ (∀ span, r.span? p now = some span → IsTimely p q f span.1 span.2) ∧
    IsWorded q r

/-- **A record for which a search has no verdict**: it is of an app or a project that is asked for
    and starts within the bounds of the panel, and a limit of the query to the last day of the
    calendar is met by its start, as are the limits before. -/
def Undecided (p : Precision) (now : Moment) (s : Store) (q : Query) (f : Panel) (r : Record) :
    Prop :=
  IsOf s q f r ∧ ∃ span, r.span? p now = some span ∧
    (f.start.all (·.le span.1) && f.finish.all (span.1.le ·)) = true ∧
      Stalls (·.Holds span.1) (·.Overflows span.1) q.days

/-! ## 3. The parts of the criteria -/

theorem ne_nil_of_mem_textTerms {q : Query} {w : Text} (h : w ∈ q.textTerms) : w ≠ [] := by
  rintro rfl
  exact absurd (List.mem_filter.mp h).2 (by decide)

theorem ne_nil_of_mem_excludedTerms {q : Query} {w : Text} (h : w ∈ q.excludedTerms) :
    w ≠ [] := by
  rintro rfl
  exact absurd (List.mem_filter.mp h).2 (by decide)

/-- A text that is not empty is looked up in the fields that are not empty. -/
theorem any_wording_iff_contains {r : Record} {w : Text} (hw : w ≠ []) :
    r.wording.any w.occursIn = true ↔ r.Contains w := by
  rw [Record.any_wording_iff hw]
  refine exists_congr fun t => and_congr_right fun _ => ?_
  refine ⟨fun h => ⟨?_, h⟩, And.right⟩
  rintro rfl
  exact hw (List.infix_nil.mp h)

/-- **What is asked of the texts of a record.** -/
theorem text_admits_iff (q : Query) (r : Record) :
    (textCriteria q).admits r.wording = true ↔ IsWorded q r := by
  unfold TextCriteria.admits textCriteria IsWorded
  rw [Bool.and_eq_true, List.all_eq_true, Bool.not_eq_true', List.any_eq_false]
  refine and_congr (forall₂_congr fun w hw => ?_) (forall₂_congr fun w hw => not_congr ?_)
  · exact any_wording_iff_contains (ne_nil_of_mem_textTerms hw)
  · exact any_wording_iff_contains (ne_nil_of_mem_excludedTerms hw)

/-- A text or null is chosen if it is among the values to choose from. -/
theorem isChosen_labels {vs : List Json} (hvs : ∀ v ∈ vs, v.isMember = true) {v : Json}
    (hv : v = .null ∨ ∃ t, v = .str t) {l : Label} (hl : v.label = .ok l) :
    isChosen (Json.labels vs) l = true ↔ vs = [] ∨ v ∈ vs := by
  have hempty : (Json.labels vs).isEmpty = true ↔ vs = [] := by
    rw [List.isEmpty_iff_length_eq_zero, Json.length_labels hvs, List.length_eq_zero_iff]
  have hmem : l ∈ Json.labels vs ↔ v ∈ vs := by
    unfold Json.labels
    rw [List.mem_filterMap]
    refine ⟨fun ⟨w, hw, hlabel⟩ => ?_, fun hv => ⟨v, hv, by rw [hl]; rfl⟩⟩
    have hsame : w = v := by
      rcases hv with rfl | ⟨t, rfl⟩
      · cases hl
        cases w with
        | null => rfl
        | _ => cases hlabel
      · cases hl
        cases w with
        | str t' =>
            cases hlabel
            rfl
        | _ => cases hlabel
    rwa [← hsame]
  unfold isChosen
  rw [Bool.or_eq_true, hempty, List.contains_iff_mem, hmem]

theorem containsSome_iff {names : List Text} {t : Text} :
    containsSome (names.map Text.lower) (Text.lower t) = true ↔ Text.NamesSome names t := by
  unfold containsSome Text.NamesSome
  rw [Bool.or_eq_true, List.isEmpty_iff, List.map_eq_nil_iff, List.any_map, List.any_eq_true]
  exact or_congr_right (exists_congr fun w => and_congr_right fun _ => Text.occursIn_iff)

/-! ## 4. Projects -/

/-- **The projects that some texts name** are those of the store with one of the texts in their
    names. -/
theorem projectsNamed_ok {s : Store} (hs : s.IsSound) (ha : s.available = true)
    (names : List Text) : ∃ ids, projectsNamed s names = .ok ids ∧ ∀ id, id ∈ ids ↔
      ∃ r, .project r ∈ s.records ∧ r.id = id ∧
        ∃ w ∈ names, Text.lower w <:+: Text.lower r.name.textD := by
  obtain ⟨ps, hps, hperm⟩ := Store.orders_projects s.projectTable.values fun r hr =>
    hs.complete_project hr
  have hread : s.projects = .ok ps := (Store.reading_ok ha _).trans hps
  have hcheck : ∀ r ∈ ps, (do
      let name ← r.name.lowered
      return (names.map Text.lower).any fun t => Text.occursIn t name : Except Fault Bool) =
        .ok ((names.map Text.lower).any fun t => Text.occursIn t (Text.lower r.name.textD)) :=
    fun r hr => by
      rw [Store.name_eq_str (hs.complete_project (hperm.mem_iff.mp hr))]
      rfl
  have hnamed : projectsNamed s names = .ok ((ps.filter fun r => (names.map Text.lower).any
      fun t => Text.occursIn t (Text.lower r.name.textD)).map (·.id)) := by
    unfold projectsNamed
    dsimp only
    rw [hread, ok_bind, filterM_ok hcheck]
    rfl
  refine ⟨_, hnamed, fun id => ?_⟩
  simp only [List.mem_map, List.mem_filter, List.any_map, List.any_eq_true, Function.comp_apply,
    Text.occursIn_iff, hperm.mem_iff, Store.mem_records_iff, Record.isAmong]
  refine exists_congr fun r => ?_
  rw [and_assoc, and_comm (a := r.id = id)]

/-- A complete time entry has no project, or a reference to one. -/
theorem projectId_cases {e : TimeEntry} (h : (Record.timeEntry e).IsComplete) :
    e.projectId = .null ∨ ∃ t, e.projectId = .str t := by
  have hsettled := h.settled
  simp only [Record.isSettled] at hsettled
  cases hid : e.projectId with
  | null => exact Or.inl rfl
  | str t => exact Or.inr ⟨t, rfl⟩
  | _ =>
      rw [hid] at hsettled
      cases hsettled

/-- **The projects that a query names are looked up**, if it names any. -/
theorem queryProjects_ok {s : Store} (hs : s.IsSound) (ha : s.available = true) (q : Query) :
    ∃ ids, queryProjects s q = .ok ids ∧ ∀ e : TimeEntry, (Record.timeEntry e).IsComplete →
      ((ids.map fun ids => ids.map Label.text).all (·.contains e.project) = true ↔
        IsNamed s q e.projectId) := by
  unfold queryProjects
  by_cases hnone : q.projects = []
  · rw [if_pos (List.isEmpty_iff.mpr hnone)]
    exact ⟨none, rfl, fun e _ => ⟨fun _ => Or.inl hnone, fun _ => rfl⟩⟩
  · obtain ⟨ids, hids, hmem⟩ := projectsNamed_ok hs ha q.projects
    rw [if_neg fun h => hnone (List.isEmpty_iff.mp h), hids]
    refine ⟨some ids, rfl, fun e he => ?_⟩
    have hlabel := label_projectId he
    unfold IsNamed
    rw [Option.map_some, Option.all_some, List.contains_iff_mem, List.mem_map, or_iff_right hnone]
    constructor
    · rintro ⟨id, hid, hproject⟩
      obtain ⟨r, hr, rfl, hnamed⟩ := (hmem id).mp hid
      refine ⟨r, hr, ?_, hnamed⟩
      rw [← hproject] at hlabel
      rcases projectId_cases he with hnull | ⟨t, ht⟩
      · rw [hnull] at hlabel
        cases hlabel
      · rw [ht] at hlabel ⊢
        cases hlabel
        rfl
    · rintro ⟨r, hr, hreference, hnamed⟩
      rw [hreference] at hlabel
      exact ⟨r.id, (hmem r.id).mpr ⟨r, hr, rfl, hnamed⟩, Except.ok.inj hlabel⟩

/-! ## 5. Verdicts -/

section Verdicts

variable {p : Precision} {now : Moment} {s : Store} {q : Query} {f : Panel}
  (hlengths : ∀ l ∈ q.lengths, ∃ x, l.seconds = .ofRat x) (hf : f.HasBounds) (hkeyed : f.IsKeyed)

include hlengths hf in
theorem time_tells (start : Moment) (seconds : Rat) :
    Tells ((timeCriteria q f now).admits p start seconds) (IsTimely p q f start seconds)
      ((timeCriteria q f now).Stalls start) :=
  TimeCriteria.tells hf.1 hf.2 hlengths p start seconds

include hkeyed

theorem activity_picks_iff (hprojects : q.projects = []) {a : Activity}
    (ha : (Record.activity a).IsComplete) :
    (activityCriteria q f now).picks a = true ↔ IsOf s q f (.activity a) := by
  have hname : a.appName = .str a.appName.textD :=
    ha.texts.eq_str (f := .appName) List.mem_cons_self rfl
  show (!(f.excludeIdle && a.idle) && isChosen (Json.labels f.apps) (.text a.appName.textD) &&
    containsSome (q.apps.map Text.lower) (Text.lower a.appName.textD)) = true ↔ _
  dsimp only [IsOf]
  rw [Bool.and_eq_true, Bool.and_eq_true, Bool.not_eq_true', Bool.and_eq_false_iff,
    isChosen_labels hkeyed.apps (Or.inr ⟨_, hname⟩) (by rw [hname]; rfl), containsSome_iff,
    and_assoc, Decidable.not_and_iff_not_or_not, Bool.not_eq_true, Bool.not_eq_true,
    and_iff_right hprojects]

theorem timeEntry_picks_iff (happs : q.apps = []) {e : TimeEntry}
    (he : (Record.timeEntry e).IsComplete) {ids : Option (List Text)}
    (hids : (ids.map fun ids => ids.map Label.text).all (·.contains e.project) = true ↔
      IsNamed s q e.projectId) :
    (timeEntryCriteria q f now ids).picks e = true ↔ IsOf s q f (.timeEntry e) := by
  show (isChosen (Json.labels f.projects) e.project &&
    (ids.map fun ids => ids.map Label.text).all (·.contains e.project)) = true ↔ _
  dsimp only [IsOf]
  rw [Bool.and_eq_true, isChosen_labels hkeyed.projects (projectId_cases he) (label_projectId he),
    hids, and_iff_right happs]

/-- **What has to be met by a project**, if no app is named. -/
theorem project_meets_iff (happs : q.apps = []) (r : Project) :
    (projectCriteria q f).meets r = true ↔ Asked p now s q f (.project r) := by
  have htext := text_admits_iff q (.project r)
  show (isChosen (Json.labels f.projects) (.text r.id) &&
    (containsSome (q.projects.map Text.lower) (Text.lower r.name.textD) &&
      (textCriteria q).admits (Record.project r).wording)) = true ↔ _
  dsimp only [Asked, IsOf]
  rw [Bool.and_eq_true, Bool.and_eq_true, containsSome_iff, htext,
    isChosen_labels hkeyed.projects (v := .str r.id) (Or.inr ⟨r.id, rfl⟩) rfl,
    and_iff_right happs, and_assoc]
  exact and_congr_right fun _ => and_congr_right fun _ =>
    ⟨fun h => ⟨fun _ hspan => (nomatch hspan), h⟩, And.right⟩

include hlengths hf

/-- **What is told of an activity**, if no project is named. -/
theorem activity_tells (hprojects : q.projects = []) {a : Activity}
    (ha : (Record.activity a).IsComplete) :
    Tells ((activityCriteria q f now).admits p a) (Asked p now s q f (.activity a))
      (Undecided p now s q f (.activity a)) := by
  obtain ⟨start, hstart⟩ := Option.isSome_iff_exists.mp ha.settled
  have hspan := span?_activity hstart p now
  have hpicks : (activityCriteria q f now).picks a = true ↔ IsOf s q f (.activity a) :=
    activity_picks_iff hkeyed hprojects ha
  have htells := ActivityCriteria.tells (c := activityCriteria q f now) (p := p) ha hstart
    (time_tells hlengths hf start (Activity.secondsBetween p start (a.finish.getD now)))
  refine htells.imp ?_ ?_
  · unfold Asked
    simp only [hspan, Option.some.injEq, forall_eq']
    exact and_congr hpicks (and_congr_right fun _ => text_admits_iff q (.activity a))
  · unfold Undecided
    simp only [hspan, Option.some.injEq, exists_eq_left']
    exact and_congr hpicks Iff.rfl

/-- **What is told of a time entry**, if no app is named and the named projects are looked up. -/
theorem timeEntry_tells (happs : q.apps = []) {e : TimeEntry}
    (he : (Record.timeEntry e).IsComplete) {ids : Option (List Text)}
    (hids : (ids.map fun ids => ids.map Label.text).all (·.contains e.project) = true ↔
      IsNamed s q e.projectId) :
    Tells ((timeEntryCriteria q f now ids).admits p e) (Asked p now s q f (.timeEntry e))
      (Undecided p now s q f (.timeEntry e)) := by
  have hpicks : (timeEntryCriteria q f now ids).picks e = true ↔ IsOf s q f (.timeEntry e) :=
    timeEntry_picks_iff hkeyed happs he hids
  have htells := TimeEntryCriteria.tells (c := timeEntryCriteria q f now ids) (p := p) he
    (time_tells hlengths hf e.start (e.seconds p))
  refine htells.imp ?_ ?_
  · dsimp only [Asked, Record.span?]
    simp only [Option.some.injEq, forall_eq']
    exact and_congr hpicks (and_congr_right fun _ => text_admits_iff q (.timeEntry e))
  · dsimp only [Undecided, Record.span?]
    simp only [Option.some.injEq, exists_eq_left']
    exact and_congr hpicks Iff.rfl

end Verdicts

/-! ## 6. Searches -/

/-- **A read by criteria** finds the values of which they tell that they hold. -/
theorem meeting_finds {α : Type} {table : Table Text α} {good : α → Prop}
    {sort : List α → Except Fault (List α)} (hsort : Store.Orders sort good)
    (hgood : ∀ a ∈ table.values, good a) {check : α → Except Fault Bool} {P C : α → Prop}
    (hcheck : ∀ a ∈ table.values, Tells (check a) (P a) (C a)) :
    Finds (table.values.filterM check >>= sort) (fun a => a ∈ table.values ∧ P a)
      (∃ a ∈ table.values, C a) := by
  rcases Tells.filterM hcheck with ⟨l, hl, hmem, hno⟩ | ⟨he, hcause⟩
  · obtain ⟨sorted, hsorted, hperm⟩ := hsort l fun a ha => hgood a ((hmem a).mp ha).1
    refine Or.inl ⟨sorted, ?_, fun a => hperm.mem_iff.trans (hmem a), hno⟩
    rw [hl]
    exact hsorted
  · refine Or.inr ⟨?_, hcause⟩
    rw [he]
    rfl

section Searches

variable {p : Precision} {src : Sources} {q : Query} {f : Panel} (hs : src.store.IsSound)
  (ha : src.store.available = true) (hf : f.HasBounds) (hkeyed : f.IsKeyed)
  (hlengths : ∀ l ∈ q.lengths, ∃ x, l.seconds = .ofRat x)
include hs ha hf hkeyed hlengths

/-- **The activities that are found.** -/
theorem fullActivities_finds : Finds (fullActivities p src q f)
    (fun a => a ∈ src.store.activityTable.values ∧
      Asked p src.now src.store q f (.activity a))
    (∃ a ∈ src.store.activityTable.values,
      Undecided p src.now src.store q f (.activity a)) := by
  unfold fullActivities
  by_cases hprojects : q.projects = []
  · rw [if_pos (List.isEmpty_iff.mpr hprojects)]
    have hread : src.store.activitiesMeeting p (activityCriteria q f src.now) = _ :=
      Store.reading_ok ha _
    rw [hread]
    exact meeting_finds Store.orders_activities (fun _ ha => hs.complete_activity ha)
      fun a ha => activity_tells hlengths hf hkeyed hprojects (hs.complete_activity ha)
  · rw [if_neg fun h => hprojects (List.isEmpty_iff.mp h)]
    exact Or.inl ⟨[], rfl, fun a => ⟨nofun, fun h => absurd h.2.1.1 hprojects⟩,
      fun ⟨_, _, hof, _⟩ => hprojects hof.1⟩

/-- **The time entries and projects that are found.** -/
theorem fullOthers_finds :
    (∃ es ps, fullOthers p src q f = .ok (es, ps) ∧
      (∀ e, e ∈ es ↔ e ∈ src.store.timeEntryTable.values ∧
        Asked p src.now src.store q f (.timeEntry e)) ∧
      (∀ r, r ∈ ps ↔ r ∈ src.store.projectTable.values ∧
        Asked p src.now src.store q f (.project r)) ∧
      ¬∃ e ∈ src.store.timeEntryTable.values,
        Undecided p src.now src.store q f (.timeEntry e)) ∨
    (fullOthers p src q f = .error .dateOverflow ∧ ∃ e ∈ src.store.timeEntryTable.values,
      Undecided p src.now src.store q f (.timeEntry e)) := by
  unfold fullOthers
  by_cases happs : q.apps = []
  · rw [if_pos (List.isEmpty_iff.mpr happs)]
    obtain ⟨ids, hids, hnamed⟩ := queryProjects_ok hs ha q
    rw [hids, ok_bind]
    have htells : ∀ e ∈ src.store.timeEntryTable.values,
        Tells ((timeEntryCriteria q f src.now ids).admits p e)
          (Asked p src.now src.store q f (.timeEntry e))
          (Undecided p src.now src.store q f (.timeEntry e)) := fun e he =>
      timeEntry_tells hlengths hf hkeyed happs (hs.complete_timeEntry he)
        (hnamed e (hs.complete_timeEntry he))
    have hfinds := meeting_finds Store.orders_timeEntries
      (fun _ he => hs.complete_timeEntry he) htells
    have hmeets : ∀ r ∈ src.store.projectTable.values,
        (projectCriteria q f).admits r = .ok ((projectCriteria q f).meets r) := fun r hr =>
      ProjectCriteria.admits_ok (hs.complete_project hr)
    obtain ⟨ps, hps, hmemP⟩ := Store.meeting_ok Store.orders_projects
      (fun _ hp => hs.complete_project hp) hmeets
    have hprojects : src.store.projectsMeeting (projectCriteria q f) = .ok ps :=
      (Store.reading_ok ha _).trans hps
    have hentries : src.store.timeEntriesMeeting p (timeEntryCriteria q f src.now ids) = _ :=
      Store.reading_ok ha _
    rcases hfinds with ⟨es, hes, hmemE, hno⟩ | ⟨he, hcause⟩
    · rw [hentries.trans hes, ok_bind, hprojects]
      exact Or.inl ⟨es, ps, rfl, hmemE,
        fun r => (hmemP r).trans (and_congr Iff.rfl (project_meets_iff hkeyed happs r)), hno⟩
    · rw [hentries.trans he]
      exact Or.inr ⟨rfl, hcause⟩
  · rw [if_neg fun h => happs (List.isEmpty_iff.mp h)]
    exact Or.inl ⟨[], [], rfl, fun e => ⟨nofun, fun h => absurd h.2.1.1 happs⟩,
      fun r => ⟨nofun, fun h => absurd h.2.1.1 happs⟩, fun ⟨_, _, hof, _⟩ => happs hof.1⟩

end Searches

/-- **What a search over the store comes to** once the query is read: the records that are asked, or
    a fault just where there is no verdict on a record. -/
theorem full_of_read {p : Precision} {src : Sources} (hs : src.store.IsSound)
    (ha : src.store.available = true) {f : Panel} (hf : f.HasBounds) (hkeyed : f.IsKeyed)
    {q : Text} {query : Query} (hread : Query.read p src.now q = .ok query) :
    (∃ res, full p src q f = .ok res ∧
      (∀ r, r ∈ res.records ↔ r ∈ src.store.records ∧ Asked p src.now src.store query f r) ∧
      ¬∃ r ∈ src.store.records, Undecided p src.now src.store query f r) ∨
    (full p src q f = .error .dateOverflow ∧
      ∃ r ∈ src.store.records, Undecided p src.now src.store query f r) := by
  have hlengths := Query.lengths_of_read hread
  unfold full
  rw [hread, ok_bind]
  rcases fullActivities_finds (p := p) hs ha hf hkeyed hlengths with
    ⟨as, has, hmemA, hnoA⟩ | ⟨he, a, hmem, hcause⟩
  · rw [has, ok_bind]
    rcases fullOthers_finds (p := p) hs ha hf hkeyed hlengths with
      ⟨es, ps, hothers, hmemE, hmemP, hnoE⟩ | ⟨he, e, hmem, hcause⟩
    · have hamong : ∀ r : Record, r.isAmong as es ps ↔
          r ∈ src.store.records ∧ Asked p src.now src.store query f r := by
        intro r
        rw [Store.mem_records_iff]
        cases r with
        | activity a => exact hmemA a
        | timeEntry e => exact hmemE e
        | project r => exact hmemP r
      obtain ⟨res, hres, hscored⟩ := rank_ok
        (fun r hr => hs.complete_of_mem ((hamong r).mp hr).1) p (rankingText query) src.now
      refine Or.inl ⟨res, ?_, fun r => ?_, ?_⟩
      · rw [hothers, ok_bind]
        exact hres
      · rw [Results.mem_records_of (fun r hr => hs.complete_of_mem ((hamong r).mp hr).1) hscored]
        exact hamong r
      · rintro ⟨r, hmem, hcause⟩
        rw [Store.mem_records_iff] at hmem
        cases r with
        | activity a => exact hnoA ⟨a, hmem, hcause⟩
        | timeEntry e => exact hnoE ⟨e, hmem, hcause⟩
        | project r =>
            obtain ⟨-, span, hspan, -⟩ := hcause
            cases hspan
    · rw [he]
      exact Or.inr ⟨rfl, .timeEntry e, Store.mem_records_iff.mpr hmem, hcause⟩
  · rw [he]
    exact Or.inr ⟨rfl, .activity a, Store.mem_records_iff.mpr hmem, hcause⟩

/-- **A search over the store finds what is asked** by the query and the panel: the records that
    `Asked` describes, and no others. It comes to a fault just where the query cannot be read, or
    where there is no verdict on a record. -/
theorem full_finds (p : Precision) (src : Sources) (hs : src.store.IsSound)
    (ha : src.store.available = true) {f : Panel} (hf : f.HasBounds) (hkeyed : f.IsKeyed)
    (q : Text) :
    (∀ fault, Query.read p src.now q = .error fault → full p src q f = .error fault) ∧
    ∀ query, Query.read p src.now q = .ok query →
      (∃ res, full p src q f = .ok res ∧
        (∀ r, r ∈ res.records ↔ r ∈ src.store.records ∧ Asked p src.now src.store query f r) ∧
        ¬∃ r ∈ src.store.records, Undecided p src.now src.store query f r) ∨
      (full p src q f = .error .dateOverflow ∧
        ∃ r ∈ src.store.records, Undecided p src.now src.store query f r) := by
  refine ⟨fun fault h => ?_, fun query hread => full_of_read hs ha hf hkeyed hread⟩
  unfold full
  rw [h]
  rfl

/-- An hour of work on a project. -/
def hourOfWork : TimeEntry :=
  ⟨"e1".toList, .str "Report".toList, default, ⟨3600000000, by decide⟩, .null, .str "p1".toList,
    by decide⟩

/-- A store with a project and an hour of work on it. -/
def workedHour : Sources :=
  ⟨(Store.empty.put (.project ⟨"p1".toList, .str "QA".toList, .null⟩)).put (.timeEntry hourOfWork),
    (Session.newDesk {} default).index, default⟩

/-- A query for more than half an hour of work on a project, as it is read. -/
def longWork : Query :=
  { Query.blank with projects := ["qa".toList], lengths := [⟨.above, .ofRat 1800⟩] }

/-- More than half an hour of work on a named project is found. -/
theorem full_finds_hour : ∃ res,
    full .double workedHour "project:qa dur>30m".toList .blank = .ok res ∧
      .timeEntry hourOfWork ∈ res.records := by
  have hsound : workedHour.store.IsSound :=
    (Store.IsSound.empty.put (r := .project ⟨"p1".toList, .str "QA".toList, .null⟩)
      (by decide)).put (r := .timeEntry hourOfWork) (by decide)
  obtain ⟨-, hfinds⟩ := full_finds .double workedHour hsound rfl (f := .blank) (by decide)
    Panel.isKeyed_blank "project:qa dur>30m".toList
  have hread : Query.read .double workedHour.now "project:qa dur>30m".toList = .ok longWork := by
    decide +kernel
  have hnamed : IsNamed workedHour.store longWork hourOfWork.projectId :=
    Or.inr ⟨⟨"p1".toList, .str "QA".toList, .null⟩,
      Store.mem_records_iff.mpr List.mem_cons_self, rfl, "qa".toList, List.mem_cons_self,
      by decide⟩
  have htimely : ∀ span, (Record.timeEntry hourOfWork).span? .double default = some span →
      IsTimely .double longWork .blank span.1 span.2 := by
    intro span hspan
    cases hspan
    refine ⟨rfl, fun l hl => (nomatch hl), fun l hl => ?_⟩
    rw [List.mem_singleton.mp hl]
    exact ⟨1800, rfl, by decide +kernel⟩
  have hworded : IsWorded longWork (.timeEntry hourOfWork) :=
    ⟨fun w hw => (nomatch hw), fun w hw => (nomatch hw)⟩
  rcases hfinds longWork hread with ⟨res, hres, hmem, -⟩ | ⟨-, r, -, -, span, -, -, hstalls⟩
  · exact ⟨res, hres, (hmem _).mpr ⟨Store.mem_records_iff.mpr List.mem_cons_self,
      ⟨rfl, Or.inl rfl, hnamed⟩, htimely, hworded⟩⟩
  · exact hstalls.elim

/-- A store with an activity on the last day of the calendar. -/
def lastDay : Sources :=
  ⟨Store.empty.put (.activity ⟨"a1".toList, .str "Editor".toList,
      some ⟨Moment.count - 50400000000, by decide⟩, none, .null, .null, .null, false⟩),
    (Session.newDesk {} default).index, default⟩

/-- Nothing is found on the last day of the calendar. -/
theorem full_fails_on_last_day :
    ¬ ∀ (src : Sources) (q : Text) (query : Query), src.store.IsSound →
      src.store.available = true → Query.read .double src.now q = .ok query →
      ∃ res, full .double src q .blank = .ok res ∧ ∀ r, r ∈ res.records ↔
        r ∈ src.store.records ∧ Asked .double src.now src.store query .blank r := by
  intro h
  have hsound : lastDay.store.IsSound := Store.IsSound.empty.put (r := .activity _) (by decide)
  have hread : Query.read .double lastDay.now "on:9999-12-31".toList = .ok { Query.blank with
      days := [⟨.on, ⟨Moment.count - Moment.dayMicros, by decide⟩⟩] } := by decide +kernel
  have hfails : (full .double lastDay "on:9999-12-31".toList .blank).toOption.isSome = false := by
    decide +kernel
  obtain ⟨res, hres, -⟩ := h lastDay "on:9999-12-31".toList _ hsound rfl hread
  rw [hres] at hfails
  cases hfails

end Search

end Worklog
