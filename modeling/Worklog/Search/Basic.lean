import Worklog.Index.Basic
import Worklog.Query.Reading
import Worklog.Score
import Worklog.Search.Plan
import Worklog.Store

/-!
# Carrying out a search

A search in normal form is carried out on one of two paths:

* `Search.fast` takes the identifiers that the index finds, reads their records and keeps those
  that meet the panel;
* `Search.full` reads the query and asks the store for the records that meet the query and the
  panel. A filter for apps leaves out time entries and projects, a filter for projects leaves out
  activities.

Both rank what they found. `Search.run` takes the path that the plan says.
-/

namespace Worklog.Search

/-- What a search reads. -/
structure Sources where
  store : Store
  index : Index
  now : Moment

/-! ## 1. Criteria -/

/-- What a query asks of the texts of a record. -/
def textCriteria (q : Query) : TextCriteria := ⟨q.textTerms, q.excludedTerms⟩

/-- What a query and the panel ask of the time of a record. -/
def timeCriteria (q : Query) (f : Panel) (now : Moment) : TimeCriteria :=
  ⟨f.start, f.finish, q.days, f.minSeconds, f.maxSeconds, q.lengths, now⟩

/-- What a query and the panel ask of an activity. -/
def activityCriteria (q : Query) (f : Panel) (now : Moment) : ActivityCriteria :=
  ⟨textCriteria q, timeCriteria q f now, Json.labels f.apps, q.apps.map Text.lower,
    f.excludeIdle⟩

/-- What a query and the panel ask of a time entry. -/
def timeEntryCriteria (q : Query) (f : Panel) (now : Moment) (projects : Option (List Text)) :
    TimeEntryCriteria :=
  ⟨textCriteria q, timeCriteria q f now, Json.labels f.projects,
    projects.map fun ids => ids.map .text⟩

/-- What a query and the panel ask of a project. -/
def projectCriteria (q : Query) (f : Panel) : ProjectCriteria :=
  ⟨textCriteria q, Json.labels f.projects, q.projects.map Text.lower⟩

/-! ## 2. Ranking -/

/-- The results of a search: what was found, ranked for a text. -/
def rank (p : Precision) (text : Text) (now : Moment) (as : List Activity) (es : List TimeEntry)
    (ps : List Project) : Except Fault Results := do
  return .found (← Score.ranked (Score.activity p text now) as)
    (← Score.ranked (Score.timeEntry p text now) es) (← Score.ranked (Score.project p text) ps)

/-! ## 3. The two paths -/

/-- Reads records by identifiers; without identifiers nothing is read. -/
def readSome {α : Type} (read : List Text → Except Fault (List α)) (ids : List Text) :
    Except Fault (List α) :=
  if ids.isEmpty then .ok [] else read ids

/-- **A search through the index.** -/
def fast (p : Precision) (src : Sources) (q : Text) (f : Panel) : Except Fault Results := do
  let as ← readSome src.store.activitiesByIds (src.index.find .activity q)
  let es ← readSome src.store.timeEntriesByIds (src.index.find .timeEntry q)
  let ps ← readSome src.store.projectsByIds (src.index.find .project q)
  let as ← as.filterM ((activityCriteria .blank f src.now).admits p)
  let es ← es.filterM ((timeEntryCriteria .blank f src.now none).admits p)
  let ps ← ps.filterM (projectCriteria .blank f).admits
  rank p q src.now as es ps

/-- The identifiers of the projects whose names contain one of some texts, letter case aside. -/
def projectsNamed (s : Store) (names : List Text) : Except Fault (List Text) := do
  let patterns := names.map Text.lower
  let ps ← s.projects
  let found ← ps.filterM fun r => do
    let name ← r.name.lowered
    return patterns.any fun t => Text.occursIn t name
  return found.map (·.id)

/-- The projects to which a query restricts time entries, if it does. -/
def queryProjects (s : Store) (q : Query) : Except Fault (Option (List Text)) :=
  if q.projects.isEmpty then .ok none else (projectsNamed s q.projects).map some

/-- The activities of a search over the store. -/
def fullActivities (p : Precision) (src : Sources) (q : Query) (f : Panel) :
    Except Fault (List Activity) :=
  if q.projects.isEmpty then src.store.activitiesMeeting p (activityCriteria q f src.now)
  else .ok []

/-- The time entries and projects of a search over the store. -/
def fullOthers (p : Precision) (src : Sources) (q : Query) (f : Panel) :
    Except Fault (List TimeEntry × List Project) :=
  if q.apps.isEmpty then do
    let ids ← queryProjects src.store q
    let es ← src.store.timeEntriesMeeting p (timeEntryCriteria q f src.now ids)
    let ps ← src.store.projectsMeeting (projectCriteria q f)
    return (es, ps)
  else .ok ([], [])

/-- The text for which a search over the store is ranked. -/
def rankingText (q : Query) : Text := Text.joinWith [' '] q.textTerms

/-- **A search by criteria over the store.** -/
def full (p : Precision) (src : Sources) (q : Text) (f : Panel) : Except Fault Results := do
  let query ← Query.read p src.now q
  let as ← fullActivities p src query f
  let (es, ps) ← fullOthers p src query f
  rank p (rankingText query) src.now as es ps

/-- **Carries out a search** on a path. -/
def run (p : Precision) (src : Sources) (q : Text) (f : Panel) : SearchPath → Except Fault Results
  | .fast => fast p src q f
  | .full => full p src q f

end Worklog.Search
