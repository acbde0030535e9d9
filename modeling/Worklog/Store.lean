import Worklog.Criteria
import Worklog.Record.Document
import Worklog.Table

/-!
# The record store

The store holds the current version of each record under its identifier, kind by kind. Reads list
activities and time entries newest first and projects by name; the identifier decides between
equals, so the order of a read does not depend on the order of writes. Records without the start or
the name that their order needs cannot be listed. A store that is not available refuses reads, and
takes writes.

* `Store.activities`, `Store.timeEntries`, `Store.projects` read everything, the `…ByIds` and
  `…Meeting` functions a part;
* `Store.upsert` and `Store.delete` write, and say what changed;
* `Store.read` loads a snapshot.
-/

namespace Worklog

/-- The records of a work log. -/
structure Store where
  activityTable : Table Text Activity
  timeEntryTable : Table Text TimeEntry
  projectTable : Table Text Project
  available : Bool

namespace Store

/-- The store without records. -/
def empty : Store := ⟨[], [], [], true⟩

/-! ## 1. Order -/

/-- Newest first, and among records that start together the greater identifier first. -/
def newestFirst (a b : Moment × Text) : Bool := b.1.lt a.1 || (a.1 == b.1 && Text.le b.2 a.2)

/-- By lower-cased name, and among equal names the smaller identifier first. -/
def byName (a b : Text × Text) : Bool := Text.lt a.1 b.1 || (a.1 == b.1 && Text.le a.2 b.2)

/-- What a start is called in a message. -/
def startKind (start : Option Moment) : String :=
  if start.isSome then "datetime.datetime" else "NoneType"

/-- Known and unknown starts have no order among each other. They are compared from the last. -/
def checkStarts (starts : List (Option Moment)) : Except Fault Unit :=
  match starts.reverse with
  | [] => .ok ()
  | last :: before =>
    match before.find? fun start => start.isSome != last.isSome with
    | some start => .error (.unordered "<" (startKind start) (startKind last))
    | none => .ok ()

/-- Activities in the order of reads; where no start is known the identifier decides. -/
def sortActivities (as : List Activity) : Except Fault (List Activity) := do
  checkStarts (as.map (·.start))
  return as.mergeSort fun a b =>
    newestFirst (a.start.getD default, a.id) (b.start.getD default, b.id)

/-- Time entries in the order of reads. -/
def sortTimeEntries (es : List TimeEntry) : List TimeEntry :=
  es.mergeSort fun a b => newestFirst (a.start, a.id) (b.start, b.id)

/-- Projects in the order of reads. -/
def sortProjects (ps : List Project) : Except Fault (List Project) := do
  let named ← ps.mapM fun p => do return ((← p.name.lowered, p.id), p)
  return (named.mergeSort fun a b => byName a.1 b.1).map (·.2)

/-! ## 2. Reads -/

/-- A read of an available store; an unavailable one refuses it. -/
def reading {α : Type} (s : Store) (x : Except Fault α) : Except Fault α :=
  if s.available then x else .error .storeUnavailable

/-- All activities. -/
def activities (s : Store) : Except Fault (List Activity) :=
  s.reading (sortActivities s.activityTable.values)

/-- All time entries. -/
def timeEntries (s : Store) : Except Fault (List TimeEntry) :=
  s.reading (.ok (sortTimeEntries s.timeEntryTable.values))

/-- All projects. -/
def projects (s : Store) : Except Fault (List Project) :=
  s.reading (sortProjects s.projectTable.values)

/-- The records of a table with some identifiers, each once; unknown identifiers are skipped. -/
def pick {α : Type} (table : Table Text α) (ids : List Text) : List α :=
  ids.eraseDups.filterMap fun id => table.get? id

/-- The activities with some identifiers. -/
def activitiesByIds (s : Store) (ids : List Text) : Except Fault (List Activity) :=
  s.reading (sortActivities (pick s.activityTable ids))

/-- The time entries with some identifiers. -/
def timeEntriesByIds (s : Store) (ids : List Text) : Except Fault (List TimeEntry) :=
  s.reading (.ok (sortTimeEntries (pick s.timeEntryTable ids)))

/-- The projects with some identifiers. -/
def projectsByIds (s : Store) (ids : List Text) : Except Fault (List Project) :=
  s.reading (sortProjects (pick s.projectTable ids))

/-- The activities that meet criteria. -/
def activitiesMeeting (p : Precision) (s : Store) (c : ActivityCriteria) :
    Except Fault (List Activity) :=
  s.reading do sortActivities (← s.activityTable.values.filterM (c.admits p))

/-- The time entries that meet criteria. -/
def timeEntriesMeeting (p : Precision) (s : Store) (c : TimeEntryCriteria) :
    Except Fault (List TimeEntry) :=
  s.reading do return sortTimeEntries (← s.timeEntryTable.values.filterM (c.admits p))

/-- The projects that meet criteria. -/
def projectsMeeting (s : Store) (c : ProjectCriteria) : Except Fault (List Project) :=
  s.reading do sortProjects (← s.projectTable.values.filterM c.admits)

/-- The record of a kind with an identifier, whether or not the store is available. -/
def get? (s : Store) : RecordKind → Text → Option Record
  | .activity, id => (s.activityTable.get? id).map .activity
  | .timeEntry, id => (s.timeEntryTable.get? id).map .timeEntry
  | .project, id => (s.projectTable.get? id).map .project

/-- Reads the record of a kind with an identifier. -/
def fetch (s : Store) (kind : RecordKind) (id : Text) : Except Fault (Option Record) :=
  s.reading (.ok (s.get? kind id))

/-- All records of a kind in the order of reads. -/
def all (s : Store) : RecordKind → Except Fault (List Record)
  | .activity => s.activities.map (·.map .activity)
  | .timeEntry => s.timeEntries.map (·.map .timeEntry)
  | .project => s.projects.map (·.map .project)

/-! ## 3. Writes -/

/-- Writes a record under its identifier. -/
def put (s : Store) : Record → Store
  | .activity a => { s with activityTable := s.activityTable.put a.id a }
  | .timeEntry e => { s with timeEntryTable := s.timeEntryTable.put e.id e }
  | .project p => { s with projectTable := s.projectTable.put p.id p }

/-- Takes out the record of a kind with an identifier. -/
def take (s : Store) : RecordKind → Text → Store
  | .activity, id => { s with activityTable := s.activityTable.erase id }
  | .timeEntry, id => { s with timeEntryTable := s.timeEntryTable.erase id }
  | .project, id => { s with projectTable := s.projectTable.erase id }

/-- Whether a record of a kind with an identifier is there. -/
def holds (s : Store) (kind : RecordKind) (id : Text) : Bool := (s.get? kind id).isSome

/-- **Inserts or replaces a record**, and says which. -/
def upsert (s : Store) (r : Record) : Store × Change :=
  (s.put r, ⟨r.kind, r.id, if s.holds r.kind r.id then .update else .insert⟩)

/-- **Deletes a record**, and says so if it was there. -/
def delete (s : Store) (kind : RecordKind) (id : Text) : Store × Option Change :=
  if s.holds kind id then (s.take kind id, some ⟨kind, id, .delete⟩) else (s, none)

/-- What was just written is what is there; all else is as before. -/
theorem get?_put (s : Store) (r : Record) (kind : RecordKind) (id : Text) :
    (s.put r).get? kind id = if r.kind = kind ∧ r.id = id then some r else s.get? kind id := by
  cases r <;> cases kind <;>
    simp [put, get?, Record.kind, Record.id, Table.get?_put] <;> split <;> rfl

/-- What was taken out is gone; all else is as before. -/
theorem get?_take (s : Store) (kind k : RecordKind) (id i : Text) :
    (s.take kind id).get? k i = if kind = k ∧ id = i then none else s.get? k i := by
  cases kind <;> cases k <;> simp [take, get?, Table.get?_erase] <;> split <;> rfl

/-! ## 4. Snapshots -/

/-- **Loads a snapshot**: a later record replaces an earlier one with its identifier. -/
def read (v : Json) : Except Fault Store := do
  let as ← (← v.items "activities").mapM Activity.read
  let es ← (← v.items "time_entries").mapM TimeEntry.read
  let ps ← (← v.items "projects").mapM Project.read
  let s := as.foldl (fun s a => s.put (.activity a)) empty
  let s := es.foldl (fun s e => s.put (.timeEntry e)) s
  return ps.foldl (fun s p => s.put (.project p)) s

end Store

end Worklog
