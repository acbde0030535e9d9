import Worklog.Calendar.Stamp
import Worklog.Record.Basic

/-!
# Records as documents

Snapshots describe records as JSON objects, and records are shown as such. Identifiers and times may
be any values and are read through their text; names and texts stay what they are. Members are read
in a fixed order, and the first fault ends the reading.
-/

namespace Worklog

/-! ## 1. Members -/

namespace Json

/-- A member that has to be there. -/
def required (key : String) : Json → Except Fault Json
  | .obj ms =>
    match lookup key ms with
    | some v => .ok v
    | none => .error (.missingKey key.toList)
  | _ => .error .wrongType

/-- A time that may be null. -/
def asMoment? : Json → Except Fault (Option Moment)
  | .null => .ok none
  | v => (Moment.read v.display).map some

end Json

/-! ## 2. Records -/

/-- Reads an activity. -/
def Activity.read (v : Json) : Except Fault Activity := do
  return {
    id := (← v.required "id").display
    appName := ← v.required "app_name"
    start := ← (← v.required "start_time").asMoment?
    finish := ← (v.getD "end_time").asMoment?
    windowTitle := v.getD "window_title"
    url := v.getD "url"
    documentPath := v.getD "document_path"
    idle := (v.getD "is_idle_time").truthy }

/-- Reads a time entry, which has to end after it starts. -/
def TimeEntry.read (v : Json) : Except Fault TimeEntry := do
  let id ← v.required "id"
  let title ← v.required "title"
  let start? ← (← v.required "start_time").asMoment?
  let finish? ← (← v.required "end_time").asMoment?
  match start?, finish? with
  | some start, some finish =>
    if h : start.lt finish = true then
      return {
        id := id.display
        title
        start
        finish
        notes := v.getD "notes"
        projectId := v.getD "project_id"
        start_lt_finish := h }
    else throw (.endsBeforeStart id.display)
  | _, _ => throw .wrongType

/-- Reads a project. -/
def Project.read (v : Json) : Except Fault Project := do
  return {
    id := (← v.required "id").display
    name := ← v.required "name"
    parent := v.getD "parent_id" }

/-- Reads a record of a kind. -/
def Record.read : RecordKind → Json → Except Fault Record
  | .activity, v => (Activity.read v).map .activity
  | .timeEntry, v => (TimeEntry.read v).map .timeEntry
  | .project, v => (Project.read v).map .project

/-- The document of an activity. -/
def Activity.toJson (a : Activity) : Json :=
  .obj [("id", .str a.id), ("app_name", a.appName),
    ("start_time", Json.ofText? (a.start.map Moment.isoText)),
    ("end_time", Json.ofText? (a.finish.map Moment.isoText)), ("window_title", a.windowTitle),
    ("url", a.url), ("document_path", a.documentPath), ("is_idle_time", .bool a.idle)]

/-- The document of a time entry. -/
def TimeEntry.toJson (e : TimeEntry) : Json :=
  .obj [("id", .str e.id), ("title", e.title), ("start_time", .str e.start.isoText),
    ("end_time", .str e.finish.isoText), ("notes", e.notes), ("project_id", e.projectId)]

/-- The document of a project. -/
def Project.toJson (p : Project) : Json :=
  .obj [("id", .str p.id), ("name", p.name), ("parent_id", p.parent)]

/-- **The document of a record.** -/
def Record.toJson : Record → Json
  | .activity a => a.toJson
  | .timeEntry e => e.toJson
  | .project p => p.toJson

/-! ## 3. Lists -/

/-- The items of a list, the characters of a text or the keys of an object; other values have no
    items. -/
def Json.asItems : Json → Except Fault (List Json)
  | .arr vs => .ok vs
  | .str t => .ok (t.map fun c => .str [c])
  | .obj ms => .ok (ms.map fun m => ofString m.1)
  | _ => .error .wrongType

/-- The items of a member of an object; without the member there are none. -/
def Json.items (key : String) : Json → Except Fault (List Json)
  | .obj ms =>
    match lookup key ms with
    | some v => v.asItems
    | none => .ok []
  | _ => .error .wrongShape

end Worklog
