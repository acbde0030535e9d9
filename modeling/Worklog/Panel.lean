import Worklog.Json.Label
import Worklog.Limit
import Worklog.Record.Document

/-!
# The filter panel

Beside the query, a search takes the settings of a panel: bounds on the start and the length of
records, selected projects and apps, and whether idle time is left out. Selections are sets, kept
as sorted lists with one value of each label. A document may put any value in place of a selected
name or of a bound on the length; what a value is good for shows when it is used.

* `Panel.isActive` tells whether anything is set;
* `Panel.summary` describes the settings in words;
* `Panel.read` and `Panel.toJson` are the panel's document form;
* `Panel.key` is what two panels with equal settings have in common.
-/

namespace Worklog

/-- The settings of the filter panel; lengths are in seconds. -/
structure Panel where
  start : Option Moment
  finish : Option Moment
  projects : List Json
  apps : List Json
  /-- The least length, null if there is none. -/
  minSeconds : Json
  /-- The greatest length, null if there is none. -/
  maxSeconds : Json
  excludeIdle : Bool

/-- The settings of a panel as labels: panels with the same key are equal. -/
structure PanelKey where
  start : Option Moment
  finish : Option Moment
  projects : List Label
  apps : List Label
  minSeconds : Label
  maxSeconds : Label
  excludeIdle : Bool
  deriving DecidableEq

namespace Panel

/-- The panel on which nothing is set. -/
def blank : Panel := ⟨none, none, [], [], .null, .null, false⟩

/-- Whether anything is set. -/
def isActive (f : Panel) : Bool :=
  f.start.isSome || f.finish.isSome || !f.projects.isEmpty || !f.apps.isEmpty ||
    f.minSeconds.isGiven || f.maxSeconds.isGiven || f.excludeIdle

@[simp] theorem isActive_blank : blank.isActive = false := rfl

/-! ## 1. In words -/

/-- The words for the bounds on the start. -/
def dayWords (f : Panel) : List Text :=
  match f.start, f.finish with
  | some a, some b => ["Date: ".toList ++ a.dayText ++ " - ".toList ++ b.dayText]
  | some a, none => ["After: ".toList ++ a.dayText]
  | none, some b => ["Before: ".toList ++ b.dayText]
  | none, none => []

/-- The words for the size of a selection. -/
def countWords (label : String) (selection : List Json) : List Text :=
  if selection.isEmpty then [] else [label.toList ++ Text.ofNat selection.length]

/-- The words for a bound on the length, in whole minutes. -/
def lengthWords (p : Precision) (label : String) (bound : Json) : Except Fault (List Text) :=
  if bound.isGiven then
    match bound.amount? with
    | some seconds => do
      return [label.toList ++ Text.ofInt (← seconds.wholeMinutes p) ++ ['m']]
    | none => .error .wrongType
  else .ok []

/-- **The settings in words.** -/
def summary (p : Precision) (f : Panel) : Except Fault Text := do
  let least ← lengthWords p "Min duration: " f.minSeconds
  let greatest ← lengthWords p "Max duration: " f.maxSeconds
  return Text.joinWith ", ".toList
    (f.dayWords ++ countWords "Projects: " f.projects ++ countWords "Apps: " f.apps ++ least ++
      greatest ++ if f.excludeIdle then ["Exclude idle".toList] else [])

/-! ## 2. As a document -/

/-- The members of a selection: a list of values, the characters of a text or the keys of an
    object. What counts as not given is an empty selection. -/
def selection (v : Json) : Except Fault (List Json) := do
  if v.truthy then Json.distinct (← v.asItems) else return []

/-- **Reads the settings of a panel.** -/
def read (v : Json) : Except Fault Panel :=
  match v with
  | .obj _ => do
    return {
      start := ← (v.getD "start_date").asMoment?
      finish := ← (v.getD "end_date").asMoment?
      projects := ← selection (v.getD "selected_projects")
      apps := ← selection (v.getD "selected_apps")
      minSeconds := v.getD "min_duration"
      maxSeconds := v.getD "max_duration"
      excludeIdle := (v.getD "exclude_idle_time").truthy }
  | _ => .error .wrongShape

/-- A moment as a document, or null. -/
def momentJson : Option Moment → Json
  | some m => .str m.isoText
  | none => .null

/-- A selection as a document. One whose values have no order cannot be shown. -/
def selectionJson (values : List Json) : Except Fault Json :=
  if Json.areOrdered values then .ok (.arr values) else .error .wrongType

/-- **The document of a panel.** -/
def toJson (f : Panel) : Except Fault Json := do
  return .obj [("start_date", momentJson f.start), ("end_date", momentJson f.finish),
    ("selected_projects", ← selectionJson f.projects), ("selected_apps", ← selectionJson f.apps),
    ("min_duration", f.minSeconds), ("max_duration", f.maxSeconds),
    ("exclude_idle_time", .bool f.excludeIdle)]

/-! ## 3. As a key -/

/-- **What panels with equal settings have in common.** A bound that has no label gives none. -/
def key (f : Panel) : Except Fault PanelKey := do
  return ⟨f.start, f.finish, Json.labels f.projects, Json.labels f.apps, ← f.minSeconds.label,
    ← f.maxSeconds.label, f.excludeIdle⟩

end Panel

end Worklog
