import Worklog.Record.Basic

/-!
# Search results

The answer to a search: scored records kind by kind, how the search was carried out, and the words
of a failure if there was one.
-/

namespace Worklog

/-- Something with a score. -/
structure Scored (α : Type) where
  item : α
  score : Rat

/-- The two ways to carry out a search: through the index, or by criteria over the store. -/
inductive SearchPath where
  | fast
  | full
  deriving DecidableEq, Repr

/-- The name of a path. -/
def SearchPath.name : SearchPath → String
  | .fast => "fast"
  | .full => "full"

/-- An estimate of what a search costs. -/
inductive Complexity where
  | low
  | medium
  | high
  deriving DecidableEq, Repr

namespace Complexity

/-- The name of an estimate. -/
def name : Complexity → String
  | .low => "low"
  | .medium => "medium"
  | .high => "high"

/-- The next higher estimate. -/
def raise : Complexity → Complexity
  | .low => .medium
  | _ => .high

/-- An estimate that is medium at least. -/
def atLeastMedium : Complexity → Complexity
  | .low => .medium
  | c => c

end Complexity

/-- The answer to a search. -/
structure Results where
  activities : List (Scored Activity)
  timeEntries : List (Scored TimeEntry)
  projects : List (Scored Project)
  total : Nat
  fromCache : Bool
  path : Option SearchPath
  complexity : Option Complexity
  failure : Option Text

namespace Results

/-- No results. -/
def empty : Results := ⟨[], [], [], 0, false, none, none, none⟩

/-- No results because of a failure. -/
def failed (words : Text) : Results := { empty with failure := some words }

/-- The results of a search that found some records. -/
def found (activities : List (Scored Activity)) (timeEntries : List (Scored TimeEntry))
    (projects : List (Scored Project)) : Results :=
  { empty with
    activities, timeEntries, projects
    total := activities.length + timeEntries.length + projects.length }

/-- What the document of results says of an activity. -/
def activityJson (p : Precision) (s : Scored Activity) : Json :=
  .obj [("id", .str s.item.id), ("app_name", s.item.appName),
    ("window_title", s.item.windowTitle), ("score", .real (.finite (p.roundTo 2 s.score)))]

/-- What the document of results says of a time entry. -/
def timeEntryJson (p : Precision) (s : Scored TimeEntry) : Json :=
  .obj [("id", .str s.item.id), ("title", s.item.title),
    ("score", .real (.finite (p.roundTo 2 s.score)))]

/-- What the document of results says of a project. -/
def projectJson (p : Precision) (s : Scored Project) : Json :=
  .obj [("id", .str s.item.id), ("name", s.item.name),
    ("score", .real (.finite (p.roundTo 2 s.score)))]

/-- **The document of results**, with scores to two decimal places. -/
def toJson (p : Precision) (r : Results) : Json :=
  .obj [("activities", .arr (r.activities.map (activityJson p))),
    ("time_entries", .arr (r.timeEntries.map (timeEntryJson p))),
    ("projects", .arr (r.projects.map (projectJson p))), ("total", .int r.total),
    ("cache_hit", .bool r.fromCache), ("path", Json.ofText? (r.path.map (·.name.toList))),
    ("complexity", Json.ofText? (r.complexity.map (·.name.toList))),
    ("error", Json.ofText? r.failure)]

/-- Whether nothing was found. -/
def isEmpty (r : Results) : Bool := r.total == 0

end Results

end Worklog
