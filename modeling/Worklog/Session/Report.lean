import Worklog.Session.Upkeep

/-!
# Reports on a session

`Session.state` is the document of what a user sees of a session, `Session.report` the document of
what stands behind it: the index, the cache, the metrics and the latest errors.
-/

namespace Worklog

/-- What is said of a scheduled search: one that does not know yet that another took its place
    counts as pending. -/
def Ticket.name : Ticket → String
  | .waiting _ => "pending"
  | .superseded => "pending"
  | .cancelled => "cancelled"
  | .done => "done"

namespace Session

/-- **The document of what a session shows.** -/
def state (p : Precision) (s : Session) : Except Fault Json := do
  return .obj [("query", s.query), ("filters", ← s.panel.toJson), ("results", s.results.toJson p),
    ("searching", .bool s.isSearching),
    ("tasks", .arr (s.tickets.map fun t => Json.ofString t.name)),
    ("history", .arr s.history.entries)]

/-- The number of errors in a report. -/
def reportedErrors : Int := 5

/-- **The document of the state of a session** and what stands behind it. -/
def report (p : Precision) (s : Session) : Except Fault Json := do
  return .obj [("query", s.query), ("filters", ← s.panel.toJson),
    ("is_searching", .bool s.isSearching), ("index", s.desk.index.size.toJson),
    ("cache_entries", .int s.cacheSize), ("metrics", ← s.desk.metrics.toJson p),
    ("history_size", .int s.history.entries.length),
    ("saved_searches", .int s.history.saved.length),
    ("recent_errors", .arr ((s.desk.errors.recent reportedErrors).map Mishap.toJson))]

end Session

end Worklog
