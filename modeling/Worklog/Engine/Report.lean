import Worklog.Engine.Basic
import Worklog.Number.Figure
import Worklog.Session.Report

/-!
# Reports on the search engine

`Engine.report` is the document of the state of the engine: whether it runs and since when, what
its counters counted, the report on its session and the counts of its bus.
-/

namespace Worklog

/-- The document of what the counters of an engine counted. -/
def EngineCounts.toJson (c : EngineCounts) : Json :=
  .obj [("search_count", .int c.searches), ("failed_search_count", .int c.failures),
    ("index_updates", .int c.updates)]

namespace Engine

/-- The time since the engine was set up, in whole seconds. -/
def uptime (p : Precision) (e : Engine) : Text :=
  Figure.fixed 0 (p.seconds (e.env.now.since e.started)) ++ ['s']

/-- Whether the engine runs, in a word. -/
def status (e : Engine) : String := if e.bus.running then "running" else "stopped"

/-- **The document of the state of the engine.** -/
def report (p : Precision) (e : Engine) : Except Fault Json := do
  return .obj [("status", Json.ofString e.status), ("uptime", .str (e.uptime p)),
    ("stats", e.site.counts.toJson), ("search", ← e.session.report p),
    ("event_bus", e.bus.counts.toJson)]

end Engine

end Worklog
