import Worklog.Number.Figure
import Worklog.Query.Basic

/-!
# Outlines of queries

`Query.outline` lists what a query asks as rows of a kind and a value, sort by sort, problems last.
-/

namespace Worklog.Query

/-- The row of a limit on days. -/
def dayRow (limit : DayLimit) : Text × Text :=
  ("date:".toList ++ limit.bound.name.toList, limit.day.dayText)

/-- The row of a limit on lengths. -/
def lengthRow (limit : LengthLimit) : Text × Text :=
  ("duration:".toList ++ limit.bound.name.toList,
    Figure.general limit.seconds.exactly.value ++ ['s'])

/-- Rows of one kind. -/
def rows (kind : String) (values : List Text) : List (Text × Text) :=
  values.map (kind.toList, ·)

/-- **The rows of a query.** -/
def outline (q : Query) : List (Text × Text) :=
  rows "text" q.texts ++ rows "exclude" q.excluded ++ rows "app" q.apps ++
    rows "project" q.projects ++ q.days.map dayRow ++ q.lengths.map lengthRow ++
    rows "problem" (q.problems.map Problem.message)

end Worklog.Query
