import Worklog.Query.Reading

/-!
# Verdicts on queries

A query is accepted if it asks something and nothing in it is unreadable. `Query.verdict` gives
the reason for a refusal: the first problem, or that nothing is asked.
-/

namespace Worklog.Query

/-- Why a query is refused. -/
inductive Refusal where
  | nothingAsked
  | problem (p : Problem)
  deriving DecidableEq, Repr

/-- The words for a refusal. -/
def Refusal.message : Refusal → Text
  | .nothingAsked => "Query cannot be empty".toList
  | .problem p => p.message

/-- The refusal of a query that has been read. -/
def refusal? (q : Query) : Option Refusal :=
  match q.problems with
  | p :: _ => some (.problem p)
  | [] => if q.isEmpty then some .nothingAsked else none

/-- **The verdict on a query**: `none` accepts it. -/
def verdict (p : Precision) (now : Moment) (q : Text) : Except Fault (Option Refusal) :=
  if Text.isBlankText q then .ok (some .nothingAsked)
  else (read p now q).map refusal?

end Worklog.Query
