import Worklog.Panel
import Worklog.Query.Normal
import Worklog.Results

/-!
# Planning a search

Plain text with a narrow panel is searched through the index; everything else by criteria over the
store. The cost of a search is estimated from its syntax, the panel and the number of records; the
estimate is only reported.
-/

namespace Worklog.Plan

/-- The characters that carry query syntax. -/
def operators : List Char := [':', '"', '-']

/-- Whether a text holds query syntax. -/
def hasOperators (t : Text) : Bool := t.any operators.contains

/-- The greatest number of words of a simple query. -/
def maxWords : Nat := 5

/-- The greatest number of selected projects of a simple search. -/
def maxProjects : Nat := 5

/-- The greatest number of selected apps of a simple search. -/
def maxApps : Nat := 10

/-- The number of records above which a search costs more. -/
def manyRecords : Int := 10000

/-- The words of a query without syntax. -/
def plainWords (q : Text) : List Text := (Text.words q).filter (!hasOperators ·)

/-- The estimate by the query alone. -/
def queryComplexity (q : Text) : Complexity :=
  if maxWords < (plainWords q).length then .high
  else if hasOperators q then .medium
  else .low

/-- Whether the panel selects many projects or apps. -/
def isWide (f : Panel) : Bool :=
  decide (maxProjects < f.projects.length) || decide (maxApps < f.apps.length)

/-- **What a search costs.** -/
def complexity (q : Text) (f : Panel) (records : Int) : Complexity :=
  let c := queryComplexity q
  let c := if isWide f then c.atLeastMedium else c
  if manyRecords < records then c.raise else c

/-- Whether a search goes through the index. -/
def isFast (q : Text) (f : Panel) : Bool :=
  !q.isEmpty && !hasOperators q && decide (f.projects.length ≤ 1) && decide (f.apps.length ≤ 1)

/-- **The way in which a search is carried out.** -/
def path (q : Text) (f : Panel) : SearchPath := if isFast q f then .fast else .full

end Worklog.Plan
