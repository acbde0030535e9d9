import Worklog.Limit
import Worklog.Query.Token

/-!
# Queries

A query asks for texts that records have to contain or must not contain, for apps and projects,
and for limits on days and lengths. `Query` is the sorted form; `Query.Part` is what one token
contributes, and `Query.ofParts` sorts parts by what they ask, keeping the order within each sort.
Tokens that ask for something unreadable contribute a `Query.Problem`.
-/

namespace Worklog

namespace Query

/-- What is wrong with a query; each problem but the last names the token. -/
inductive Problem where
  /-- A filter without a value. -/
  | noValue (token : Text)
  /-- A day filter whose value is no day. -/
  | noDay (token : Text)
  /-- A length filter whose value is no length. -/
  | noLength (token : Text)
  /-- A quote without a partner. -/
  | unmatchedQuote
  deriving DecidableEq, Repr

/-- The words for a problem. -/
def Problem.message : Problem → Text
  | .noValue t => "Invalid filter syntax: ".toList ++ t
  | .noDay t => "Invalid date format in filter: ".toList ++ t
  | .noLength t => "Invalid duration format in filter: ".toList ++ t
  | .unmatchedQuote => "Unmatched quotation marks".toList

/-- What one token contributes to a query. -/
inductive Part where
  | text (t : Text)
  | excluded (t : Text)
  | app (t : Text)
  | project (t : Text)
  | day (limit : DayLimit)
  | length (limit : LengthLimit)
  | problem (p : Problem)
  deriving DecidableEq

end Query

/-- A query, sorted by what its parts ask. -/
structure Query where
  texts : List Text
  excluded : List Text
  apps : List Text
  projects : List Text
  days : List DayLimit
  lengths : List LengthLimit
  problems : List Query.Problem
  deriving DecidableEq

namespace Query

/-- The query that asks nothing. -/
def blank : Query := ⟨[], [], [], [], [], [], []⟩

/-- Adds a part in front of its sort. -/
def cons (part : Part) (q : Query) : Query :=
  match part with
  | .text t => { q with texts := t :: q.texts }
  | .excluded t => { q with excluded := t :: q.excluded }
  | .app t => { q with apps := t :: q.apps }
  | .project t => { q with projects := t :: q.projects }
  | .day l => { q with days := l :: q.days }
  | .length l => { q with lengths := l :: q.lengths }
  | .problem p => { q with problems := p :: q.problems }

/-- **The query of some parts**, in their order. -/
def ofParts (parts : List Part) : Query := parts.foldr cons blank

/-- Two queries one after the other, sort by sort. -/
def append (a b : Query) : Query :=
  ⟨a.texts ++ b.texts, a.excluded ++ b.excluded, a.apps ++ b.apps, a.projects ++ b.projects,
    a.days ++ b.days, a.lengths ++ b.lengths, a.problems ++ b.problems⟩

@[simp] theorem blank_append (q : Query) : blank.append q = q := by
  simp [blank, append]

/-- Parts one after the other give queries one after the other. -/
theorem ofParts_append (as bs : List Part) :
    ofParts (as ++ bs) = (ofParts as).append (ofParts bs) := by
  induction as with
  | nil => simp [ofParts]
  | cons a as ih =>
    have h : ofParts (a :: (as ++ bs)) = cons a (ofParts (as ++ bs)) := rfl
    have h' : ofParts (a :: as) = cons a (ofParts as) := rfl
    rw [List.cons_append, h, h', ih]
    cases a <;> rfl

/-- Whether a query asks nothing; problems do not count. -/
def isEmpty (q : Query) : Bool :=
  q.texts.isEmpty && q.excluded.isEmpty && q.apps.isEmpty && q.projects.isEmpty &&
    q.days.isEmpty && q.lengths.isEmpty

/-- Whether a query asks for an app, a project, a day or a length. -/
def hasFilters (q : Query) : Bool :=
  !(q.apps.isEmpty && q.projects.isEmpty && q.days.isEmpty && q.lengths.isEmpty)

end Query

end Worklog
