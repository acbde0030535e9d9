import Worklog.Index.Suggest
import Worklog.Session.Basic

/-!
# Suggestions

A query that is being typed is completed by queries of the history, by app names and by project
names, in that order; the settings bound each kind and all together.
-/

namespace Worklog

/-- Where a suggestion comes from. -/
inductive SuggestionKind where
  | history
  | appName
  | project
  deriving DecidableEq, Repr

/-- The name of a kind of suggestions. -/
def SuggestionKind.name : SuggestionKind → String
  | .history => "history"
  | .appName => "app_name"
  | .project => "project"

/-- A suggestion. -/
structure Suggestion where
  text : Text
  kind : SuggestionKind
  deriving DecidableEq

namespace Session

/-- Texts as suggestions of a kind. -/
def suggestionsOf (kind : SuggestionKind) (ts : List Text) : List Suggestion :=
  ts.map fun t => ⟨t, kind⟩

/-- The text to be completed: the one that is typed, or the present query where null is given. -/
def partialText (s : Session) (typed : Json) : Except Fault Text :=
  match if typed.isGiven then typed else s.query with
  | .str t => .ok (Text.lower (Text.strip t))
  | _ => .error .wrongShape

/-- **What completes a text**, or the present query. A blank text is not completed. -/
def suggest (s : Session) (typed : Json) : Except Fault (List Suggestion) := do
  let t ← s.partialText typed
  if t.isEmpty then return []
  let caps := s.settings.search
  let queries ← s.history.suggest t caps.historySuggestions
  let apps ← s.desk.index.appNames t
  let projects ← s.desk.index.projectNames t
  return front caps.maxSuggestions
    (suggestionsOf .history queries ++
      suggestionsOf .appName (front caps.appSuggestions apps) ++
      suggestionsOf .project (front caps.projectSuggestions projects))

end Session

end Worklog
