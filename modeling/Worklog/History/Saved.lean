import Worklog.Calendar.Stamp
import Worklog.Panel

/-!
# Saved searches

A saved search is a query and the settings of the panel under a name. `SavedSearch.read` and
`SavedSearch.toJson` are its document form, `SavedSearch.description` describes it in words.
-/

namespace Worklog

/-- A query and the settings of the panel, kept under a name. A document may put any value in place
    of the identifier, the name and the query. -/
structure SavedSearch where
  id : Json
  name : Json
  query : Json
  panel : Panel
  created : Stamp
  lastUsed : Option Stamp

namespace SavedSearch

/-- A saved search that was used at a moment. -/
def markUsed (now : Moment) (s : SavedSearch) : SavedSearch :=
  { s with lastUsed := some now.toStamp }

/-- **A saved search in words**: its query in quotes and the settings of the panel. -/
def description (p : Precision) (s : SavedSearch) : Except Fault Text := do
  let query := if s.query.truthy then ['"' :: s.query.display ++ ['"']] else []
  let summary ← s.panel.summary p
  let panel := if summary.isEmpty then [] else [summary]
  match query ++ panel with
  | [] => return "All items".toList
  | parts => return Text.joinWith " with ".toList parts

/-- The document of a time that may be absent. -/
def stampJson : Option Stamp → Json
  | some t => .str t.isoText
  | none => .null

/-- **The document of a saved search.** -/
def toJson (s : SavedSearch) : Except Fault Json := do
  return .obj [("id", s.id), ("name", s.name), ("query", s.query),
    ("filters", ← s.panel.toJson), ("created_at", .str s.created.isoText),
    ("last_used_at", stampJson s.lastUsed)]

/-- A time in a document. -/
def readStamp : Json → Except Fault Stamp
  | .str t => Stamp.read t
  | _ => .error .wrongType

/-- The panel of a document; what counts as not given is the blank panel. -/
def readPanel (v : Json) : Except Fault Panel :=
  let f := v.getD "filters"
  if f.truthy then Panel.read f else .ok .blank

/-- The time of the last use in a document; what counts as not given is no time. -/
def readLastUsed (v : Json) : Except Fault (Option Stamp) :=
  let t := v.getD "last_used_at"
  if t.truthy then (readStamp t).map some else .ok none

/-- **Reads a saved search.** A document without a query has an empty one. -/
def read (v : Json) : Except Fault SavedSearch :=
  match v with
  | .obj _ => do
    return {
      id := ← v.required "id"
      name := ← v.required "name"
      query := (v.get? "query").getD (.str [])
      panel := ← readPanel v
      created := ← readStamp (← v.required "created_at")
      lastUsed := ← readLastUsed v }
  | _ => .error .wrongShape

end SavedSearch

end Worklog
