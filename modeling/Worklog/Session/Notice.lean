import Worklog.Bus.Basic
import Worklog.Index.Basic

/-!
# Notices

What the store and the search session publish. A notice fixes its topic and its publisher, so a
notice is all there is to say about an event; `Notice.event` is the event. Others may publish as
well, on any topic: `Notice.foreign`.
-/

namespace Worklog

/-- What is published. -/
inductive Notice where
  /-- A record changed in the store. -/
  | recordChanged (change : Change)
  /-- A search failed or was refused. -/
  | searchFailed (query : Json) (reason : Text)
  /-- A search was answered. -/
  | resultsChanged (query : Json) (total : Nat) (fromCache : Bool)
  /-- The index was built anew. -/
  | indexRebuilt (size : IndexSize)
  /-- A change of a record reached the index. -/
  | indexUpdated (change : Change)
  /-- Something that others published. -/
  | foreign (topic : Text) (data : Json)

namespace Notice

/-- The topic of a changed record. -/
def changeTopic (c : Change) : Text :=
  "record.".toList ++ c.kind.name.toList ++ '.' :: c.operation.name.toList

/-- The topic of a notice. -/
def topic : Notice → Text
  | .recordChanged c => changeTopic c
  | .searchFailed _ _ => "search.failed".toList
  | .resultsChanged _ _ _ => "search.results_changed".toList
  | .indexRebuilt _ => "index.rebuilt".toList
  | .indexUpdated _ => "index.updated".toList
  | .foreign t _ => t

/-- The publisher of a notice. -/
def source : Notice → Option Text
  | .recordChanged _ => some "record_store".toList
  | .foreign _ _ => none
  | _ => some "search_service".toList

/-- The document of a change. -/
def changeJson (c : Change) : Json :=
  .obj [("kind", Json.ofString c.kind.name), ("record_id", .str c.id),
    ("operation", Json.ofString c.operation.name)]

/-- **The document of what a notice carries.** -/
def toJson : Notice → Json
  | .recordChanged c => .obj [("change", changeJson c)]
  | .searchFailed query reason => .obj [("query", query), ("error", .str reason)]
  | .resultsChanged query total fromCache =>
    .obj [("query", query), ("total_count", .int total), ("cache_hit", .bool fromCache)]
  | .indexRebuilt size => size.toJson
  | .indexUpdated c => changeJson c
  | .foreign _ data => data

/-- The event of a notice. -/
def event (n : Notice) : Event Notice := ⟨n.topic, n, n.source⟩

end Notice

end Worklog
