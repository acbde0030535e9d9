import Worklog.History.Saved
import Worklog.Json.Reader
import Worklog.Table

/-!
# The search history

The history holds the latest queries, latest first, without repetitions, and the saved searches. It
may be kept in a state file, which every change writes anew; `History.load` reads it. Where the
file cannot be written, the change stands all the same, and `History.objection` says why.
-/

namespace Worklog

/-- What a state file holds. -/
inductive StateFile where
  /-- No state file is used. -/
  | unused
  /-- The file is not there. -/
  | missing
  /-- The file cannot be read. -/
  | unreadable (f : Fault)
  /-- The file is not there and cannot be made. -/
  | blocked (f : Fault)
  /-- The file is a document. -/
  | document (v : Json)

namespace StateFile

/-- The state file with a text. -/
def ofText (t : Text) : StateFile :=
  match Json.read t with
  | .ok v => .document v
  | .error f => .unreadable f

end StateFile

/-- The latest queries and the saved searches. -/
structure History where
  limit : Int
  /-- The latest queries; a document may put any value in place of one. -/
  entries : List Json
  saved : List SavedSearch
  file : StateFile

namespace History

/-- The number of queries kept, unless set otherwise. -/
def defaultLimit : Int := 20

/-- A history without entries. -/
def empty (limit : Int) (file : StateFile) : History := ⟨limit, [], [], file⟩

/-! ## 1. The state file -/

/-- The document of a history. -/
def toJson (h : History) : Except Fault Json := do
  return .obj [("history", .arr h.entries),
    ("saved_searches", .arr (← h.saved.mapM SavedSearch.toJson))]

/-- Why a history cannot be written, if a state file is used. -/
def objection (h : History) : Option Fault :=
  match h.file with
  | .unused => none
  | .blocked f => some f
  | _ =>
    match h.toJson with
    | .ok _ => none
    | .error f => some f

/-- What is answered after a change, unless it cannot be written. -/
def confirm {α : Type} (h : History) (a : α) : Except Fault α :=
  match h.objection with
  | none => .ok a
  | some f => .error f

/-- Writes the state file, if one is used and can be written. -/
def persist (h : History) : History :=
  match h.file, h.toJson with
  | .unused, _ => h
  | .blocked _, _ => h
  | _, .ok v => { h with file := .document v }
  | _, .error _ => h

/-- Reads the queries of a document. -/
def loadEntries (h : History) (v : Json) : Except Fault History := do
  return { h with entries := front h.limit (← v.items "history") }

/-- Reads the saved searches of a document. -/
def loadSaved (h : History) (v : Json) : Except Fault History := do
  return { h with saved := ← (← v.items "saved_searches").mapM SavedSearch.read }

/-- **Reads the state file**, if there is one. -/
def load (h : History) : Except Fault History :=
  match h.file with
  | .unused => .ok h
  | .missing => .ok h
  | .unreadable f => .error f
  | .blocked _ => .ok h
  | .document v => do (← h.loadEntries v).loadSaved v

/-- What a history has after its state file could not be read to the end: the queries, if those
    could be read. -/
def loadedSoFar (h : History) : History :=
  match h.file with
  | .document v =>
    match h.loadEntries v with
    | .ok loaded => loaded
    | .error _ => h
  | _ => h

/-! ## 2. Queries -/

/-- The entries after one more query, which comes first. -/
def withEntry (limit : Int) (entries : List Json) (query : Text) : List Json :=
  front limit (.str query :: entries.erase (.str query))

/-- **Adds a query** without the blanks around it; blank queries are not added. -/
def add (h : History) (query : Text) : History :=
  let query := Text.strip query
  if query.isEmpty then h else { h with entries := withEntry h.limit h.entries query }.persist

/-- Why a history cannot be written after a query was added to it, if it cannot. A blank query
    changes nothing. -/
def objectionTo (h : History) (query : Text) : Option Fault :=
  if Text.isBlankText query then none else h.objection

/-- Forgets all queries. -/
def clear (h : History) : History := { h with entries := [] }.persist

/-- The latest queries that contain a text, letter case aside. All entries have to be texts. -/
def suggest (h : History) (t : Text) (limit : Int) : Except Fault (List Text) := do
  let texts ← h.entries.mapM fun
    | .str q => .ok q
    | v => .error (.noText v.kindName)
  return front limit (texts.filter fun q => Text.occursIn (Text.lower t) (Text.lower q))

/-! ## 3. Saved searches -/

/-- **Saves a search.** -/
def save (h : History) (s : SavedSearch) : History := { h with saved := h.saved ++ [s] }.persist

/-- Deletes the saved searches with an identifier, and says whether there were any. -/
def delete (h : History) (id : Text) : History × Bool :=
  let left := h.saved.filter fun s => s.id != .str id
  if left.length = h.saved.length then (h, false) else ({ h with saved := left }.persist, true)

/-- The saved search at a position. -/
def savedAt (h : History) (position : Int) : Except Fault SavedSearch :=
  match itemAt? position h.saved with
  | some s => .ok s
  | none => .error .noSuchPosition

/-- Marks the saved search at a position as used. -/
def touch (h : History) (now : Moment) (position : Int) : Except Fault (History × SavedSearch) := do
  let s := (← h.savedAt position).markUsed now
  let i := if 0 ≤ position then position.toNat else h.saved.length - position.natAbs
  return ({ h with saved := h.saved.set i s }.persist, s)

end History

end Worklog
