import Worklog.History.Basic
import Worklog.Search.Desk
import Worklog.Session.Notice
import Worklog.Settings.Basic

/-!
# The search session

A session is what a user works with: a query, the settings of a panel, the results that are shown,
and the history. It searches at once or after a delay, during which it waits for the query to
change; every search takes the place of one that still waits. The query should be a text, and a
document may put any value in its place: with such a query there is no searching.

* `Session.searchNow` searches at once, and so do `applyPanel`, `clearPanel` and `restore`;
* `Session.race` is what happens when several searches are asked for in the same moment;
* `Session.save`, `restore` and `deleteSaved` deal with saved searches.

`Session.Schedule` holds the delayed searches, `Session.Upkeep` keeps the index in step with the
store, `Session.Suggest` completes queries.
-/

namespace Worklog

/-- What became of a search that was scheduled. -/
inductive Ticket where
  /-- It waits for some more milliseconds. -/
  | waiting (left : Rat)
  /-- Another search took its place, which it has not noticed yet. -/
  | superseded
  /-- It was given up. -/
  | cancelled
  /-- It was carried out. -/
  | done

/-- A search session. -/
structure Session where
  settings : Settings
  desk : Desk
  history : History
  query : Json
  panel : Panel
  results : Results
  /-- The searches that were scheduled, oldest first. -/
  tickets : List Ticket

/-- What a call of a session comes to: the session after it, what it publishes, and its answer. -/
structure Reply (α : Type) where
  session : Session
  notices : List Notice
  answer : Except Fault α

/-! ## 1. Tickets -/

namespace Ticket

/-- Whether a search still waits, or does not know that it should not. -/
def isOpen : Ticket → Bool
  | .waiting _ => true
  | .superseded => true
  | _ => false

/-- The time that a search still waits. -/
def left? : Ticket → Option Rat
  | .waiting left => some left
  | _ => none

/-- Another search takes the place of one that waits. -/
def supersede : Ticket → Ticket
  | .waiting _ => .superseded
  | t => t

/-- A search whose place was taken is given up. -/
def settle : Ticket → Ticket
  | .superseded => .cancelled
  | t => t

/-- A search that waits has waited for some milliseconds more. -/
def wait (ms : Rat) : Ticket → Ticket
  | .waiting left => .waiting (left - ms)
  | t => t

/-- A search that waited is carried out. -/
def finish : Ticket → Ticket
  | .waiting _ => .done
  | t => t

@[simp] theorem left?_supersede (t : Ticket) : t.supersede.left? = none := by cases t <;> rfl

@[simp] theorem left?_settle (t : Ticket) : t.settle.left? = t.left? := by cases t <;> rfl

@[simp] theorem left?_finish (t : Ticket) : t.finish.left? = none := by cases t <;> rfl

end Ticket

namespace Session

/-! ## 2. A new session -/

/-- An index without records, as the settings have it. -/
def newIndex (settings : Settings) (now : Moment) : Index := .empty settings.index.titleSample now

/-- The cache that the settings ask for. -/
def newCache (settings : Settings) : Option Cache :=
  if settings.cache.enabled then
    some (.empty settings.cache.capacity (.real settings.cache.lifetime))
  else none

/-- A desk without records. -/
def newDesk (settings : Settings) (now : Moment) : Desk :=
  ⟨newIndex settings now, newCache settings, .start (.real settings.search.slowSeconds),
    .empty ErrorLog.defaultCapacity⟩

/-- **A new session** with the history of a state file. -/
def start (settings : Settings) (file : StateFile) (now : Moment) : Except Fault Session := do
  let history ← (History.empty settings.search.historyLimit file).load
  return ⟨settings, newDesk settings now, history, .str [], .blank, .empty, []⟩

/-! ## 3. The query -/

/-- Whether a query is a text that is not blank; any other value has no blanks to look for. -/
def isWorded : Json → Except Fault Bool
  | .str q => .ok !Text.isBlankText q
  | _ => .error .wrongShape

/-- Whether there is anything to search for. -/
def hasCriteria (s : Session) : Except Fault Bool := do
  return (← isWorded s.query) || s.panel.isActive

/-- Whether a search waits. -/
def isSearching (s : Session) : Bool := s.tickets.any fun t => t.left?.isSome

/-- Takes the place of a search that waits. -/
def supersede (s : Session) : Session := { s with tickets := s.tickets.map Ticket.supersede }

/-- Lets searches whose place was taken notice it. -/
def settle (s : Session) : Session := { s with tickets := s.tickets.map Ticket.settle }

/-- Turns to a query, or stays with the present one where null is given. -/
def aim (s : Session) (query : Json) : Session :=
  { s.supersede with query := if query.isGiven then query else s.query }

/-- Shows no results. -/
def clearResults (s : Session) : Session := { s with results := .empty }

/-- After a superseded or aimed session nothing waits. -/
theorem isSearching_supersede (s : Session) : s.supersede.isSearching = false := by
  simp [supersede, isSearching]

/-! ## 4. Searching -/

/-- Adds an answered query to the history, and says why that cannot be written, if it cannot. -/
def remember (s : Session) (q : Text) : Session × Option Fault :=
  let history := if Text.isBlankText q then s.history else s.history.add q
  ({ s with history }, history.objectionTo q)

/-- Takes over the answer to the present query, and publishes it. A failed search leaves no trace
    in the history. -/
def receive (s : Session) (r : Results) : Reply Results :=
  let s := { s with results := r }
  match r.failure, s.query with
  | some reason, q => ⟨s, [.searchFailed q reason], .ok r⟩
  | none, .str q =>
    match s.remember q with
    | (s, none) => ⟨s, [.resultsChanged (.str q) r.total r.fromCache], .ok r⟩
    | (s, some f) => ⟨s, [], .error f⟩
  | none, _ => ⟨s, [], .error .wrongShape⟩

/-- **Carries out a search** for the present query and panel. -/
def perform (p : Precision) (s : Session) (env : Surroundings) : Reply Results :=
  let (desk, answer) := s.desk.execute p env s.query s.panel
  let s := { s with desk }
  match answer with
  | .ok r => s.receive r
  | .error f => ⟨s, [], .error f⟩

/-- **Searches at once**, in place of a search that waits. Without anything to search for, nothing
    is shown. -/
def searchNow (p : Precision) (s : Session) (env : Surroundings) (query : Json) :
    Reply (Option Results) :=
  let s := s.aim query
  match s.hasCriteria with
  | .ok true =>
    let r := s.settle.perform p env
    ⟨r.session, r.notices, r.answer.map some⟩
  | .ok false => ⟨s.clearResults, [], .ok none⟩
  | .error f => ⟨s, [], .error f⟩

/-- A search that another one overtakes at once: only the query is taken over. -/
def overtaken (s : Session) (query : Json) : Session × Option Fault :=
  let s := s.aim query
  match s.hasCriteria with
  | .ok true => (s, none)
  | .ok false => (s.clearResults, none)
  | .error f => (s, some f)

/-- **Several searches in the same moment**: the last one is carried out, the others are answered
    with nothing. The first of them that is a fault is the fault of all. -/
def race (p : Precision) (s : Session) (env : Surroundings) :
    List Json → Reply (List (Option Results))
  | [] => ⟨s.settle, [], .ok []⟩
  | [q] =>
    let r := s.searchNow p env q
    ⟨r.session.settle, r.notices, r.answer.map ([·])⟩
  | q :: q' :: rest =>
    let (s, flaw) := s.overtaken q
    let r := s.race p env (q' :: rest)
    ⟨r.session, r.notices, match flaw with
      | none => r.answer.map (none :: ·)
      | some f => .error f⟩

/-- Searches with other settings of the panel. -/
def applyPanel (p : Precision) (s : Session) (env : Surroundings) (f : Panel) :
    Reply (Option Results) :=
  { s with panel := f }.searchNow p env .null

/-- Searches with nothing set on the panel. -/
def clearPanel (p : Precision) (s : Session) (env : Surroundings) : Reply (Option Results) :=
  s.applyPanel p env .blank

/-- Forgets the query and what it found. -/
def clear (s : Session) : Session := (s.aim (.str [])).clearResults

/-! ## 5. History and saved searches -/

/-- Adds a query to the history. -/
def addToHistory (s : Session) (query : Text) : Session × Except Fault Unit :=
  let history := s.history.add query
  ({ s with history }, match history.objectionTo query with
    | none => .ok ()
    | some f => .error f)

/-- Forgets all queries. -/
def clearHistory (s : Session) : Session × Except Fault Unit :=
  let history := s.history.clear
  ({ s with history }, history.confirm ())

/-- The reason for which the present query cannot be saved. -/
def objection (p : Precision) (s : Session) (now : Moment) : Except Fault (Option Text) :=
  match s.query with
  | .str q => do return (← Desk.refusal p now q).map (·.message)
  | _ => .error .wrongShape

/-- **Saves the present query and panel** under a name. A query that would be refused is not
    saved. -/
def save (p : Precision) (s : Session) (now : Moment) (id : Text) (name : Json) :
    Session × Except Fault SavedSearch :=
  match s.objection p now with
  | .error f => (s, .error f)
  | .ok (some reason) => (s, .error (.invalidQuery reason))
  | .ok none =>
    let saved : SavedSearch := ⟨.str id, name, s.query, s.panel, now.toStamp, none⟩
    let history := s.history.save saved
    ({ s with history }, history.confirm saved)

/-- **Goes back to the saved search at a position**, and searches. -/
def restore (p : Precision) (s : Session) (env : Surroundings) (position : Int) :
    Reply (Option Results) :=
  match s.history.touch env.now position with
  | .error f => ⟨s, [], .error f⟩
  | .ok (history, saved) =>
    match history.objection with
    | some f => ⟨{ s with history }, [], .error f⟩
    | none => { s with history, query := saved.query, panel := saved.panel }.searchNow p env .null

/-- Deletes the saved searches with an identifier, and says whether there were any. -/
def deleteSaved (s : Session) (id : Text) : Session × Except Fault Bool :=
  let (history, gone) := s.history.delete id
  ({ s with history }, if gone then history.confirm true else .ok false)

end Session

end Worklog
