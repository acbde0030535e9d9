import Worklog.Calendar.Moment
import Worklog.Json.Label
import Worklog.Number.Bound
import Worklog.Number.Precision

/-!
# Records

A work log holds three kinds of records: activities, which were captured while they went on and
may still be open; time entries, which were recorded by hand; and projects, to which time entries
belong and which may have parents.

A document may put any value in place of a name or a text, and leave open when an activity started.
Such records can be held and shown; what needs the text or the start of one is a fault.

`Record.fields` lists the fields of a record that are searched, `Record.texts` their texts.
-/

namespace Worklog

/-! ## 1. Kinds -/

/-- The kinds of records. -/
inductive RecordKind where
  | activity
  | timeEntry
  | project
  deriving DecidableEq, Repr

namespace RecordKind

/-- The name of a kind. -/
def name : RecordKind → String
  | .activity => "activity"
  | .timeEntry => "time_entry"
  | .project => "project"

/-- All kinds. -/
def all : List RecordKind := [.activity, .timeEntry, .project]

/-- The kind with a name. -/
def ofName? (t : Text) : Option RecordKind := all.find? fun k => k.name.toList == t

/-- The kind with a name; other words are a fault. -/
def read (t : Text) : Except Fault RecordKind :=
  match ofName? t with
  | some k => .ok k
  | none => .error (.unknownWord .recordKind t)

end RecordKind

/-! ## 2. The three records -/

/-- Captured use of an app. An activity without an end is open. -/
structure Activity where
  id : Text
  appName : Json
  start : Option Moment
  finish : Option Moment
  windowTitle : Json
  url : Json
  documentPath : Json
  idle : Bool

namespace Activity

/-- Whether an activity still goes on. -/
def isOpen (a : Activity) : Bool := a.finish.isNone

/-- The seconds from a start to an end. An end before the start counts as no time. -/
def secondsBetween (p : Precision) (start finish : Moment) : Rat :=
  Number.atLeast 0 (p.seconds (finish.since start))

/-- When an activity started. -/
def begin (a : Activity) : Except Fault Moment :=
  match a.start with
  | some m => .ok m
  | none => .error (.noDifference "datetime.datetime" "NoneType")

/-- The seconds from the start to the end; an open activity runs until now. -/
def seconds (p : Precision) (now : Moment) (a : Activity) : Except Fault Rat := do
  return secondsBetween p (← a.begin) (a.finish.getD now)

end Activity

/-- A work session recorded by hand. -/
structure TimeEntry where
  id : Text
  title : Json
  start : Moment
  finish : Moment
  notes : Json
  projectId : Json
  start_lt_finish : start.lt finish = true

/-- The seconds from the start to the end. -/
def TimeEntry.seconds (p : Precision) (e : TimeEntry) : Rat := p.seconds (e.finish.since e.start)

/-- A label for work. Only whether a parent is given matters, so it is kept as it came. -/
structure Project where
  id : Text
  name : Json
  parent : Json

/-- Whether a project has no parent. -/
def Project.isRoot (p : Project) : Bool := !p.parent.isGiven

/-- A record of any kind. -/
inductive Record where
  | activity (a : Activity)
  | timeEntry (e : TimeEntry)
  | project (p : Project)

/-! ## 3. Texts -/

/-- The text fields of records. -/
inductive Field where
  | appName
  | windowTitle
  | url
  | documentPath
  | title
  | notes
  | projectName
  deriving DecidableEq, Repr

/-- The fields of a kind of records. -/
def RecordKind.fields : RecordKind → List Field
  | .activity => [.appName, .windowTitle, .url, .documentPath]
  | .timeEntry => [.title, .notes]
  | .project => [.projectName]

namespace Record

/-- The kind of a record. -/
def kind : Record → RecordKind
  | .activity _ => .activity
  | .timeEntry _ => .timeEntry
  | .project _ => .project

/-- The identifier of a record. -/
def id : Record → Text
  | .activity a => a.id
  | .timeEntry e => e.id
  | .project p => p.id

/-- **The fields of a record** that are searched. -/
def fields : Record → List (Field × Json)
  | .activity a =>
    [(.appName, a.appName), (.windowTitle, a.windowTitle), (.url, a.url),
     (.documentPath, a.documentPath)]
  | .timeEntry e => [(.title, e.title), (.notes, e.notes)]
  | .project p => [(.projectName, p.name)]

/-- The fields of a record are those of its kind. -/
theorem map_fst_fields (r : Record) : r.fields.map (·.1) = r.kind.fields := by
  cases r <;> rfl

/-- **The texts of a record**, field by field; a field without a text is empty. -/
def texts (r : Record) : Except Fault (List (Field × Text)) :=
  r.fields.mapM fun f => do return (f.1, ← f.2.searchable)

end Record

/-- The non-empty ones of some texts in lower case. -/
def loweredTexts (ts : List Text) : List Text := (ts.filter (!·.isEmpty)).map Text.lower

/-! ## 4. Changes -/

/-- What happened to a record. -/
inductive Operation where
  | insert
  | update
  | delete
  deriving DecidableEq, Repr

namespace Operation

/-- The name of an operation. -/
def name : Operation → String
  | .insert => "insert"
  | .update => "update"
  | .delete => "delete"

/-- All operations. -/
def all : List Operation := [.insert, .update, .delete]

/-- The operation with a name. -/
def read (t : Text) : Except Fault Operation :=
  match all.find? fun o => o.name.toList == t with
  | some o => .ok o
  | none => .error (.unknownWord .operation t)

end Operation

/-- A notice that a record changed. -/
structure Change where
  kind : RecordKind
  id : Text
  operation : Operation
  deriving DecidableEq

end Worklog
