import Worklog.Calendar.Moment
import Worklog.Json.Basic
import Worklog.Table

/-!
# The error log

The log keeps the latest errors for diagnosis, oldest first, and counts the errors of each
component, those it no longer keeps included.
-/

namespace Worklog

/-- How bad an error is. -/
inductive Severity where
  | low
  | medium
  | high
  | critical
  deriving DecidableEq, Repr

namespace Severity

/-- The rank of a severity. -/
def rank : Severity → Nat
  | .low => 1
  | .medium => 2
  | .high => 3
  | .critical => 4

/-- The name of a severity. -/
def name : Severity → String
  | .low => "LOW"
  | .medium => "MEDIUM"
  | .high => "HIGH"
  | .critical => "CRITICAL"

/-- All severities. -/
def all : List Severity := [.low, .medium, .high, .critical]

/-- The severity with a name; any other name is a missing key. -/
def read (t : Text) : Except Fault Severity :=
  match all.find? fun s => s.name.toList == t with
  | some s => .ok s
  | none => .error (.missingKey t)

end Severity

/-- An error that was noted. -/
structure Mishap where
  time : Moment
  component : Text
  kind : Text
  message : Text
  severity : Severity
  context : List (String × Json)

namespace Mishap

/-- The document of an error. -/
def toJson (m : Mishap) : Json :=
  .obj [("timestamp", .str m.time.isoText), ("component", .str m.component),
    ("error_type", .str m.kind), ("message", .str m.message),
    ("severity", .int m.severity.rank), ("context", .obj m.context)]

/-- The error that a fault is. -/
def ofFault (time : Moment) (component : String) (f : Fault) (severity : Severity)
    (context : List (String × Json)) : Mishap :=
  ⟨time, component.toList, f.logName.toList, f.message.getD [], severity, context⟩

end Mishap

/-- The latest errors and the number of errors of each component. -/
structure ErrorLog where
  capacity : Nat
  kept : List Mishap
  counts : Tally Text

namespace ErrorLog

/-- The number of errors kept, unless set otherwise. -/
def defaultCapacity : Nat := 100

/-- An empty log. -/
def empty (capacity : Nat) : ErrorLog := ⟨capacity, [], []⟩

/-- An empty log with a signed capacity; a negative one is a fault. -/
def ofCapacity (capacity : Int) : Except Fault ErrorLog :=
  if capacity < 0 then .error .negativeBound else .ok (empty capacity.toNat)

/-- **Notes an error.** -/
def record (l : ErrorLog) (m : Mishap) : ErrorLog :=
  { l with kept := pushLatest l.capacity l.kept m, counts := l.counts.up m.component }

/-- **The latest errors**, at most `limit` of them, oldest first. -/
def recent (l : ErrorLog) (limit : Int) : List Mishap := back limit l.kept

/-- The last error. -/
def last? (l : ErrorLog) : Option Mishap := l.kept.getLast?

/-- Forgets all errors and counts. -/
def clear (l : ErrorLog) : ErrorLog := empty l.capacity

end ErrorLog

end Worklog
