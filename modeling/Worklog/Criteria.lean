import Worklog.Json.Label
import Worklog.Limit
import Worklog.Record.Basic

/-!
# Criteria for records

What a record has to meet, kind by kind: `ActivityCriteria`, `TimeEntryCriteria` and
`ProjectCriteria`, made of `TextCriteria` and `TimeCriteria`. The `admits` functions decide them.
They fail where a limit to the last day of the calendar cannot be decided, where a bound on the
length is no number, and where a record lacks a text or a start that they look at. Criteria are
checked in a fixed order, and the first one that is not met ends the check.
-/

namespace Worklog

/-! ## 1. Texts -/

/-- Texts that have to occur in some field, and texts that must not occur in any. -/
structure TextCriteria where
  required : List Text
  excluded : List Text
  deriving DecidableEq

/-- No criteria on texts. -/
def TextCriteria.none : TextCriteria := ⟨[], []⟩

/-- Whether the lower-cased texts of a record meet the criteria. -/
def TextCriteria.admits (c : TextCriteria) (texts : List Text) : Bool :=
  c.required.all (fun t => texts.any (Text.occursIn t)) &&
    !c.excluded.any (fun t => texts.any (Text.occursIn t))

/-- Whether a text contains one of some patterns; without patterns every text does. -/
def containsSome (patterns : List Text) (t : Text) : Bool :=
  patterns.isEmpty || patterns.any fun p => Text.occursIn p t

/-- Whether a value is one of some; without any to choose from every value is. -/
def isSelected (selection : List Label) (v : Json) : Except Fault Bool :=
  if selection.isEmpty then .ok true else return selection.contains (← v.label)

/-- The lower-cased texts of fields that have one. -/
def searchTexts (fields : List (Field × Json)) : Except Fault (List Text) := do
  let given := fields.filter (·.2.truthy)
  given.mapM fun f => f.2.lowered

/-! ## 2. Times -/

/-- Bounds on the start and the length of a record; `now` is where open records end. The bounds on
    the length are null if there are none. -/
structure TimeCriteria where
  start : Option Moment
  finish : Option Moment
  days : List DayLimit
  minSeconds : Json
  maxSeconds : Json
  lengths : List LengthLimit
  now : Moment

/-- Whether a start keeps to the bounds on it, limits on days not counted. -/
def TimeCriteria.admitsStart (c : TimeCriteria) (start : Moment) : Bool :=
  c.start.all (·.le start) && c.finish.all (start.le ·)

/-- Whether a number keeps to a bound that may be null; a bound that is no number cannot be
    compared with the number in the direction of a symbol. -/
def keepsTo (symbol : String) (holds : Amount → Bool) (bound : Json) : Except Fault Bool :=
  if bound.isGiven then
    match bound.amount? with
    | some b => .ok (holds b)
    | none => .error (.unordered symbol "float" bound.kindName)
  else .ok true

/-- Whether all of some checks are passed; the first one that is not passed ends the checks. -/
def allPass {α : Type} (check : α → Except Fault Bool) : List α → Except Fault Bool
  | [] => .ok true
  | a :: rest => do if ← check a then allPass check rest else return false

/-- Whether a length keeps to the bounds on it. -/
def TimeCriteria.admitsLength (p : Precision) (c : TimeCriteria) (seconds : Rat) :
    Except Fault Bool := do
  let length := Amount.ofRat seconds
  if !(← keepsTo "<" (·.le length) c.minSeconds) then return false
  if !(← keepsTo ">" (length.le ·) c.maxSeconds) then return false
  allPass (·.admits p length) c.lengths

/-- Whether a start and a length meet the criteria. -/
def TimeCriteria.admits (p : Precision) (c : TimeCriteria) (start : Moment) (seconds : Rat) :
    Except Fault Bool :=
  if c.admitsStart start then do
    if ← allPass (·.admits start) c.days then c.admitsLength p seconds else return false
  else .ok false

/-! ## 3. Records -/

/-- Criteria for activities: besides texts and times, exact names of apps, parts of names of apps,
    and whether idle time is left out. -/
structure ActivityCriteria where
  text : TextCriteria
  time : TimeCriteria
  apps : List Label
  appPatterns : List Text
  excludeIdle : Bool

/-- The criteria of an activity apart from texts and times. -/
def ActivityCriteria.admitsApp (c : ActivityCriteria) (a : Activity) : Except Fault Bool := do
  if c.excludeIdle && a.idle then return false
  if !(← isSelected c.apps a.appName) then return false
  return containsSome c.appPatterns (← a.appName.lowered)

/-- **Whether an activity meets the criteria.** -/
def ActivityCriteria.admits (p : Precision) (c : ActivityCriteria) (a : Activity) :
    Except Fault Bool := do
  if !(← c.admitsApp a) then return false
  let seconds ← a.seconds p c.time.now
  if !(← c.time.admits p (← a.begin) seconds) then return false
  return c.text.admits (← searchTexts (Record.activity a).fields)

/-- Criteria for time entries: besides texts and times, two sets of projects, where the second
    one may be absent. -/
structure TimeEntryCriteria where
  text : TextCriteria
  time : TimeCriteria
  projects : List Label
  queryProjects : Option (List Label)

/-- The criteria of a time entry apart from texts and times; an entry without a project is in no
    set of projects. -/
def TimeEntryCriteria.admitsProject (c : TimeEntryCriteria) (e : TimeEntry) :
    Except Fault Bool := do
  if !(← isSelected c.projects e.projectId) then return false
  match c.queryProjects with
  | some ids => return ids.contains (← e.projectId.label)
  | none => return true

/-- **Whether a time entry meets the criteria.** -/
def TimeEntryCriteria.admits (p : Precision) (c : TimeEntryCriteria) (e : TimeEntry) :
    Except Fault Bool := do
  if !(← c.admitsProject e) then return false
  if !(← c.time.admits p e.start (e.seconds p)) then return false
  return c.text.admits (← searchTexts (Record.timeEntry e).fields)

/-- Criteria for projects: besides texts, a set of identifiers and parts of names. -/
structure ProjectCriteria where
  text : TextCriteria
  projects : List Label
  namePatterns : List Text

/-- **Whether a project meets the criteria.** -/
def ProjectCriteria.admits (c : ProjectCriteria) (p : Project) : Except Fault Bool := do
  if !(← isSelected c.projects (.str p.id)) then return false
  let name ← p.name.lowered
  return containsSome c.namePatterns name && c.text.admits [name]

end Worklog
