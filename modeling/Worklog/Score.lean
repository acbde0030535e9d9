import Worklog.Results

/-!
# Scores

Records are ranked by a score for a text at a moment:

* each text field that contains the text counts, more if it is equal to it, letter case aside;
* a recent start counts up to 10 points, one less for each day that has passed;
* a long duration counts up to 5 points, one for each hour;
* a project without a parent counts 5 points.

`Score.ranked` orders records by falling score and keeps the order of equals. A record whose texts
or start the score needs and does not find has none.
-/

namespace Worklog.Score

/-- What a field counts: if it is equal to the text, and if it contains it. -/
structure Weight where
  equal : Rat
  contained : Rat

/-- The weight of each field. -/
def weight : Field → Weight
  | .appName => ⟨100, 50⟩
  | .windowTitle => ⟨80, 30⟩
  | .url => ⟨20, 20⟩
  | .documentPath => ⟨25, 25⟩
  | .title => ⟨100, 60⟩
  | .notes => ⟨30, 30⟩
  | .projectName => ⟨100, 70⟩

/-- The greatest count for a recent start. -/
def maxRecency : Rat := 10

/-- The greatest count for a long duration. -/
def maxLength : Rat := 5

/-- The count for a project without a parent. -/
def rootBonus : Rat := 5

/-- What a field with a text counts for a lower-cased text. -/
def ofField (needle : Text) (field : Field × Text) : Rat :=
  let value := Text.lower field.2
  if needle.isEmpty || field.2.isEmpty || !Text.occursIn needle value then 0
  else if value == needle then (weight field.1).equal else (weight field.1).contained

/-- What the fields of a record count for a text. For the empty text no field is looked at. -/
def ofFields (p : Precision) (text : Text) (r : Record) : Except Fault Rat := do
  let needle := Text.lower text
  if needle.isEmpty then return 0
  return ((← r.texts).map (ofField needle)).foldl p.add 0

/-- What a recent start counts. -/
def recency (p : Precision) (now start : Moment) : Rat :=
  let days := p.div (p.seconds (now.since start)) 86400
  Number.atMost maxRecency (Number.atLeast 0 (p.sub maxRecency days))

/-- What a long duration counts. -/
def length (p : Precision) (seconds : Rat) : Rat := Number.atMost maxLength (p.div seconds 3600)

/-- **The score of an activity.** -/
def activity (p : Precision) (text : Text) (now : Moment) (a : Activity) : Except Fault Rat := do
  let fields ← ofFields p text (.activity a)
  let start ← a.begin
  return p.add (p.add fields (recency p now start)) (length p (← a.seconds p now))

/-- **The score of a time entry.** -/
def timeEntry (p : Precision) (text : Text) (now : Moment) (e : TimeEntry) : Except Fault Rat := do
  let fields ← ofFields p text (.timeEntry e)
  return p.add (p.add fields (recency p now e.start)) (length p (e.seconds p))

/-- **The score of a project.** -/
def project (p : Precision) (text : Text) (r : Project) : Except Fault Rat := do
  return p.add (← ofFields p text (.project r)) (if r.isRoot then rootBonus else 0)

/-- Items with their scores. -/
def scored {α : Type} (score : α → Except Fault Rat) (items : List α) :
    Except Fault (List (Scored α)) :=
  items.mapM fun a => do return ⟨a, ← score a⟩

/-- Scored items by falling score, equals in the given order. -/
def sorted {α : Type} (items : List (Scored α)) : List (Scored α) :=
  items.mergeSort fun a b => decide (b.score ≤ a.score)

/-- **Items by falling score**, equals in the given order. -/
def ranked {α : Type} (score : α → Except Fault Rat) (items : List α) :
    Except Fault (List (Scored α)) := do
  return sorted (← scored score items)

/-- Sorting loses nothing and adds nothing. -/
theorem sorted_perm {α : Type} (items : List (Scored α)) : (sorted items).Perm items :=
  List.mergeSort_perm _ _

end Worklog.Score
