import Worklog.Fault
import Worklog.Json.Basic
import Worklog.Text.Lowercase

/-!
# Values as labels

Names, selections and references are texts as a rule, but a document may put any value in their
place. A value that can be a member of a set has a label, and two values are the same member if
their labels are equal: a number is its size, whichever way it is written, and a truth value is a
number. Lists and objects have no label.

* `Json.label` gives the label of a value, `Label.le` orders labels;
* `Json.distinct` keeps one value of each label, in the order of the labels;
* `Json.searchable` and `Json.lowered` take a value for a text.
-/

namespace Worklog

/-- What a value is as a member of a set. -/
inductive Label where
  | nothing
  | number (q : Quantity)
  | text (t : Text)
  deriving DecidableEq

namespace Label

/-- The sort of a label: nothing, numbers, what is no number, texts. -/
def sort : Label → Nat
  | nothing => 0
  | number q => if q = .undefined then 2 else 1
  | text _ => 3

/-- The order of labels: by sort, and within a sort by size or in alphabetical order. -/
def le (a b : Label) : Bool :=
  if a.sort = b.sort then
    match a, b with
    | number x, number y => x.le y || decide (x = y)
    | text s, text t => Text.le s t
    | _, _ => true
  else decide (a.sort < b.sort)

/-- The name of the kind of the values with a label, as messages give it. -/
def kindName : Label → String
  | nothing => "NoneType"
  | number _ => "int"
  | text _ => "str"

/-- The label of a number: the two zeros are one. -/
def ofQuantity (q : Quantity) : Label := number (if q.isZero then .finite 0 else q)

end Label

namespace Json

/-! ## 1. Labels -/

/-- **The label of a value.** -/
def label : Json → Except Fault Label
  | .null => .ok .nothing
  | .bool b => .ok (.number (.finite (if b then 1 else 0)))
  | .int n => .ok (.number (.finite n))
  | .real q => .ok (.ofQuantity q)
  | .str t => .ok (.text t)
  | v => .error (.noMember v.kindName)

/-- Takes the values whose label was not among those seen before. -/
def fresh (seen : List Label) : List Json → Except Fault (List (Label × Json))
  | [] => .ok []
  | v :: rest => do
    let l ← v.label
    if seen.contains l then fresh seen rest
    else return (l, v) :: (← fresh (l :: seen) rest)

/-- **One value of each label**, the first of several, in the order of the labels. -/
def distinct (vs : List Json) : Except Fault (List Json) := do
  return ((← fresh [] vs).mergeSort fun a b => a.1.le b.1).map (·.2)

/-- The labels of some values; values without labels are left out. -/
def labels (vs : List Json) : List Label := vs.filterMap fun v => v.label.toOption

/-- Whether values that are told apart by labels have an order among themselves: there is one of
    them at most, or they are all numbers, or all texts. -/
def areOrdered (vs : List Json) : Bool :=
  decide (vs.length ≤ 1) || vs.all (fun v => v.amount?.isSome) ||
    vs.all fun
      | .str _ => true
      | _ => false

/-! ## 2. Texts -/

/-- The text of a value that should be one. What counts as not given is the empty text. -/
def searchable : Json → Except Fault Text
  | .str t => .ok t
  | v => if v.truthy then .error (.noText v.kindName) else .ok []

/-- The lower-cased text of a value that has to be one. -/
def lowered : Json → Except Fault Text
  | .str t => .ok (Text.lower t)
  | v => .error (.noText v.kindName)

@[simp] theorem searchable_str (t : Text) : (Json.str t).searchable = .ok t := rfl

@[simp] theorem searchable_null : Json.null.searchable = .ok [] := rfl

@[simp] theorem lowered_str (t : Text) : (Json.str t).lowered = .ok (Text.lower t) := rfl

end Json

end Worklog
