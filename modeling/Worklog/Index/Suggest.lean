import Worklog.Index.Basic

/-!
# What the index suggests

Names that contain a text, letter case aside, in alphabetical order; and the terms that were
emitted most often. Where a name is no text, no names of its kind are suggested at all.
-/

namespace Worklog.Index

/-- Those of some names that contain a text, letter case aside, in order. -/
def namesWith (t : Text) (names : List Text) : List Text :=
  (names.filter fun name => Text.occursIn (Text.lower t) (Text.lower name)).mergeSort Text.le

/-- The texts among which is looked for names: all labels have to be texts. -/
def nameTexts (labels : List Label) : Except Fault (List Text) :=
  labels.mapM fun
    | .text t => .ok t
    | l => .error (.noText l.kindName)

/-- The app names that contain a text. -/
def appNames (i : Index) (t : Text) : Except Fault (List Text) := do
  return namesWith t (← nameTexts i.apps.keys)

/-- The project names that contain a text. -/
def projectNames (i : Index) (t : Text) : Except Fault (List Text) := do
  return namesWith t (← nameTexts i.projects.keys)

/-- The first sampled window titles that contain a text. -/
def windowTitles (i : Index) (t : Text) (limit : Int) : List Text :=
  front limit (namesWith t i.sample)

/-- **The terms emitted most often**, terms with equal counts in the order of their first use. -/
def commonTerms (i : Index) (limit : Int) : List Text :=
  (i.frequency.mostCommon limit).map (·.1)

end Worklog.Index
