import Worklog.Table
import Worklog.Text.Basic

/-!
# Postings

The postings of a field say under which terms which records are filed. To find the terms that
contain a text without looking at every term, a side table lists for each pair of neighbouring
characters the terms in which it occurs.

* `Postings.add` and `Postings.discard` file and unfile one identifier under one term;
* `Postings.matching` finds the terms that contain a text, `Postings.lookup` the identifiers filed
  under them.
-/

namespace Worklog

/-- The pairs of neighbouring characters of a text, each once. -/
def Text.pairs (t : Text) : List Text :=
  ((t.zip (t.drop 1)).map fun p => [p.1, p.2]).eraseDups

/-- A list of distinct items with one more; an item that is there is not added. -/
def addTo {α : Type} [BEq α] (a : α) (items : List α) : List α :=
  if items.contains a then items else items ++ [a]

/-- The identifiers filed under the terms of one field. -/
structure Postings where
  /-- The identifiers of each term; no list is empty. -/
  ids : Table Text (List Text)
  /-- The terms in which each pair of characters occurs; no list is empty. -/
  terms : Table Text (List Text)

namespace Postings

/-- Nothing is filed. -/
def empty : Postings := ⟨[], []⟩

/-- The number of terms. -/
def size (p : Postings) : Nat := p.ids.length

/-- Enters a term into the side table. -/
def enter (term : Text) (terms : Table Text (List Text)) : Table Text (List Text) :=
  (Text.pairs term).foldl (fun t pair => t.put pair (addTo term (t.getD pair []))) terms

/-- Takes a term out of the side table. -/
def withdraw (term : Text) (terms : Table Text (List Text)) : Table Text (List Text) :=
  (Text.pairs term).foldl (fun t pair =>
    let left := (t.getD pair []).filter (· != term)
    if left.isEmpty then t.erase pair else t.put pair left) terms

/-- **Files an identifier under a term.** -/
def add (term id : Text) (p : Postings) : Postings :=
  match p.ids.get? term with
  | some ids => { p with ids := p.ids.put term (addTo id ids) }
  | none => ⟨p.ids.put term [id], enter term p.terms⟩

/-- **Unfiles an identifier**; a term without identifiers goes. -/
def discard (term id : Text) (p : Postings) : Postings :=
  match p.ids.get? term with
  | some ids =>
    let left := ids.filter (· != id)
    if left.isEmpty then ⟨p.ids.erase term, withdraw term p.terms⟩
    else { p with ids := p.ids.put term left }
  | none => p

/-- The terms of a list that stand in each of some others; when none is left, the others are not
    looked at. -/
def narrow (terms : List Text) : List (List Text) → List Text
  | [] => terms
  | bucket :: more => if terms.isEmpty then [] else narrow (terms.filter bucket.contains) more

/-- The terms of each of some pairs, the fewest first. -/
def buckets (p : Postings) (pairs : List Text) : List (List Text) :=
  (pairs.map fun pair => p.terms.getD pair []).mergeSort fun a b => decide (a.length ≤ b.length)

/-- The terms in which all of some pairs occur. -/
def candidates (p : Postings) (pairs : List Text) : List Text :=
  match p.buckets pairs with
  | [] => p.ids.keys
  | bucket :: more => narrow bucket more

/-- **The terms that contain a text.** A text without pairs is looked for in every term. -/
def matching (p : Postings) (t : Text) : List Text :=
  (p.candidates (Text.pairs t)).filter (Text.occursIn t)

/-- **The identifiers filed under the terms that contain a text**, each once. -/
def lookup (p : Postings) (t : Text) : List Text :=
  ((p.matching t).flatMap fun term => p.ids.getD term []).eraseDups

end Postings

end Worklog
