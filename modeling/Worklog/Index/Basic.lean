import Worklog.Index.Postings
import Worklog.Json.Label
import Worklog.Record.Basic
import Worklog.Term

/-!
# The index

The index files every record under the terms of its fields and keeps what suggestions need: how
many activities carry each app name and each window title, how many projects carry each name, and
how often each term was emitted. Window titles are suggested from a bounded sample, from which the
oldest title goes when a new one needs room.

For each filed record a `Filing` says what it contributed, so that it can be taken out again. A
record with a field that should be a text and is none is flawed: it is filed up to that field, and
the names that it carries stay counted when it is taken out.

* `Index.add` files a record, replacing an earlier version; `Index.remove` takes one out;
* `Index.build` files records from scratch;
* `Index.find` gives the identifiers of the records that match a text.
-/

namespace Worklog

/-- What a filed record contributed: its terms field by field, and the names it carries. -/
structure Filing where
  terms : List (Field × Text)
  app : Option Label
  title : Option Text
  project : Option Label

/-- The index over the records of a work log. -/
structure Index where
  /-- The greatest number of sampled window titles; none are sampled if it is not positive. -/
  capacity : Int
  postings : Table Field Postings
  filings : Table (RecordKind × Text) Filing
  apps : Tally Label
  projects : Tally Label
  titles : Tally Text
  /-- The sampled window titles, oldest first. -/
  sample : List Text
  frequency : Tally Text
  updated : Moment

/-- The size of an index. -/
structure IndexSize where
  activities : Nat
  timeEntries : Nat
  projects : Nat
  terms : Nat
  updated : Moment
  deriving DecidableEq

/-- The number of records. -/
def IndexSize.items (s : IndexSize) : Nat := s.activities + s.timeEntries + s.projects

/-- The document of the size of an index. -/
def IndexSize.toJson (s : IndexSize) : Json :=
  .obj [("activities", .int s.activities), ("time_entries", .int s.timeEntries),
    ("projects", .int s.projects), ("total_terms", .int s.terms), ("total_items", .int s.items),
    ("last_update", .str s.updated.isoText)]

namespace Index

/-- An index in which nothing is filed. -/
def empty (capacity : Int) (now : Moment) : Index := ⟨capacity, [], [], [], [], [], [], [], now⟩

/-- An index with nothing filed any more; it keeps the time of its last update. -/
def clear (i : Index) : Index := empty i.capacity i.updated

/-! ## 1. Contributions -/

/-- The terms of a field. -/
def termsOf (field : Field × Json) : Except Fault (List (Field × Text)) := do
  return (Term.ofText (← field.2.searchable)).map (field.1, ·)

/-- A filing with the name that a field carries, if it carries one. An empty window title is
    none. -/
def withName (f : Filing) (field : Field × Json) : Except Fault Filing :=
  match field with
  | (.appName, v) => do return { f with app := some (← v.label) }
  | (.projectName, v) => do return { f with project := some (← v.label) }
  | (.windowTitle, .str t) => .ok { f with title := if t.isEmpty then none else some t }
  | _ => .ok f

/-- A filing with what some fields contribute up to the first flaw, and that flaw. -/
def gather (f : Filing) : List (Field × Json) → Filing × Option Fault
  | [] => (f, none)
  | field :: rest =>
    match termsOf field with
    | .error flaw => (f, some flaw)
    | .ok terms =>
      let f := { f with terms := f.terms ++ terms }
      match withName f field with
      | .error flaw => (f, some flaw)
      | .ok f => gather f rest

/-- **What a record contributes**, and its flaw if it has one. -/
def contribution (r : Record) : Filing × Option Fault := gather ⟨[], none, none, none⟩ r.fields

/-- What is noted of a contribution: of a flawed record its terms only. -/
def noted : Filing × Option Fault → Filing
  | (f, none) => f
  | (f, some _) => ⟨f.terms, none, none, none⟩

/-- The postings of a field. -/
def field (i : Index) (f : Field) : Postings := i.postings.getD f .empty

/-! ## 2. Filing -/

/-- Files an identifier under one term of a field. -/
def addTerm (id : Text) (i : Index) (entry : Field × Text) : Index :=
  { i with
    postings := i.postings.put entry.1 ((i.field entry.1).add entry.2 id)
    frequency := i.frequency.up entry.2 }

/-- Unfiles an identifier from one term of a field. -/
def dropTerm (id : Text) (i : Index) (entry : Field × Text) : Index :=
  { i with
    postings := i.postings.put entry.1 ((i.field entry.1).discard entry.2 id)
    frequency := i.frequency.down entry.2 }

/-- Counts up a name that may be absent. -/
def upName {κ : Type} [DecidableEq κ] (t : Tally κ) : Option κ → Tally κ
  | some name => t.up name
  | none => t

/-- Counts down a name that may be absent. -/
def downName {κ : Type} [DecidableEq κ] (t : Tally κ) : Option κ → Tally κ
  | some name => t.down name
  | none => t

/-- A sample with one more title: the newest titles stay within the capacity. -/
def addToSample (capacity : Int) (sample : List Text) (title : Text) : List Text :=
  if sample.contains title || decide (capacity ≤ 0) then sample
  else sample.drop (sample.length + 1 - capacity.toNat) ++ [title]

/-- The sample after one more activity carries a title, if it carries one. -/
def sampleWith (i : Index) : Option Text → List Text
  | some title => addToSample i.capacity i.sample title
  | none => i.sample

/-- The sample after one activity less carries a title: it goes with its last carrier. -/
def sampleWithout (i : Index) : Option Text → List Text
  | some title => if (i.titles.down title).has title then i.sample else i.sample.filter (· != title)
  | none => i.sample

/-- Takes out what a record contributed. -/
def unfile (i : Index) (key : RecordKind × Text) (f : Filing) : Index :=
  let i := f.terms.foldl (dropTerm key.2) { i with filings := i.filings.erase key }
  { i with
    apps := downName i.apps f.app
    projects := downName i.projects f.project
    titles := downName i.titles f.title
    sample := i.sampleWithout f.title }

/-- **Takes a record out**; an unknown one changes nothing. -/
def remove (now : Moment) (i : Index) (kind : RecordKind) (id : Text) : Index :=
  match i.filings.get? (kind, id) with
  | some f => { i.unfile (kind, id) f with updated := now }
  | none => i

/-- Enters a record that is not filed, as far as it can be. -/
def file (i : Index) (r : Record) : Index × Option Fault :=
  let c := contribution r
  let f := c.1
  let i := f.terms.foldl (addTerm r.id) { i with filings := i.filings.put (r.kind, r.id) (noted c) }
  ({ i with
    apps := upName i.apps f.app
    projects := upName i.projects f.project
    titles := upName i.titles f.title
    sample := i.sampleWith f.title }, c.2)

/-- Files a record in place of an earlier version, as far as it can be. -/
def replace (now : Moment) (i : Index) (r : Record) : Index × Option Fault :=
  (i.remove now r.kind r.id).file r

/-- **Files a record**, in place of an earlier version if there is one, and gives its flaw if it
    has one. -/
def add (now : Moment) (i : Index) (r : Record) : Index × Option Fault :=
  match i.replace now r with
  | (i, none) => ({ i with updated := now }, none)
  | flawed => flawed

/-- Files some records in their order, up to the first flawed one. -/
def addAll (now : Moment) (i : Index) : List Record → Index × Option Fault
  | [] => ({ i with updated := now }, none)
  | r :: rest =>
    match i.replace now r with
    | (i, none) => addAll now i rest
    | flawed => flawed

/-- **An index of some records**, filed in their order. -/
def build (capacity : Int) (now : Moment) (records : List Record) : Index × Option Fault :=
  addAll now (empty capacity now) records

/-! ## 3. Questions -/

/-- Whether a record is filed. -/
def contains (i : Index) (kind : RecordKind) (id : Text) : Bool := i.filings.has (kind, id)

/-- The identifiers filed under a term in some field of a kind, each once. -/
def lookup (i : Index) (kind : RecordKind) (term : Text) : List Text :=
  (kind.fields.flatMap fun f => (i.field f).lookup term).eraseDups

/-- The identifiers filed under all of some terms. -/
def lookupAll (i : Index) (kind : RecordKind) : List Text → List Text
  | [] => []
  | [term] => i.lookup kind term
  | term :: more => (i.lookup kind term).filter (i.lookupAll kind more).contains

/-- **The identifiers of the records of a kind that match a text**: those filed under all its
    terms. A text without terms matches nothing. -/
def find (i : Index) (kind : RecordKind) (t : Text) : List Text :=
  i.lookupAll kind (Term.ofText t).eraseDups

/-- The number of filed records of a kind. -/
def count (i : Index) (kind : RecordKind) : Nat :=
  i.filings.keys.countP fun key => key.1 == kind

/-- The size of the index. -/
def size (i : Index) : IndexSize :=
  ⟨i.count .activity, i.count .timeEntry, i.count .project, i.frequency.length, i.updated⟩

end Index

end Worklog
