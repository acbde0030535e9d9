import Worklog.Proofs.Calendar.Stamp
import Worklog.Proofs.Json.RoundTrip
import Worklog.Proofs.Panel
import Worklog.Proofs.Table
import Worklog.Proofs.Text.Order

/-!
# Panels as documents

A panel has a document, from which it is read again. A document that gives a panel need not be the
one that the panel has: its times may have offsets or a fraction of any length, and it may select
names in any order and more than once. What is selected is a set, so names are kept in order.

* `Json.distinct_texts`: **names are selected** in alphabetical order, none of them twice;
* `Panel.IsNamed.read_document`: a panel that selects names is read from its document;
* **`Panel.reads_again`**: so is a panel that was read, and how names were listed makes no
  difference.
-/

namespace Worklog

/-! ## 1. Selections -/

namespace Text

/-- Some texts in alphabetical order, none of them twice. -/
def inOrder (ts : List Text) : List Text := ts.eraseDups.mergeSort le

@[simp] theorem inOrder_nil : inOrder [] = [] := List.mergeSort_nil

theorem pairwise_inOrder (ts : List Text) : (inOrder ts).Pairwise fun s t => lt s t = true :=
  pairwise_lt_mergeSort (nodup_eraseDups ts)

/-- **Lists with the same texts** have the same texts in order. -/
theorem inOrder_congr {ss ts : List Text} (h : ∀ t, t ∈ ss ↔ t ∈ ts) : inOrder ss = inOrder ts := by
  refine mergeSort_congr ?_
  refine (List.perm_ext_iff_of_nodup (nodup_eraseDups ss) (nodup_eraseDups ts)).mpr fun t => ?_
  rw [List.mem_eraseDups, List.mem_eraseDups, h t]

/-- Texts that stand in order stay as they are. -/
theorem inOrder_of_pairwise {ts : List Text} (h : ts.Pairwise fun s t => lt s t = true) :
    inOrder ts = ts := by
  refine (mergeSort_congr ?_).trans
    (List.mergeSort_of_pairwise (h.imp fun hlt => (lt_iff.mp hlt).1))
  have hnodup : ts.Nodup := h.imp fun hlt => (lt_iff.mp hlt).2
  exact (List.perm_ext_iff_of_nodup (nodup_eraseDups ts) hnodup).mpr fun t => List.mem_eraseDups

end Text

namespace Json

/-- The names of a selection: texts in alphabetical order, none of them twice. -/
def AreNames (vs : List Json) : Prop :=
  ∃ ts : List Text, ts.Pairwise (fun s t => Text.lt s t = true) ∧ vs = ts.map .str

/-- Texts have themselves as labels: those that were not seen before are taken, each once. -/
theorem fresh_texts : ∀ (ts : List Text) (seen : List Label), fresh seen (ts.map .str) =
    .ok ((ts.filter fun t => !seen.contains (.text t)).eraseDups.map fun t => (.text t, .str t))
  | [], _ => rfl
  | t :: ts, seen => by
      have hlabel : (Json.str t).label = .ok (.text t) := rfl
      rw [List.map_cons, fresh, hlabel, ok_bind, List.filter_cons]
      cases hseen : seen.contains (Label.text t) with
      | true =>
          rw [if_pos rfl]
          exact fresh_texts ts seen
      | false =>
          -- what repeats the first text is passed over as seen here, and dropped as equal there
          have hfilter : (ts.filter fun u => !(Label.text t :: seen).contains (.text u)) =
              (ts.filter fun u => !seen.contains (.text u)).filter fun u => !u == t := by
            rw [List.filter_filter]
            refine List.filter_congr fun u _ => ?_
            rw [Bool.eq_iff_iff]
            simp
          rw [if_neg Bool.false_ne_true, fresh_texts ts (.text t :: seen), hfilter, ok_bind,
            Bool.not_false, if_pos rfl, List.eraseDups_cons]
          rfl

/-- **Names are selected** in alphabetical order, none of them twice. -/
theorem distinct_texts (ts : List Text) :
    distinct (ts.map .str) = .ok ((Text.inOrder ts).map .str) := by
  have hsorted : (Text.inOrder ts).map (fun t => (Label.text t, Json.str t)) =
      (ts.eraseDups.map fun t => (Label.text t, Json.str t)).mergeSort fun a b => a.1.le b.1 :=
    List.map_mergeSort fun s _ t _ => rfl
  unfold distinct
  have hall : (ts.filter fun t => !([] : List Label).contains (.text t)) = ts :=
    List.filter_eq_self.mpr fun _ _ => rfl
  rw [fresh_texts, hall, ok_bind, ← hsorted, List.map_map]
  rfl

/-- Names that stand in order stay as they are. -/
theorem distinct_names {vs : List Json} (h : AreNames vs) : distinct vs = .ok vs := by
  obtain ⟨ts, hts, rfl⟩ := h
  rw [distinct_texts, Text.inOrder_of_pairwise hts]

end Json

namespace Panel

open Json

/-- **A selection of names is read** as it was written. -/
theorem selection_names {vs : List Json} (h : AreNames vs) : selection (.arr vs) = .ok vs := by
  unfold selection
  split
  next => exact distinct_names h
  next hempty =>
    have hnil : vs = [] := by simpa [truthy] using hempty
    rw [hnil]
    rfl

/-- Names have an order among themselves. -/
theorem selectionJson_names {vs : List Json} (h : AreNames vs) :
    selectionJson vs = .ok (.arr vs) := by
  obtain ⟨ts, -, rfl⟩ := h
  unfold selectionJson areOrdered
  rw [if_pos]
  simp

theorem writable_names {depth : Nat} (hdepth : depth < maxDepth) {vs : List Json}
    (h : AreNames vs) : Writable depth (.arr vs) := by
  obtain ⟨ts, -, rfl⟩ := h
  refine .arr hdepth fun v hv => ?_
  obtain ⟨t, -, rfl⟩ := List.mem_map.mp hv
  exact .str t

/-- A moment that may be absent is read as it was written. -/
theorem asMoment?_momentJson (m : Option Moment) : (momentJson m).asMoment? = .ok m := by
  cases m with
  | none => rfl
  | some m =>
      show (Moment.read m.isoText).map some = _
      rw [m.read_isoText]
      rfl

theorem writable_momentJson {depth : Nat} (m : Option Moment) : Writable depth (momentJson m) := by
  cases m with
  | none => exact .null
  | some m => exact .str m.isoText

end Panel

/-! ## 2. Panels -/

/-- **A bound on the length as it is meant to be**: none, or a finite number. A whole number has at
    most as many digits as can be read. -/
inductive Json.IsLength : Json → Prop where
  | none : IsLength .null
  | whole {n : Int} (h : (Text.ofNat n.natAbs).length ≤ Text.maxDigits) : IsLength (.int n)
  | real {q : Quantity} (h : q.IsDouble) : IsLength (.real q)

theorem Json.IsLength.writable {depth : Nat} {v : Json} (h : v.IsLength) : Writable depth v := by
  cases h with
  | none => exact .null
  | whole h => exact .int h
  | real h => exact .real h

namespace Panel

open Json

/-- **A panel as it is meant to be**: what is selected has a name, and lengths are numbers. -/
structure IsTyped (f : Panel) : Prop where
  projects : AreNames f.projects
  apps : AreNames f.apps
  minSeconds : f.minSeconds.IsLength
  maxSeconds : f.maxSeconds.IsLength

/-- The document of a panel whose selections can be shown. -/
def document (f : Panel) : Json :=
  .obj [("start_date", momentJson f.start), ("end_date", momentJson f.finish),
    ("selected_projects", .arr f.projects), ("selected_apps", .arr f.apps),
    ("min_duration", f.minSeconds), ("max_duration", f.maxSeconds),
    ("exclude_idle_time", .bool f.excludeIdle)]

variable {f : Panel}

/-- **A panel selects names**; its bounds may be any values. -/
structure IsNamed (f : Panel) : Prop where
  projects : AreNames f.projects
  apps : AreNames f.apps

theorem IsTyped.isNamed (h : f.IsTyped) : f.IsNamed := ⟨h.projects, h.apps⟩

theorem IsNamed.toJson_eq (h : f.IsNamed) : f.toJson = .ok f.document := by
  unfold toJson
  rw [selectionJson_names h.projects, selectionJson_names h.apps]
  rfl

/-- **A panel is read** from its document. -/
theorem IsNamed.read_document (h : f.IsNamed) : Panel.read f.document = .ok f := by
  show (do
    let start ← (momentJson f.start).asMoment?
    let finish ← (momentJson f.finish).asMoment?
    let projects ← selection (.arr f.projects)
    let apps ← selection (.arr f.apps)
    return Panel.mk start finish projects apps f.minSeconds f.maxSeconds f.excludeIdle) = _
  rw [asMoment?_momentJson, asMoment?_momentJson, selection_names h.projects,
    selection_names h.apps]
  rfl

theorem IsTyped.writable (h : f.IsTyped) {depth : Nat} (hdepth : depth + 1 < maxDepth) :
    Writable depth f.document := by
  refine .obj (Nat.lt_of_succ_lt hdepth) ?_ ?_
  · show ["start_date", "end_date", "selected_projects", "selected_apps", "min_duration",
      "max_duration", "exclude_idle_time"].Nodup
    decide
  simp only [List.forall_mem_cons]
  exact ⟨writable_momentJson f.start, writable_momentJson f.finish,
    writable_names hdepth h.projects, writable_names hdepth h.apps, h.minSeconds.writable,
    h.maxSeconds.writable, .bool f.excludeIdle, List.forall_mem_nil _⟩

end Panel

/-! ## 3. Panels that were read -/

/-- **The names that a document selects**: none, or those of a list, in whatever order and however
    often they stand there. -/
inductive Json.Selects : Json → List Text → Prop where
  | none : Selects .null []
  | list (ts : List Text) : Selects (.arr (ts.map .str)) ts

namespace Panel

variable {v v' : Json} {f : Panel} {ts : List Text}

theorem selection_selects (h : v.Selects ts) :
    selection v = .ok ((Text.inOrder ts).map .str) := by
  cases h with
  | none =>
      rw [Text.inOrder_nil]
      rfl
  | list =>
      cases ts with
      | nil =>
          rw [Text.inOrder_nil]
          rfl
      | cons t ts => exact Json.distinct_texts (t :: ts)

/-- **A document of a panel as it is meant to be**: it selects names, and its bounds on the length
    have a label, as numbers and null do. -/
structure IsForm (v : Json) : Prop where
  projects : ∃ ts, (v.getD "selected_projects").Selects ts
  apps : ∃ ts, (v.getD "selected_apps").Selects ts
  minSeconds : (v.getD "min_duration").isMember = true
  maxSeconds : (v.getD "max_duration").isMember = true

/-- Two values select the same names. -/
def SelectAlike (v v' : Json) : Prop :=
  ∃ ss ts, v.Selects ss ∧ v'.Selects ts ∧ ∀ t, t ∈ ss ↔ t ∈ ts

theorem selection_congr (h : SelectAlike v v') : selection v = selection v' := by
  obtain ⟨ss, ts, hss, hts, hsame⟩ := h
  rw [selection_selects hss, selection_selects hts, Text.inOrder_congr hsame]

/-- **Two documents that differ only in the order and the repetition of what they select.** -/
structure Reselects (v v' : Json) : Prop where
  isObject : ∃ members members', v = .obj members ∧ v' = .obj members'
  start : v.getD "start_date" = v'.getD "start_date"
  finish : v.getD "end_date" = v'.getD "end_date"
  projects : SelectAlike (v.getD "selected_projects") (v'.getD "selected_projects")
  apps : SelectAlike (v.getD "selected_apps") (v'.getD "selected_apps")
  minSeconds : v.getD "min_duration" = v'.getD "min_duration"
  maxSeconds : v.getD "max_duration" = v'.getD "max_duration"
  excludeIdle : v.getD "exclude_idle_time" = v'.getD "exclude_idle_time"

/-- **The order and the repetition of what is selected make no difference.** -/
theorem Reselects.read_eq (h : Reselects v v') : Panel.read v = Panel.read v' := by
  obtain ⟨members, members', rfl, rfl⟩ := h.isObject
  unfold Panel.read
  rw [h.start, h.finish, selection_congr h.projects, selection_congr h.apps, h.minSeconds,
    h.maxSeconds, h.excludeIdle]

theorem isNamed_of_read (hv : IsForm v) (h : read v = .ok f) : f.IsNamed ∧
    f.minSeconds.isMember = true ∧ f.maxSeconds.isMember = true := by
  have hnames : ∀ ts, Json.AreNames ((Text.inOrder ts).map .str) := fun ts =>
    ⟨_, Text.pairwise_inOrder ts, rfl⟩
  obtain ⟨ps, hps⟩ := hv.projects
  obtain ⟨as, has⟩ := hv.apps
  cases v with
  | obj members =>
      obtain ⟨start, -, h⟩ := bind_eq_ok.mp h
      obtain ⟨finish, -, h⟩ := bind_eq_ok.mp h
      rw [selection_selects hps, selection_selects has] at h
      cases h
      exact ⟨⟨hnames ps, hnames as⟩, hv.minSeconds, hv.maxSeconds⟩
  | _ => cases h

/-- **A panel that was read is read again from its own document**, and it has a key, so that what
    was found for the one is found for the other. The moments are written out as they are, in local
    time and with as much of a fraction as there is; whatever a document wrote instead, and in
    whatever order and however often it lists what it selects, gives the same panel and thereby the
    same document. -/
theorem reads_again (hv : IsForm v) (h : read v = .ok f) :
    f.toJson = .ok f.document ∧ read f.document = .ok f ∧ (∃ k, f.key = .ok k) ∧
      ∀ v', Reselects v v' → read v' = .ok f := by
  obtain ⟨hnamed, hleast, hgreatest⟩ := isNamed_of_read hv h
  obtain ⟨least, hleast⟩ := Json.exists_label hleast
  obtain ⟨greatest, hgreatest⟩ := Json.exists_label hgreatest
  refine ⟨hnamed.toJson_eq, hnamed.read_document, ?_, fun v' hv' => hv'.read_eq.symm.trans h⟩
  unfold key
  rw [hleast, hgreatest]
  exact ⟨_, rfl⟩

/-- A document that selects some projects, for the case below. -/
def formWith (projects : List String) : Json :=
  .obj [("start_date", .str "2024-03-01T01:30:00.25+02:00".toList), ("end_date", .null),
    ("selected_projects", .arr (projects.map fun p => .str p.toList)), ("min_duration", .int 60)]

/-- A time with an offset that goes back over the end of a leap February, and projects out of order:
    the document of the panel has the local time and each project once. -/
theorem reads_again_leap : ∃ f, read (formWith ["b", "a", "b"]) = .ok f ∧
    f.toJson = .ok (.obj [("start_date", .str "2024-02-29T23:30:00.250000".toList),
      ("end_date", .null), ("selected_projects", .arr [.str ['a'], .str ['b']]),
      ("selected_apps", .arr []), ("min_duration", .int 60), ("max_duration", .null),
      ("exclude_idle_time", .bool false)]) ∧
    read f.document = .ok f ∧ read (formWith ["a", "b"]) = .ok f := by
  have hselects : ((formWith ["b", "a", "b"]).getD "selected_projects").Selects
      [['b'], ['a'], ['b']] := .list [['b'], ['a'], ['b']]
  have hprojects : selection ((formWith ["b", "a", "b"]).getD "selected_projects") =
      .ok [.str ['a'], .str ['b']] := by
    have hsame : ∀ t : Text, t ∈ [['b'], ['a'], ['b']] ↔ t ∈ [['a'], ['b']] := by simp
    rw [selection_selects hselects, Text.inOrder_congr hsame,
      Text.inOrder_of_pairwise (by decide)]
    rfl
  have hstart : ((formWith ["b", "a", "b"]).getD "start_date").asMoment? =
      .ok (some ⟨63844846200250000, by decide⟩) := rfl
  obtain ⟨members, hmembers⟩ : ∃ members, formWith ["b", "a", "b"] = .obj members := ⟨_, rfl⟩
  have hread : read (formWith ["b", "a", "b"]) = .ok ⟨some ⟨63844846200250000, by decide⟩, none,
      [.str ['a'], .str ['b']], [], .int 60, .null, false⟩ := by
    rw [hmembers]
    unfold read
    rw [← hmembers, hstart, hprojects]
    rfl
  have hform : IsForm (formWith ["b", "a", "b"]) := ⟨⟨_, hselects⟩, ⟨_, .none⟩, rfl, rfl⟩
  have hother : Reselects (formWith ["b", "a", "b"]) (formWith ["a", "b"]) :=
    ⟨⟨_, _, rfl, rfl⟩, rfl, rfl, ⟨_, _, hselects, .list [['a'], ['b']], by simp⟩,
      ⟨_, _, .none, .none, fun _ => Iff.rfl⟩, rfl, rfl, rfl⟩
  obtain ⟨hdocument, hagain, -, hsame⟩ := reads_again hform hread
  exact ⟨_, hread, hdocument, hagain, hsame _ hother⟩

end Panel

end Worklog
