import Worklog.Index.Suggest
import Worklog.Proofs.Index.Find
import Worklog.Proofs.Text.Order

/-!
# The answers of an index

What can be seen of an index are its answers: whether a record is filed, how many are, which terms
there are and how often each was emitted, what a search finds, and which names it suggests.
`SameAnswers i j` says that two indexes cannot be told apart by them. Lists that stand for sets are
compared up to their order, suggestions as they are.

**`Index.Holds.sameAnswers`**: indexes that hold the same records, in whatever order they came,
give the same answers. Left out are the time of the last update, the bounded sample of window
titles, and the order of terms that are equally common.
-/

namespace Worklog

namespace Index

/-- **Two indexes give the same answers.** -/
structure SameAnswers (i j : Index) : Prop where
  contains : ∀ kind id, i.contains kind id = j.contains kind id
  count : ∀ kind, i.count kind = j.count kind
  terms : i.size.terms = j.size.terms
  frequency : ∀ term, i.frequency.get? term = j.frequency.get? term
  /-- The identifiers under each term of each field. -/
  postings : ∀ f term, ((i.field f).ids.getD term []).Perm ((j.field f).ids.getD term [])
  /-- The terms of each field under which something is filed. -/
  live : ∀ f term, (i.field f).ids.has term = (j.field f).ids.has term
  find : ∀ kind q, (i.find kind q).Perm (j.find kind q)
  appNames : ∀ t, ∃ names, i.appNames t = .ok names ∧ j.appNames t = .ok names
  projectNames : ∀ t, ∃ names, i.projectNames t = .ok names ∧ j.projectNames t = .ok names

/-! ## 1. Names -/

/-- The text of a label that is one. -/
def nameText? : Label → Option Text
  | .text t => some t
  | _ => none

/-- Labels that are texts are read as their texts. -/
theorem nameTexts_eq : ∀ {labels : List Label}, (∀ l ∈ labels, ∃ t, l = .text t) →
    nameTexts labels = .ok (labels.filterMap nameText?)
  | [], _ => rfl
  | l :: labels, h => by
      obtain ⟨t, rfl⟩ := h l List.mem_cons_self
      have ih : nameTexts labels = .ok (labels.filterMap nameText?) :=
        nameTexts_eq fun m hm => h m (List.mem_cons_of_mem _ hm)
      unfold nameTexts at ih ⊢
      rw [List.mapM_cons, ih]
      rfl

theorem namesWith_congr (t : Text) {names more : List Text} (h : names.Perm more) :
    namesWith t names = namesWith t more :=
  Text.mergeSort_congr (h.filter _)

/-- Tallies of the same names, all of them texts, suggest the same. -/
theorem suggest_congr {names more : List Label} {s u : Tally Label} (h : s.Counts names)
    (h' : u.Counts more) (hp : names.Perm more) (hn : ∀ l ∈ names, ∃ t, l = .text t) (t : Text) :
    ∃ found, (namesWith t <$> nameTexts (Table.keys s)) = .ok found ∧
      (namesWith t <$> nameTexts (Table.keys u)) = .ok found := by
  have hs : ∀ l ∈ Table.keys s, ∃ t, l = .text t := fun l hl => hn l (h.mem_keys_iff.mp hl)
  have hu : ∀ l ∈ Table.keys u, ∃ t, l = .text t := fun l hl =>
    hn l (hp.mem_iff.mpr (h'.mem_keys_iff.mp hl))
  refine ⟨namesWith t ((Table.keys s).filterMap nameText?), ?_, ?_⟩
  · rw [nameTexts_eq hs]
    rfl
  · have hk : (Table.keys s).Perm (Table.keys u) := (h.perm h' hp).map _
    rw [nameTexts_eq hu, namesWith_congr t (hk.filterMap nameText?)]
    rfl

/-! ## 2. Rosters decide the answers -/

namespace Holds

variable {i j : Index} {live more : List Record}

theorem keys_filings (h : i.Holds live) : Table.keys i.filings = live.map Record.key := by
  rw [h.filings, Table.keys, List.map_map]
  rfl

theorem contains_iff (h : i.Holds live) {kind : RecordKind} {id : Text} :
    i.contains kind id = true ↔ ∃ r ∈ live, r.key = (kind, id) := by
  rw [Index.contains, Table.has_iff_mem_keys, h.keys_filings, List.mem_map]

theorem find_perm (h : i.Holds live) (h' : j.Holds more) (hp : live.Perm more)
    (kind : RecordKind) (q : Text) : (i.find kind q).Perm (j.find kind q) := by
  refine (List.perm_ext_iff_of_nodup (i.nodup_find kind q) (j.nodup_find kind q)).mpr fun id => ?_
  simp only [h.mem_find, h'.mem_find, hp.mem_iff]

/-- A name that some record of a roster carries is a text. -/
theorem isText_of_mem {name : Record → Option Label} (hn : ∀ r ∈ live, IsTextName (name r))
    {l : Label} (hl : l ∈ live.filterMap name) : ∃ t, l = .text t := by
  obtain ⟨r, hr, e⟩ := List.mem_filterMap.mp hl
  exact hn r hr l e

/-- **Indexes that hold the same records give the same answers.** -/
theorem sameAnswers (h : i.Holds live) (h' : j.Holds more) (hp : live.Perm more) :
    SameAnswers i j where
  contains kind id := by
    rw [Bool.eq_iff_iff, h.contains_iff, h'.contains_iff]
    simp only [hp.mem_iff]
  count kind := by
    unfold Index.count
    rw [h.keys_filings, h'.keys_filings]
    exact (hp.map _).countP_eq _
  terms := (h.frequency.perm h'.frequency (hp.flatMap_right _)).length_eq
  frequency := h.frequency.get?_congr h'.frequency (hp.flatMap_right _)
  postings f term := by
    refine (List.perm_ext_iff_of_nodup ((h.postings f).ids.nodup_getD term)
      ((h'.postings f).ids.nodup_getD term)).mpr fun id => ?_
    rw [(h.postings f).ids.mem_iff, (h'.postings f).ids.mem_iff]
    simp only [hp.mem_iff]
  live f term := by
    rw [Bool.eq_iff_iff, (h.postings f).ids.has_iff, (h'.postings f).ids.has_iff]
    simp only [hp.mem_iff]
  find := h.find_perm h' hp
  appNames := suggest_congr h.apps h'.apps (hp.filterMap _) fun _ =>
    isText_of_mem fun r hr => Record.filing_app (h.texts r hr)
  projectNames := suggest_congr h.projects h'.projects (hp.filterMap _) fun _ =>
    isText_of_mem fun r hr => Record.filing_project (h.texts r hr)

end Holds

end Index

end Worklog
