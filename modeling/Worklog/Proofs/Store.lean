import Worklog.Proofs.Fault
import Worklog.Proofs.Index.Filing
import Worklog.Proofs.Table
import Worklog.Store

/-!
# Sound stores

Every store files its records under their own identifiers, each identifier once. A sound store
(`Store.IsSound`) holds besides only records that are complete: with texts in their fields, a known
start, and a project that is a text or null. All that is written to a store keeps it sound, and a
sound store that is available reads without a fault:

* `Store.IsSound.empty`, `Store.IsSound.put`, `Store.IsSound.take`: soundness;
* **`Store.IsSound.mem_records`**: the records of a sound store are those that it has under their
  own keys;
* `Store.byIds_ok`, `Store.meeting_ok`: what the reads of a part read.
-/

namespace Worklog

/-! ## 1. Tables of records -/

namespace Table

variable {κ α : Type} {id : α → κ} {t : Table κ α}

/-- **A table files its values under their own identifiers**, each identifier once. -/
structure Keyed (id : α → κ) (t : Table κ α) : Prop where
  nodup : t.keys.Nodup
  own : ∀ e ∈ t, e.1 = id e.2

theorem Keyed.nil : Keyed id ([] : Table κ α) :=
  ⟨List.nodup_nil, fun _ h => absurd h List.not_mem_nil⟩

theorem Keyed.nodup_map_values (h : t.Keyed id) : (t.values.map id).Nodup := by
  have hkeys : t.values.map id = t.keys := by
    rw [values, keys, List.map_map]
    exact List.map_congr_left fun e he => (h.own e he).symm
  rw [hkeys]
  exact h.nodup

variable [DecidableEq κ]

theorem mem_put {key : κ} {a : α} {e : κ × α} : ∀ {t : Table κ α}, e ∈ t.put key a →
    e = (key, a) ∨ e ∈ t
  | [], h => Or.inl (List.mem_singleton.mp h)
  | (k, b) :: t, h => by
      rw [put] at h
      split at h
      next hk =>
        subst hk
        rcases List.mem_cons.mp h with h | h
        · exact Or.inl h
        · exact Or.inr (List.mem_cons_of_mem _ h)
      next =>
        rcases List.mem_cons.mp h with h | h
        · exact Or.inr (h ▸ List.mem_cons_self)
        · exact (mem_put h).imp_right (List.mem_cons_of_mem _)

namespace Keyed

theorem put (h : t.Keyed id) (a : α) : (t.put (id a) a).Keyed id where
  nodup := nodup_keys_put h.nodup
  own e he := by
    rcases mem_put he with rfl | he
    · rfl
    · exact h.own e he

theorem erase (h : t.Keyed id) (key : κ) : (t.erase key).Keyed id where
  nodup := nodup_keys_erase h.nodup
  own e he := h.own e (List.mem_filter.mp he).1

theorem eq_of_get? (h : t.Keyed id) {key : κ} {a : α} (ha : t.get? key = some a) : key = id a :=
  h.own _ (mem_of_get? ha)

/-- A value is in the table if it is there under its identifier. -/
theorem mem_values_iff (h : t.Keyed id) {a : α} : a ∈ t.values ↔ t.get? (id a) = some a := by
  rw [get?_eq_some_iff h.nodup, values, List.mem_map]
  constructor
  · intro hx
    obtain ⟨e, he, rfl⟩ := hx
    rwa [← h.own e he]
  · intro hm
    exact ⟨_, hm, rfl⟩

/-- What is picked by identifiers are the values that have them. -/
theorem mem_pick {t : Table Text α} {id : α → Text} (h : t.Keyed id) {ids : List Text} {a : α} :
    a ∈ Store.pick t ids ↔ a ∈ t.values ∧ id a ∈ ids := by
  rw [Store.pick, List.mem_filterMap, h.mem_values_iff]
  constructor
  · intro hm
    obtain ⟨key, hkey, ha⟩ := hm
    have hown : key = id a := h.eq_of_get? ha
    subst hown
    exact ⟨ha, List.mem_eraseDups.mp hkey⟩
  · intro hm
    obtain ⟨ha, hid⟩ := hm
    exact ⟨id a, List.mem_eraseDups.mpr hid, ha⟩

end Keyed

end Table

/-! ## 2. Complete records -/

/-- The text of a value; a value that is none has the empty text. -/
def Json.textD : Json → Text
  | .str t => t
  | _ => []

namespace Record

/-- What a document may leave open, apart from the searched fields, is there. -/
def isSettled : Record → Bool
  | .activity a => a.start.isSome
  | .timeEntry e =>
    match e.projectId with
    | .null | .str _ => true
    | _ => false
  | .project _ => true

/-- **A complete record**: its fields hold what they are for. -/
structure IsComplete (r : Record) : Prop where
  texts : r.HasTexts
  settled : r.isSettled = true

instance (r : Record) : Decidable r.IsComplete :=
  decidable_of_iff (r.HasTexts ∧ r.isSettled = true) ⟨fun h => ⟨h.1, h.2⟩, fun h => ⟨h.1, h.2⟩⟩

/-- A field that has to have a text has one. -/
theorem HasTexts.eq_str {r : Record} (h : r.HasTexts) {f : Field} {v : Json}
    (hf : (f, v) ∈ r.fields) (hopt : f.isOptional = false) : v = .str v.textD := by
  have hv := h _ hf
  cases v with
  | str t => rfl
  | null => exact absurd hv (by simp [Field.admits, hopt])
  | _ => cases hv

end Record

/-! ## 3. Sound stores -/

namespace Store

/-- **A sound store**: records under their own identifiers, and complete. -/
structure IsSound (s : Store) : Prop where
  activities : s.activityTable.Keyed Activity.id
  timeEntries : s.timeEntryTable.Keyed TimeEntry.id
  projects : s.projectTable.Keyed Project.id
  complete : ∀ kind id r, s.get? kind id = some r → r.IsComplete

/-- Records of one kind with different identifiers have different keys. -/
theorem nodup_keys_map {α : Type} {l : List α} {id : α → Text} (toRecord : α → Record)
    (kind : RecordKind) (hkey : ∀ a, (toRecord a).key = (kind, id a)) (hl : (l.map id).Nodup) :
    ((l.map toRecord).map Record.key).Nodup := by
  have hcomp : Record.key ∘ toRecord = Prod.mk kind ∘ id := funext hkey
  rw [List.map_map, hcomp, ← List.map_map]
  exact List.Nodup.map_on (fun a _ b _ e => congrArg Prod.snd e) hl

theorem kind_of_mem_keys_map {α : Type} {l : List α} {toRecord : α → Record} {kind : RecordKind}
    {k : RecordKind × Text} (hk : k ∈ (l.map toRecord).map Record.key)
    (hkind : ∀ a, (toRecord a).kind = kind) : k.1 = kind := by
  rw [List.map_map] at hk
  obtain ⟨a, -, rfl⟩ := List.mem_map.mp hk
  exact hkind a

/-- **Records of the three kinds** have different keys, if their identifiers differ kind by kind. -/
theorem nodup_keys_append {as : List Activity} {es : List TimeEntry} {ps : List Project}
    (has : (as.map (·.id)).Nodup) (hes : (es.map (·.id)).Nodup) (hps : (ps.map (·.id)).Nodup) :
    ((as.map Record.activity ++ es.map Record.timeEntry ++ ps.map Record.project).map
      Record.key).Nodup := by
  rw [List.map_append, List.map_append, List.nodup_append, List.nodup_append]
  refine ⟨⟨nodup_keys_map _ .activity (fun _ => rfl) has,
    nodup_keys_map _ .timeEntry (fun _ => rfl) hes, ?_⟩,
    nodup_keys_map _ .project (fun _ => rfl) hps, ?_⟩
  · intro k hk l hl e
    subst e
    have ha : k.1 = .activity := kind_of_mem_keys_map hk fun _ => rfl
    have he : k.1 = .timeEntry := kind_of_mem_keys_map hl fun _ => rfl
    rw [ha] at he
    cases he
  · intro k hk l hl e
    subst e
    have hp : k.1 = .project := kind_of_mem_keys_map hl fun _ => rfl
    rcases List.mem_append.mp hk with hk | hk
    · have ha : k.1 = .activity := kind_of_mem_keys_map hk fun _ => rfl
      rw [hp] at ha
      cases ha
    · have he : k.1 = .timeEntry := kind_of_mem_keys_map hk fun _ => rfl
      rw [hp] at he
      cases he

/-- All records of a store, kind by kind. -/
def records (s : Store) : List Record :=
  s.activityTable.values.map .activity ++ s.timeEntryTable.values.map .timeEntry ++
    s.projectTable.values.map .project

namespace IsSound

variable {s : Store}

theorem empty : Store.empty.IsSound :=
  ⟨.nil, .nil, .nil, fun kind id r h => by cases kind <;> cases h⟩

/-- Writing a complete record keeps a store sound. -/
theorem put (h : s.IsSound) {r : Record} (hr : r.IsComplete) : (s.put r).IsSound := by
  have hcomplete : ∀ kind id r', (s.put r).get? kind id = some r' → r'.IsComplete := by
    intro kind id r' hr'
    rw [get?_put] at hr'
    split at hr'
    · rw [← Option.some.inj hr']
      exact hr
    · exact h.complete kind id r' hr'
  cases r with
  | activity a => exact ⟨h.activities.put a, h.timeEntries, h.projects, hcomplete⟩
  | timeEntry e => exact ⟨h.activities, h.timeEntries.put e, h.projects, hcomplete⟩
  | project p => exact ⟨h.activities, h.timeEntries, h.projects.put p, hcomplete⟩

/-- Taking a record out keeps a store sound. -/
theorem take (h : s.IsSound) (kind : RecordKind) (id : Text) : (s.take kind id).IsSound := by
  have hcomplete : ∀ k i r, (s.take kind id).get? k i = some r → r.IsComplete := by
    intro k i r hr
    rw [get?_take] at hr
    split at hr
    · cases hr
    · exact h.complete k i r hr
  cases kind with
  | activity => exact ⟨h.activities.erase id, h.timeEntries, h.projects, hcomplete⟩
  | timeEntry => exact ⟨h.activities, h.timeEntries.erase id, h.projects, hcomplete⟩
  | project => exact ⟨h.activities, h.timeEntries, h.projects.erase id, hcomplete⟩

/-- **The records of a store** are those that it has under their own keys. -/
theorem mem_records (h : s.IsSound) {r : Record} :
    r ∈ s.records ↔ s.get? r.kind r.id = some r := by
  simp only [records, List.mem_append, List.mem_map]
  cases r with
  | activity a =>
      have hmem := h.activities.mem_values_iff (a := a)
      simp [get?, Record.kind, Record.id, hmem]
  | timeEntry e =>
      have hmem := h.timeEntries.mem_values_iff (a := e)
      simp [get?, Record.kind, Record.id, hmem]
  | project p =>
      have hmem := h.projects.mem_values_iff (a := p)
      simp [get?, Record.kind, Record.id, hmem]

theorem key_of_get? (h : s.IsSound) {kind : RecordKind} {id : Text} {r : Record}
    (hr : s.get? kind id = some r) : r.key = (kind, id) := by
  cases kind with
  | activity =>
      obtain ⟨a, ha, rfl⟩ := Option.map_eq_some_iff.mp hr
      exact Prod.ext rfl (h.activities.eq_of_get? ha).symm
  | timeEntry =>
      obtain ⟨e, he, rfl⟩ := Option.map_eq_some_iff.mp hr
      exact Prod.ext rfl (h.timeEntries.eq_of_get? he).symm
  | project =>
      obtain ⟨p, hp, rfl⟩ := Option.map_eq_some_iff.mp hr
      exact Prod.ext rfl (h.projects.eq_of_get? hp).symm

theorem complete_of_mem (h : s.IsSound) {r : Record} (hr : r ∈ s.records) : r.IsComplete :=
  h.complete _ _ r (h.mem_records.mp hr)

theorem complete_activity (h : s.IsSound) {a : Activity} (ha : a ∈ s.activityTable.values) :
    (Record.activity a).IsComplete :=
  h.complete_of_mem (List.mem_append_left _ (List.mem_append_left _ (List.mem_map_of_mem ha)))

theorem complete_timeEntry (h : s.IsSound) {e : TimeEntry} (he : e ∈ s.timeEntryTable.values) :
    (Record.timeEntry e).IsComplete :=
  h.complete_of_mem (List.mem_append_left _ (List.mem_append_right _ (List.mem_map_of_mem he)))

theorem complete_project (h : s.IsSound) {p : Project} (hp : p ∈ s.projectTable.values) :
    (Record.project p).IsComplete :=
  h.complete_of_mem (List.mem_append_right _ (List.mem_map_of_mem hp))

/-- **No two records of a store have the same key.** -/
theorem nodup_keys (h : s.IsSound) : (s.records.map Record.key).Nodup :=
  nodup_keys_append h.activities.nodup_map_values h.timeEntries.nodup_map_values
    h.projects.nodup_map_values

end IsSound

/-! ## 4. Reads -/

/-- A way to put items in order: it keeps them all, and the good ones come to no fault. -/
def Orders {α : Type} (sort : List α → Except Fault (List α)) (good : α → Prop) : Prop :=
  ∀ l, (∀ a ∈ l, good a) → ∃ sorted, sort l = .ok sorted ∧ sorted.Perm l

/-- Starts have an order if all of them are known or none is. -/
theorem checkStarts_eq_ok {starts : List (Option Moment)} : checkStarts starts = .ok () ↔
    ∃ known, ∀ start ∈ starts, start.isSome = known := by
  have hrev : (∃ known, ∀ start ∈ starts, start.isSome = known) ↔
      ∃ known, ∀ start ∈ starts.reverse, start.isSome = known := by
    simp only [List.mem_reverse]
  rw [hrev]
  unfold checkStarts
  cases starts.reverse with
  | nil => exact iff_of_true rfl ⟨true, fun _ h => absurd h List.not_mem_nil⟩
  | cons last before =>
      dsimp only
      cases hfind : before.find? fun start => start.isSome != last.isSome with
      | none =>
          refine iff_of_true rfl ⟨last.isSome, fun start hs => ?_⟩
          rcases List.mem_cons.mp hs with rfl | hs
          · rfl
          · simpa using List.find?_eq_none.mp hfind start hs
      | some start =>
          refine iff_of_false nofun fun ⟨known, h⟩ => ?_
          have hstart := List.find?_some hfind
          rw [h start (List.mem_cons_of_mem _ (List.mem_of_find?_eq_some hfind)),
            h last List.mem_cons_self, bne_self_eq_false] at hstart
          cases hstart

/-- Activities that have a start have an order. -/
theorem orders_activities :
    Orders sortActivities fun a => (Record.activity a).IsComplete := by
  intro as has
  have hstarts : checkStarts (as.map (·.start)) = .ok () :=
    checkStarts_eq_ok.mpr ⟨true, fun start hs => by
      obtain ⟨a, ha, rfl⟩ := List.mem_map.mp hs
      exact (has a ha).settled⟩
  unfold sortActivities
  rw [hstarts]
  exact ⟨_, rfl, List.mergeSort_perm _ _⟩

theorem orders_timeEntries :
    Orders (fun es => .ok (sortTimeEntries es)) fun e => (Record.timeEntry e).IsComplete :=
  fun _ _ => ⟨_, rfl, List.mergeSort_perm _ _⟩

theorem name_eq_str {p : Project} (h : (Record.project p).IsComplete) :
    p.name = .str p.name.textD :=
  h.texts.eq_str (f := .projectName) List.mem_cons_self rfl

/-- Projects that have a name are sorted by it. -/
theorem sortProjects_ok {ps : List Project} (h : ∀ r ∈ ps, r.name = .str r.name.textD) :
    sortProjects ps = .ok (ps.mergeSort fun a b =>
      byName (Text.lower a.name.textD, a.id) (Text.lower b.name.textD, b.id)) := by
  have hnamed : (ps.mapM fun p => do return ((← p.name.lowered, p.id), p)) =
      .ok (ps.map fun p => ((Text.lower p.name.textD, p.id), p)) := mapM_ok fun p hp => by
    rw [h p hp]
    rfl
  have hkey : ∀ e ∈ ps.map fun p => ((Text.lower p.name.textD, p.id), p),
      e.1 = (Text.lower e.2.name.textD, e.2.id) := fun e he => by
    obtain ⟨p, -, rfl⟩ := List.mem_map.mp he
    rfl
  unfold sortProjects
  rw [hnamed]
  refine congrArg Except.ok ((List.map_mergeSort (s := fun a b : Project =>
    byName (Text.lower a.name.textD, a.id) (Text.lower b.name.textD, b.id))
    fun a ha b hb => ?_).trans ?_)
  · rw [hkey a ha, hkey b hb]
  · rw [List.map_map]
    exact congrArg (List.mergeSort · _) (List.map_id' ps)

/-- Projects that have a name have an order. -/
theorem orders_projects : Orders sortProjects fun p => (Record.project p).IsComplete :=
  fun _ hps => ⟨_, sortProjects_ok fun r hr => name_eq_str (hps r hr), List.mergeSort_perm _ _⟩

section Reads

variable {α : Type} {table : Table Text α} {id : α → Text} {good : α → Prop}
  {sort : List α → Except Fault (List α)}

/-- **A read by identifiers** finds the values that have one of them. -/
theorem byIds_ok (h : table.Keyed id) (hsort : Orders sort good)
    (hgood : ∀ a ∈ table.values, good a) (ids : List Text) :
    ∃ l, sort (pick table ids) = .ok l ∧ ∀ a, a ∈ l ↔ a ∈ table.values ∧ id a ∈ ids := by
  obtain ⟨l, hl, hperm⟩ := hsort (pick table ids) fun a ha => hgood a (h.mem_pick.mp ha).1
  refine ⟨l, hl, fun a => ?_⟩
  rw [hperm.mem_iff, h.mem_pick]

/-- **A read by criteria** finds the values that meet them. -/
theorem meeting_ok (hsort : Orders sort good) (hgood : ∀ a ∈ table.values, good a)
    {check : α → Except Fault Bool} {meets : α → Bool}
    (hcheck : ∀ a ∈ table.values, check a = .ok (meets a)) :
    ∃ l, (table.values.filterM check >>= sort) = .ok l ∧
      ∀ a, a ∈ l ↔ a ∈ table.values ∧ meets a = true := by
  obtain ⟨l, hl, hperm⟩ := hsort (table.values.filter meets) fun a ha =>
    hgood a (List.mem_filter.mp ha).1
  refine ⟨l, ?_, fun a => ?_⟩
  · rw [filterM_ok hcheck]
    exact hl
  · rw [hperm.mem_iff, List.mem_filter]

end Reads

theorem reading_ok {α : Type} {s : Store} (h : s.available = true) (x : Except Fault α) :
    s.reading x = x := by
  unfold reading
  rw [if_pos h]

end Store

end Worklog
