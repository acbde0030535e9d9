import Mathlib.Data.List.Induction
import Worklog.Proofs.Criteria.Fault
import Worklog.Proofs.Search.Sameness

/-!
# What the reads of a store agree on

A store is loaded from a snapshot and then written to. Each of its reads sorts what it selects, by
identifiers or by criteria, and no two selections are sorted together. Still all of them are parts
of one list, the full read, because identifiers decide where the order of a sort does not:

* `Store.Write`, `Store.after`, `Store.Stands`: writes, and the records that stand after them;
* `Store.Holds.after`: a store holds the records that stand after its writes;
* `Store.GoesByIds`, `Store.GoesByIds.fullRead`: **a selection is sorted** as it stands in the
  sorted whole;
* `Store.Agrees`, `Store.Serves.agrees`: the reads of a kind are parts of its full read;
* **`Store.reads_agree`**: so they are after any load and any writes.
-/

namespace Worklog

namespace Store

/-! ## 1. Writes -/

/-- A write to a store. -/
inductive Write where
  | upsert (r : Record)
  | delete (kind : RecordKind) (id : Text)

namespace Write

/-- The key that a write is about. -/
def key : Write → RecordKind × Text
  | upsert r => r.key
  | delete kind id => (kind, id)

/-- What a write leaves of a store. -/
def apply (s : Store) : Write → Store
  | upsert r => (s.upsert r).1
  | delete kind id => (s.delete kind id).1

end Write

/-- A store after some writes. -/
def after (s : Store) (writes : List Write) : Store := writes.foldl Write.apply s

/-- **The records that stand after some writes**: those that were written, and neither written anew
    nor deleted since. -/
def Stands (writes : List Write) (r : Record) : Prop :=
  ∃ earlier later, writes = earlier ++ .upsert r :: later ∧ ∀ w ∈ later, w.key ≠ r.key

section Stands

variable {writes : List Write} {w : Write} {r : Record}

theorem not_stands_nil : ¬Stands [] r := fun ⟨earlier, later, h, _⟩ => by
  cases earlier with
  | nil => cases h
  | cons w earlier => cases h

/-- What stands was written. -/
theorem Stands.mem (h : Stands writes r) : .upsert r ∈ writes := by
  obtain ⟨earlier, later, rfl, -⟩ := h
  exact List.mem_append_right _ List.mem_cons_self

/-- **After one write more** a record stands if this was its write, or if it stood and the write is
    about another key. -/
theorem stands_concat : Stands (writes ++ [w]) r ↔
    w = .upsert r ∨ (Stands writes r ∧ w.key ≠ r.key) := by
  constructor
  · rintro ⟨earlier, later, hwrites, hlater⟩
    rcases List.eq_nil_or_concat' later with rfl | ⟨later, last, rfl⟩
    · exact Or.inl (List.singleton_inj.mp (List.append_inj' hwrites rfl).2)
    · rw [← List.cons_append, ← List.append_assoc] at hwrites
      obtain ⟨hinit, hlast⟩ := List.append_inj' hwrites rfl
      obtain rfl : w = last := List.singleton_inj.mp hlast
      exact Or.inr ⟨⟨earlier, later, hinit, fun o ho => hlater o (List.mem_append_left _ ho)⟩,
        hlater w (List.mem_append_right _ (List.mem_singleton_self w))⟩
  · rintro (rfl | ⟨⟨earlier, later, rfl, hlater⟩, hw⟩)
    · exact ⟨writes, [], rfl, fun o ho => absurd ho List.not_mem_nil⟩
    · refine ⟨earlier, later ++ [w], by rw [List.append_assoc, List.cons_append], fun o ho => ?_⟩
      rcases List.mem_append.mp ho with ho | ho
      · exact hlater o ho
      · exact List.mem_singleton.mp ho ▸ hw

end Stands

/-! ## 2. What a store holds -/

/-- **A store holds some records**: it files records under their own identifiers, each identifier
    once, and these are its records. -/
structure Holds (s : Store) (held : Record → Prop) : Prop where
  activities : s.activityTable.Keyed Activity.id
  timeEntries : s.timeEntryTable.Keyed TimeEntry.id
  projects : s.projectTable.Keyed Project.id
  get?_iff : ∀ r, s.get? r.kind r.id = some r ↔ held r
  available : s.available = true

namespace Holds

variable {s : Store} {writes : List Write} {held : Record → Prop}

theorem congr {held' : Record → Prop} (h : s.Holds held) (hheld : ∀ r, held r ↔ held' r) :
    s.Holds held' :=
  { h with get?_iff := fun r => (h.get?_iff r).trans (hheld r) }

theorem empty : Store.empty.Holds (Stands []) where
  activities := .nil
  timeEntries := .nil
  projects := .nil
  get?_iff r := by
    refine iff_of_false (fun h => ?_) not_stands_nil
    cases r <;> cases h
  available := rfl

theorem put (h : s.Holds held) (r : Record) :
    (s.put r).Holds fun other => r = other ∨ (held other ∧ r.key ≠ other.key) := by
  have hget : ∀ other, (s.put r).get? other.kind other.id = some other ↔
      r = other ∨ (held other ∧ r.key ≠ other.key) := fun other => by
    rw [get?_put, ← h.get?_iff other]
    by_cases hkey : r.kind = other.kind ∧ r.id = other.id
    · have hsame : r.key = other.key := Prod.ext hkey.1 hkey.2
      rw [if_pos hkey, Option.some.injEq]
      exact ⟨Or.inl, fun hd => hd.elim id fun hd => absurd hsame hd.2⟩
    · have hne : r.key ≠ other.key := fun e => hkey ⟨congrArg Prod.fst e, congrArg Prod.snd e⟩
      rw [if_neg hkey, and_iff_left hne]
      refine ⟨Or.inr, fun hd => hd.elim (fun e => absurd (congrArg Record.key e) hne) id⟩
  cases r with
  | activity a => exact ⟨h.activities.put a, h.timeEntries, h.projects, hget, h.available⟩
  | timeEntry e => exact ⟨h.activities, h.timeEntries.put e, h.projects, hget, h.available⟩
  | project p => exact ⟨h.activities, h.timeEntries, h.projects.put p, hget, h.available⟩

theorem take (h : s.Holds held) (kind : RecordKind) (id : Text) :
    (s.take kind id).Holds fun other => held other ∧ (kind, id) ≠ other.key := by
  have hget : ∀ other, (s.take kind id).get? other.kind other.id = some other ↔
      held other ∧ (kind, id) ≠ other.key := fun other => by
    rw [get?_take, ← h.get?_iff other]
    by_cases hkey : kind = other.kind ∧ id = other.id
    · have hsame : (kind, id) = other.key := Prod.ext hkey.1 hkey.2
      rw [if_pos hkey]
      exact ⟨nofun, fun hd => absurd hsame hd.2⟩
    · have hne : (kind, id) ≠ other.key := fun e =>
        hkey ⟨congrArg Prod.fst e, congrArg Prod.snd e⟩
      rw [if_neg hkey, and_iff_left hne]
  cases kind with
  | activity => exact ⟨h.activities.erase id, h.timeEntries, h.projects, hget, h.available⟩
  | timeEntry => exact ⟨h.activities, h.timeEntries.erase id, h.projects, hget, h.available⟩
  | project => exact ⟨h.activities, h.timeEntries, h.projects.erase id, hget, h.available⟩

/-- A record that is not there is no record that stands under the key. -/
theorem key_ne_of_not_holds (h : s.Holds held) {kind : RecordKind} {id : Text}
    (hno : s.holds kind id = false) {r : Record} (hr : held r) : (kind, id) ≠ r.key := by
  intro hkey
  obtain ⟨rfl, rfl⟩ := Prod.ext_iff.mp hkey
  unfold Store.holds at hno
  have hget := (h.get?_iff r).mpr hr
  unfold Record.key at hno
  rw [hget] at hno
  cases hno

/-- One write more. -/
theorem apply (h : s.Holds (Stands writes)) (w : Write) :
    (w.apply s).Holds (Stands (writes ++ [w])) := by
  cases w with
  | upsert r =>
      refine (h.put r).congr fun other => ?_
      rw [stands_concat, Write.upsert.injEq]
      rfl
  | delete kind id =>
      show (s.delete kind id).1.Holds _
      unfold Store.delete
      cases hthere : s.holds kind id with
      | true =>
          refine (h.take kind id).congr fun other => ?_
          rw [stands_concat]
          exact ⟨Or.inr, fun hd => hd.elim nofun fun h => h⟩
      | false =>
          refine h.congr fun other => ?_
          rw [stands_concat]
          refine ⟨fun hr => Or.inr ⟨hr, h.key_ne_of_not_holds hthere hr⟩, fun hd => ?_⟩
          exact hd.elim nofun And.left

/-- **A store holds the records that stand after its writes.** -/
theorem after (writes : List Write) : (Store.empty.after writes).Holds (Stands writes) := by
  induction writes using List.reverseRecOn with
  | nil => exact .empty
  | append_singleton writes w ih =>
      have hlast : Store.empty.after (writes ++ [w]) = w.apply (Store.empty.after writes) :=
        List.foldl_append
      rw [hlast]
      exact ih.apply w

end Holds

/-! ## 3. One table -/

/-- **A sort goes by identifiers at last**: what it can sort has an order, and only items with the
    same identifier can stand in it either way. -/
def GoesByIds {α : Type} (sort : List α → Except Fault (List α)) (id : α → Text) : Prop :=
  ∀ l sorted, sort l = .ok sorted → ∃ good precedes, Arranges sort good precedes ∧
    (∀ a ∈ l, good a) ∧ ∀ a b, precedes a b → precedes b a → id a = id b

theorem activities_goByIds : GoesByIds sortActivities Activity.id := by
  intro l sorted h
  obtain ⟨⟨⟩, hstarts, -⟩ := bind_eq_ok.mp h
  obtain ⟨known, hknown⟩ := checkStarts_eq_ok.mp hstarts
  refine ⟨fun a => a.start.isSome = known, fun a b =>
    newestFirst (a.start.getD default, a.id) (b.start.getD default, b.id) = true,
    fun m hm => ?_, fun a ha => hknown _ (List.mem_map_of_mem ha),
    fun _ _ => newestFirst_antisymm⟩
  have hstarts' : checkStarts (m.map (·.start)) = .ok () :=
    checkStarts_eq_ok.mpr ⟨known, List.forall_mem_map.mpr hm⟩
  have hm' : sortActivities m = .ok (m.mergeSort fun a b =>
      newestFirst (a.start.getD default, a.id) (b.start.getD default, b.id)) := by
    unfold sortActivities
    rw [hstarts']
    rfl
  exact ⟨_, hm', newestFirst_activities hm'⟩

theorem timeEntries_goByIds : GoesByIds (fun es => .ok (sortTimeEntries es)) TimeEntry.id :=
  fun _ _ _ => ⟨fun _ => True, TimeEntry.Precedes,
    fun m _ => ⟨_, rfl, List.mergeSort_perm _ _, pairwise_timeEntries m⟩, fun _ _ => trivial,
    fun _ _ => TimeEntry.Precedes.id_eq⟩

/-- What has a lower-cased text has a text. -/
theorem eq_str_of_lowered {v : Json} {t : Text} (h : v.lowered = .ok t) : v = .str v.textD := by
  cases v with
  | str t => rfl
  | _ => cases h

theorem projects_goByIds : GoesByIds sortProjects Project.id := by
  intro l sorted h
  obtain ⟨named, hnamed, -⟩ := bind_eq_ok.mp h
  refine ⟨fun r => r.name = .str r.name.textD, Project.Precedes, fun m hm => ?_, fun r hr => ?_,
    fun _ _ => Project.Precedes.id_eq⟩
  · exact ⟨_, sortProjects_ok hm, List.mergeSort_perm _ _,
      pairwise_projects (sortProjects_ok hm) hm⟩
  · obtain ⟨e, -, he⟩ := exists_of_mapM hnamed r hr
    obtain ⟨t, ht, -⟩ := bind_eq_ok.mp he
    exact eq_str_of_lowered ht

section Table

variable {α : Type} {table : Table Text α} {id : α → Text} {good : α → Prop}
  {sort : List α → Except Fault (List α)}

/-- **The full read of a table**: the values in order, each of them once, and every selection of
    them as it stands there. -/
structure FullRead (table : Table Text α) (sort : List α → Except Fault (List α))
    (l : List α) : Prop where
  sorted : sort table.values = .ok l
  perm : l.Perm table.values
  filter : ∀ (keep : α → Bool) (m : List α), m.Perm (table.values.filter keep) →
    sort m = .ok (l.filter keep)

/-- **A selection is sorted** as it stands in the sorted whole. -/
theorem GoesByIds.fullRead (hsort : GoesByIds sort id) (h : table.Keyed id) {l : List α}
    (hl : sort table.values = .ok l) : FullRead table sort l := by
  obtain ⟨good, precedes, harranges, hgood, hanti⟩ := hsort _ l hl
  obtain ⟨whole, hwhole, hperm, hpairwise⟩ := harranges _ hgood
  obtain rfl : whole = l := Except.ok.inj (hwhole.symm.trans hl)
  refine ⟨hl, hperm, fun keep m hm => ?_⟩
  have hmem : ∀ a ∈ m, a ∈ table.values := fun a ha =>
    List.mem_of_mem_filter (hm.mem_iff.mp ha)
  obtain ⟨part, hpart, hperm', hpairwise'⟩ := harranges m fun a ha => hgood a (hmem a ha)
  have hsame : part.Perm (whole.filter keep) := hperm'.trans (hm.trans (hperm.filter keep).symm)
  rw [hpart, hsame.eq_of_pairwise (fun a b ha hb hab hba =>
    List.inj_on_of_nodup_map h.nodup_map_values (hmem a (hperm'.mem_iff.mp ha))
      (hperm.mem_iff.mp (List.mem_of_mem_filter hb)) (hanti a b hab hba))
    hpairwise' (hpairwise.sublist List.filter_sublist)]

namespace FullRead

variable {l : List α}

theorem mem_iff (hl : FullRead table sort l) (h : table.Keyed id) {a : α} :
    a ∈ l ↔ table.get? (id a) = some a := by
  rw [hl.perm.mem_iff, h.mem_values_iff]

theorem nodup (hl : FullRead table sort l) (h : table.Keyed id) : (l.map id).Nodup :=
  (hl.perm.map id).nodup_iff.mpr h.nodup_map_values

/-- **A read by identifiers** is a part of the full read. -/
theorem byIds_eq (hl : FullRead table sort l) (h : table.Keyed id) (ids : List Text) :
    sort (pick table ids) = .ok (l.filter fun a => ids.contains (id a)) := by
  refine hl.filter _ _ ((List.perm_ext_iff_of_nodup (nodup_pick h ids).of_map
    (h.nodup_map_values.of_map.filter _)).mpr fun a => ?_)
  rw [h.mem_pick, List.mem_filter, List.contains_iff_mem]

/-- **A read by criteria** is a part of the full read. -/
theorem meeting_eq_ok (hl : FullRead table sort l) {check : α → Except Fault Bool} {m : List α} :
    (table.values.filterM check >>= sort) = .ok m ↔ l.filterM check = .ok m := by
  by_cases hall : ∀ a ∈ table.values, check a = .ok ((check a).toOption.getD false)
  · rw [filterM_ok hall, filterM_ok fun a ha => hall a (hl.perm.mem_iff.mp ha)]
    exact Eq.congr_left (hl.filter _ _ (List.Perm.refl _))
  · -- both come to a fault, perhaps not to the same
    refine iff_of_false (fun h => hall fun a ha => ?_) fun h => hall fun a ha => ?_
    · obtain ⟨kept, hkept, -⟩ := bind_eq_ok.mp h
      obtain ⟨b, hb⟩ := exists_of_filterM hkept a ha
      rw [hb]
      rfl
    · obtain ⟨b, hb⟩ := exists_of_filterM h a (hl.perm.mem_iff.mpr ha)
      rw [hb]
      rfl

/-- **A read by criteria** comes to the fault to which checking the full read comes, if the checks
    fail alike. -/
theorem meeting_eq (hl : FullRead table sort l) {check : α → Except Fault Bool}
    (hcheck : FailsAlike good check) (hgood : ∀ a ∈ table.values, good a) :
    (table.values.filterM check >>= sort) = l.filterM check := by
  obtain ⟨f, hf⟩ := hcheck.exists_fault
  have hone : ∀ a ∈ table.values, (∃ b, check a = .ok b) ∨ check a = .error f := fun a ha =>
    hf a (hgood a ha)
  have hone' : ∀ a ∈ l, (∃ b, check a = .ok b) ∨ check a = .error f := fun a ha =>
    hone a (hl.perm.mem_iff.mp ha)
  cases hm : l.filterM check with
  | ok m => exact hl.meeting_eq_ok.mpr hm
  | error e =>
      obtain ⟨a, ha, hfault⟩ : ∃ a ∈ l, check a = .error f := by
        by_contra hno
        have hok : ∀ a ∈ l, check a = .ok ((check a).toOption.getD false) := fun a ha => by
          obtain ⟨b, hb⟩ := (hone' a ha).resolve_right fun he => hno ⟨a, ha, he⟩
          rw [hb]
          rfl
        rw [filterM_ok hok] at hm
        cases hm
      rw [← hm, filterM_error hone (hl.perm.mem_iff.mp ha) hfault, filterM_error hone' ha hfault]
      rfl

/-- **A look-up** finds what the full read lists under the identifier. -/
theorem get?_eq (hl : FullRead table sort l) (h : table.Keyed id) (key : Text) :
    table.get? key = l.find? fun a => id a == key := by
  cases hfind : l.find? fun a => id a == key with
  | some a =>
      obtain rfl : id a = key := by simpa using List.find?_some hfind
      exact (hl.mem_iff h).mp (List.mem_of_find?_eq_some hfind)
  | none =>
      cases hget : table.get? key with
      | none => rfl
      | some a =>
          obtain rfl := h.eq_of_get? hget
          have hno := List.find?_eq_none.mp hfind a ((hl.mem_iff h).mpr hget)
          exact absurd (beq_self_eq_true (id a)) hno

end FullRead

end Table

/-! ## 4. All reads -/

/-- The records of a kind with some identifiers. -/
def byIds (s : Store) (ids : List Text) : RecordKind → Except Fault (List Record)
  | .activity => (s.activitiesByIds ids).map (·.map .activity)
  | .timeEntry => (s.timeEntriesByIds ids).map (·.map .timeEntry)
  | .project => (s.projectsByIds ids).map (·.map .project)

/-- Criteria for the records of a kind. -/
inductive Criteria where
  | activity (c : ActivityCriteria)
  | timeEntry (c : TimeEntryCriteria)
  | project (c : ProjectCriteria)

namespace Criteria

/-- The kind that criteria are for. -/
def kind : Criteria → RecordKind
  | activity _ => .activity
  | timeEntry _ => .timeEntry
  | project _ => .project

/-- Whether a record meets criteria; a record of another kind does not. -/
def admits (p : Precision) : Criteria → Record → Except Fault Bool
  | activity c, .activity a => c.admits p a
  | timeEntry c, .timeEntry e => c.admits p e
  | project c, .project x => c.admits x
  | _, _ => .ok false

end Criteria

/-- The records that meet criteria. -/
def meeting (p : Precision) (s : Store) : Criteria → Except Fault (List Record)
  | .activity c => (s.activitiesMeeting p c).map (·.map .activity)
  | .timeEntry c => (s.timeEntriesMeeting p c).map (·.map .timeEntry)
  | .project c => (s.projectsMeeting c).map (·.map .project)

/-- **The reads of a kind agree** with the full read, a list of the held records of the kind, each
    of them once. -/
structure Agrees (p : Precision) (s : Store) (held : Record → Prop) (kind : RecordKind)
    (l : List Record) : Prop where
  nodup : (l.map Record.id).Nodup
  mem_iff : ∀ r, r ∈ l ↔ r.kind = kind ∧ held r
  byIds : ∀ ids, s.byIds ids kind = .ok (l.filter fun r => ids.contains r.id)
  meeting : ∀ c : Criteria, c.kind = kind → ∀ m,
    s.meeting p c = .ok m ↔ l.filterM (c.admits p) = .ok m
  fetch : ∀ id, s.fetch kind id = .ok (l.find? fun r => r.id == id)

/-- **A kind is served by a table** whose values are seen as records. -/
structure Serves {α : Type} (p : Precision) (s : Store) (kind : RecordKind) (table : Table Text α)
    (id : α → Text) (sort : List α → Except Fault (List α)) (toRecord : α → Record) : Prop where
  keyed : table.Keyed id
  goesByIds : GoesByIds sort id
  injective : Function.Injective toRecord
  kind_iff : ∀ r, r.kind = kind ↔ ∃ a, toRecord a = r
  id_eq : ∀ a, (toRecord a).id = id a
  orders : Orders sort fun a => (toRecord a).IsComplete
  get?_eq : ∀ key, s.get? kind key = (table.get? key).map toRecord
  all_eq : s.all kind = (s.reading (sort table.values)).map (·.map toRecord)
  byIds_eq : ∀ ids, s.byIds ids kind =
    (s.reading (sort (pick table ids))).map (·.map toRecord)
  meeting_eq : ∀ c : Criteria, c.kind = kind → ∃ check,
    FailsAlike (fun a => (toRecord a).IsComplete) check ∧
    s.meeting p c = (s.reading (table.values.filterM check >>= sort)).map (·.map toRecord) ∧
    ∀ a, c.admits p (toRecord a) = check a

section Serves

variable {s : Store} {held : Record → Prop} {p : Precision}

theorem Holds.serves_activities (h : s.Holds held) (p : Precision) :
    Serves p s .activity s.activityTable Activity.id sortActivities .activity where
  keyed := h.activities
  goesByIds := activities_goByIds
  injective _ _ := Record.activity.inj
  kind_iff r := by cases r <;> simp [Record.kind]
  id_eq _ := rfl
  orders := orders_activities
  get?_eq _ := rfl
  all_eq := rfl
  byIds_eq _ := rfl
  meeting_eq c hc := by
    cases c with
    | activity c => exact ⟨_, c.failsAlike p, rfl, fun _ => rfl⟩
    | timeEntry c => cases hc
    | project c => cases hc

theorem Holds.serves_timeEntries (h : s.Holds held) (p : Precision) :
    Serves p s .timeEntry s.timeEntryTable TimeEntry.id (fun es => .ok (sortTimeEntries es))
      .timeEntry where
  keyed := h.timeEntries
  goesByIds := timeEntries_goByIds
  injective _ _ := Record.timeEntry.inj
  kind_iff r := by cases r <;> simp [Record.kind]
  id_eq _ := rfl
  orders := orders_timeEntries
  get?_eq _ := rfl
  all_eq := rfl
  byIds_eq _ := rfl
  meeting_eq c hc := by
    cases c with
    | activity c => cases hc
    | timeEntry c => exact ⟨_, c.failsAlike p, rfl, fun _ => rfl⟩
    | project c => cases hc

theorem Holds.serves_projects (h : s.Holds held) (p : Precision) :
    Serves p s .project s.projectTable Project.id sortProjects .project where
  keyed := h.projects
  goesByIds := projects_goByIds
  injective _ _ := Record.project.inj
  kind_iff r := by cases r <;> simp [Record.kind]
  id_eq _ := rfl
  orders := orders_projects
  get?_eq _ := rfl
  all_eq := rfl
  byIds_eq _ := rfl
  meeting_eq c hc := by
    cases c with
    | activity c => cases hc
    | timeEntry c => cases hc
    | project c => exact ⟨_, c.failsAlike, rfl, fun _ => rfl⟩

namespace Serves

variable {α : Type} {kind : RecordKind} {table : Table Text α} {id : α → Text}
  {sort : List α → Except Fault (List α)} {toRecord : α → Record}
  (h : Serves p s kind table id sort toRecord) (hs : s.Holds held)

include h hs

/-- A value is in the table if its record is held. -/
theorem held_iff {a : α} : held (toRecord a) ↔ table.get? (id a) = some a := by
  rw [← hs.get?_iff, (h.kind_iff _).mpr ⟨a, rfl⟩, h.get?_eq, h.id_eq]
  exact ⟨fun ha => Option.map_injective h.injective ha, fun ha => by rw [ha]; rfl⟩

/-- What is read of all records was read of the table. -/
theorem exists_of_all {l : List Record} (hl : s.all kind = .ok l) :
    ∃ as, FullRead table sort as ∧ as.map toRecord = l := by
  rw [h.all_eq, reading_ok hs.available] at hl
  cases has : sort table.values with
  | error e =>
      rw [has] at hl
      cases hl
  | ok as =>
      rw [has] at hl
      exact ⟨as, h.goesByIds.fullRead h.keyed has, Except.ok.inj hl⟩

/-- **Where all records can be read**, the other reads agree with this. -/
theorem agrees {l : List Record} (hl : s.all kind = .ok l) : Agrees p s held kind l := by
  obtain ⟨as, has, rfl⟩ := h.exists_of_all hs hl
  refine ⟨?_, fun r => ?_, fun ids => ?_, fun c hc m => ?_, fun key => ?_⟩
  · have hids : Record.id ∘ toRecord = id := funext h.id_eq
    rw [List.map_map, hids]
    exact has.nodup h.keyed
  · rw [List.mem_map, h.kind_iff]
    constructor
    · rintro ⟨a, ha, rfl⟩
      exact ⟨⟨a, rfl⟩, (h.held_iff hs).mpr ((has.mem_iff h.keyed).mp ha)⟩
    · rintro ⟨⟨a, rfl⟩, ha⟩
      exact ⟨a, (has.mem_iff h.keyed).mpr ((h.held_iff hs).mp ha), rfl⟩
  · rw [h.byIds_eq, reading_ok hs.available, has.byIds_eq h.keyed, List.filter_map]
    simp only [Function.comp_def, h.id_eq]
    rfl
  · obtain ⟨check, -, hread, hadmits⟩ := h.meeting_eq c hc
    rw [hread, reading_ok hs.available, filterM_map]
    simp only [hadmits, map_eq_ok, has.meeting_eq_ok]
  · unfold fetch
    rw [reading_ok hs.available, h.get?_eq, has.get?_eq h.keyed, List.find?_map]
    simp only [Function.comp_def, h.id_eq]

/-- **Complete records can all be read**, and checking them comes to the fault of the read by
    criteria, if to any. -/
theorem exists_all (hcomplete : ∀ r, held r → r.kind = kind → r.IsComplete) :
    ∃ l, s.all kind = .ok l ∧
      ∀ c : Criteria, c.kind = kind → s.meeting p c = l.filterM (c.admits p) := by
  have hgood : ∀ a ∈ table.values, (toRecord a).IsComplete := fun a ha =>
    hcomplete _ ((h.held_iff hs).mpr (h.keyed.mem_values_iff.mp ha)) ((h.kind_iff _).mpr ⟨a, rfl⟩)
  obtain ⟨as, hsorted, -⟩ := h.orders _ hgood
  refine ⟨as.map toRecord, ?_, fun c hc => ?_⟩
  · rw [h.all_eq, reading_ok hs.available, hsorted]
    rfl
  · obtain ⟨check, hcheck, hread, hadmits⟩ := h.meeting_eq c hc
    rw [hread, reading_ok hs.available, filterM_map,
      (h.goesByIds.fullRead h.keyed hsorted).meeting_eq hcheck hgood]
    simp only [hadmits]

end Serves

end Serves

/-! ## 5. Snapshots -/

/-- The records of a snapshot, in the order in which they are loaded. -/
def recordsOf (v : Json) : Except Fault (List Record) := do
  let as ← (← v.items "activities").mapM Activity.read
  let es ← (← v.items "time_entries").mapM TimeEntry.read
  let ps ← (← v.items "projects").mapM Project.read
  return as.map .activity ++ es.map .timeEntry ++ ps.map .project

/-- **Loading a snapshot** is writing its records. -/
theorem read_eq (v : Json) :
    Store.read v = (recordsOf v).map fun records => empty.after (records.map .upsert) := by
  have hputs : ∀ {α : Type} (toRecord : α → Record) (l : List α) (s : Store),
      l.foldl (fun s a => s.put (toRecord a)) s = s.after ((l.map toRecord).map .upsert) :=
    fun toRecord l s => by
      unfold after
      rw [List.foldl_map, List.foldl_map]
      rfl
  have hloaded : ∀ (as : List Activity) (es : List TimeEntry) (ps : List Project), empty.after
      ((as.map Record.activity ++ es.map Record.timeEntry ++ ps.map Record.project).map .upsert) =
      ps.foldl (fun s p => s.put (.project p)) (es.foldl (fun s e => s.put (.timeEntry e))
        (as.foldl (fun s a => s.put (.activity a)) empty)) := fun as es ps => by
    rw [hputs, hputs, hputs, List.map_append, List.map_append]
    unfold after
    rw [List.foldl_append, List.foldl_append]
  show _ = (fun records => empty.after (records.map .upsert)) <$> recordsOf v
  unfold Store.read recordsOf
  simp only [map_bind, map_pure, hloaded]

/-- **All reads agree**, after any load and any writes: where the full read of a kind comes to
    something, the other reads are parts of it, and it lists the records that stand. It does if
    these records are complete; then reads by criteria agree with it down to their faults. -/
theorem reads_agree (p : Precision) {v : Json} {s₀ : Store} (hv : Store.read v = .ok s₀)
    (writes : List Write) (kind : RecordKind) : ∃ records, recordsOf v = .ok records ∧
      (∀ l, (s₀.after writes).all kind = .ok l →
        Agrees p (s₀.after writes) (Stands (records.map .upsert ++ writes)) kind l) ∧
      ((∀ r, Stands (records.map .upsert ++ writes) r → r.kind = kind → r.IsComplete) →
        ∃ l, (s₀.after writes).all kind = .ok l ∧ ∀ c : Criteria, c.kind = kind →
          (s₀.after writes).meeting p c = l.filterM (c.admits p)) := by
  rw [read_eq] at hv
  obtain ⟨records, hrecords, rfl⟩ := map_eq_ok.mp hv
  have hs : ((empty.after (records.map .upsert)).after writes).Holds
      (Stands (records.map .upsert ++ writes)) := by
    have hafter : (empty.after (records.map .upsert)).after writes =
        empty.after (records.map .upsert ++ writes) := List.foldl_append.symm
    rw [hafter]
    exact .after _
  refine ⟨records, hrecords, ?_⟩
  cases kind with
  | activity =>
      have h := hs.serves_activities p
      exact ⟨fun l => h.agrees hs, h.exists_all hs⟩
  | timeEntry =>
      have h := hs.serves_timeEntries p
      exact ⟨fun l => h.agrees hs, h.exists_all hs⟩
  | project =>
      have h := hs.serves_projects p
      exact ⟨fun l => h.agrees hs, h.exists_all hs⟩

/-- A project that is written anew, and one that is deleted. -/
theorem reads_agree_rewritten :
    let v : Json := .obj [("projects", .arr
      [.obj [("id", .str ['p']), ("name", .str ['B'])],
       .obj [("id", .str ['q']), ("name", .str ['A'])]])]
    let renamed : Record := .project ⟨['p'], .str ['C'], .null⟩
    let writes : List Write := [.upsert renamed, .delete .project ['q']]
    ∃ s₀ records l, Store.read v = .ok s₀ ∧ recordsOf v = .ok records ∧
      (s₀.after writes).all .project = .ok l ∧
      Agrees .exact (s₀.after writes) (Stands (records.map .upsert ++ writes)) .project l ∧
      renamed ∈ l := by
  intro v renamed writes
  obtain ⟨s₀, hs₀⟩ : ∃ s₀, Store.read v = .ok s₀ := ⟨_, rfl⟩
  obtain ⟨records, hrecords, hagrees, hall⟩ := reads_agree .exact hs₀ writes .project
  have hloaded : recordsOf v = .ok [.project ⟨['p'], .str ['B'], .null⟩,
    .project ⟨['q'], .str ['A'], .null⟩] := rfl
  obtain rfl := Except.ok.inj (hloaded.symm.trans hrecords)
  obtain ⟨l, hl, -⟩ := hall fun r hr _ => by
    have hwritten := hr.mem
    simp only [List.map_cons, List.map_nil, List.cons_append, List.nil_append, writes,
      List.mem_cons, Write.upsert.injEq, reduceCtorEq, List.not_mem_nil, or_false] at hwritten
    rcases hwritten with rfl | rfl | rfl <;> decide
  refine ⟨s₀, _, l, hs₀, hloaded, hl, hagrees l hl, ?_⟩
  rw [(hagrees l hl).mem_iff]
  exact ⟨rfl, [_, _], [_], rfl, by decide⟩

end Store

end Worklog
