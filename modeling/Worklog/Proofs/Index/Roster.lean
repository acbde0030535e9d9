import Worklog.Proofs.Index.Filing
import Worklog.Proofs.Index.Postings

/-!
# What the index holds

The index is six tables. `Index.Holds i live` says what all of them together stand for: a *roster*
`live`, the list of the records that are filed, no two with the same key.

* the filings are those of the records of the roster;
* the postings of a field hold "this record has this term in this field";
* the tallies of apps, projects and window titles count the names that the records carry;
* the frequencies count the terms of all records, repetitions included.

Filing and taking out carry it from roster to roster: **`Index.Holds.file`** adds a record,
**`Index.Holds.remove`** strikes a key, and so does everything that is made of the two
(`Index.Holds.add`, `Index.Holds.addAll`).
-/

namespace Worklog

/-! ## 1. Rosters -/

namespace Roster

/-- A roster without the record under a key. -/
def strike (key : RecordKind × Text) (live : List Record) : List Record :=
  live.filter fun r => decide (r.key ≠ key)

/-- A roster with a record in place of an earlier version. -/
def enter (live : List Record) (r : Record) : List Record := strike r.key live ++ [r]

variable {live : List Record} {key : RecordKind × Text} {r s : Record}

theorem mem_strike : r ∈ strike key live ↔ r ∈ live ∧ r.key ≠ key := by
  simp [strike]

theorem nodup_strike (h : (live.map Record.key).Nodup) :
    ((strike key live).map Record.key).Nodup :=
  h.sublist (List.filter_sublist.map _)

theorem notMem_keys_strike : key ∉ (strike key live).map Record.key := by
  intro h
  obtain ⟨r, hr, e⟩ := List.mem_map.mp h
  exact (mem_strike.mp hr).2 e

theorem strike_of_notMem (h : key ∉ live.map Record.key) : strike key live = live :=
  List.filter_eq_self.mpr fun r hr =>
    decide_eq_true fun e => h (List.mem_map.mpr ⟨r, hr, e⟩)

theorem eq_of_key_eq (h : (live.map Record.key).Nodup) (hr : r ∈ live) (hs : s ∈ live)
    (e : r.key = s.key) : r = s :=
  List.inj_on_of_nodup_map h hr hs e

/-- A roster is its record under a key and the others. -/
theorem perm_cons_strike (h : (live.map Record.key).Nodup) (hr : r ∈ live) :
    live.Perm (r :: strike r.key live) := by
  induction live with
  | nil => simp at hr
  | cons s live ih =>
      simp only [List.map_cons, List.nodup_cons] at h
      by_cases e : s = r
      · subst e
        have hs : strike s.key (s :: live) = strike s.key live := by simp [strike]
        rw [hs, strike_of_notMem h.1]
      · have hm : r ∈ live := (List.mem_cons.mp hr).resolve_left fun e' => e e'.symm
        have hk : s.key ≠ r.key := fun e' => h.1 (List.mem_map.mpr ⟨r, hm, e'.symm⟩)
        have hs : strike r.key (s :: live) = s :: strike r.key live := by simp [strike, hk]
        rw [hs]
        exact ((ih h.2 hm).cons s).trans (List.Perm.swap r s _)

/-- Records with different keys enter a roster one after the other. -/
theorem foldl_enter_eq : ∀ {records live : List Record},
    ((live ++ records).map Record.key).Nodup → records.foldl enter live = live ++ records
  | [], live, _ => (List.append_nil live).symm
  | r :: records, live, h => by
      have h' : ((live ++ [r] ++ records).map Record.key).Nodup := by simpa using h
      have hr : r.key ∉ live.map Record.key := by
        rw [List.map_append, List.nodup_append] at h
        exact fun hm => h.2.2 _ hm _ List.mem_cons_self rfl
      rw [List.foldl_cons, enter, strike_of_notMem hr, foldl_enter_eq h']
      simp

end Roster

/-! ## 2. The six tables -/

namespace Index

/-- **The index holds a roster.** -/
structure Holds (i : Index) (live : List Record) : Prop where
  keys : (live.map Record.key).Nodup
  texts : ∀ r ∈ live, r.HasTexts
  filings : i.filings = live.map fun r => (r.key, r.filing)
  postings : ∀ f, (i.field f).Holds
    fun term id => ∃ r ∈ live, r.id = id ∧ (f, term) ∈ r.filing.terms
  apps : i.apps.Counts (live.filterMap (·.filing.app))
  projects : i.projects.Counts (live.filterMap (·.filing.project))
  titles : i.titles.Counts (live.filterMap (·.filing.title))
  frequency : i.frequency.Counts (live.flatMap fun r => r.filing.terms.map (·.2))

theorem Holds.empty (capacity : Int) (now : Moment) : (empty capacity now).Holds [] where
  keys := List.nodup_nil
  texts := fun _ h => absurd h List.not_mem_nil
  filings := rfl
  postings _ := Postings.Holds.empty.congr fun _ _ => by simp
  apps := .nil
  projects := .nil
  titles := .nil
  frequency := .nil

theorem Holds.get?_filings {i : Index} {live : List Record} (h : i.Holds live)
    {key : RecordKind × Text} {F : Filing} :
    i.filings.get? key = some F ↔ ∃ r ∈ live, r.key = key ∧ r.filing = F := by
  have hk : (Table.keys i.filings).Nodup := by
    rw [h.filings, Table.keys, List.map_map]
    exact h.keys
  rw [Table.get?_eq_some_iff hk, h.filings]
  simp

/-! ## 3. Terms -/

/-- `j` differs from `i` at most in its postings and its frequencies. -/
structure Frame (i j : Index) : Prop where
  capacity : j.capacity = i.capacity
  filings : j.filings = i.filings
  apps : j.apps = i.apps
  projects : j.projects = i.projects
  titles : j.titles = i.titles
  sample : j.sample = i.sample

theorem Frame.foldl {step : Index → Field × Text → Index} (h : ∀ i e, Frame i (step i e)) :
    ∀ (terms : List (Field × Text)) (i : Index), Frame i (terms.foldl step i)
  | [], _ => ⟨rfl, rfl, rfl, rfl, rfl, rfl⟩
  | e :: terms, i => by
      have h₁ := h i e
      have h₂ := Frame.foldl h terms (step i e)
      exact ⟨h₂.capacity.trans h₁.capacity, h₂.filings.trans h₁.filings, h₂.apps.trans h₁.apps,
        h₂.projects.trans h₁.projects, h₂.titles.trans h₁.titles, h₂.sample.trans h₁.sample⟩

theorem frame_addTerms (id : Text) (terms : List (Field × Text)) (i : Index) :
    Frame i (terms.foldl (addTerm id) i) := by
  have h : ∀ j e, Frame j (addTerm id j e) := fun _ _ => ⟨rfl, rfl, rfl, rfl, rfl, rfl⟩
  exact Frame.foldl h terms i

theorem frame_dropTerms (id : Text) (terms : List (Field × Text)) (i : Index) :
    Frame i (terms.foldl (dropTerm id) i) := by
  have h : ∀ j e, Frame j (dropTerm id j e) := fun _ _ => ⟨rfl, rfl, rfl, rfl, rfl, rfl⟩
  exact Frame.foldl h terms i

theorem field_addTerm (id : Text) (i : Index) (e : Field × Text) (f : Field) :
    (addTerm id i e).field f = if e.1 = f then (i.field f).add e.2 id else i.field f := by
  show Table.getD f .empty (Table.put e.1 _ i.postings) = _
  rw [Table.getD_put]
  split
  · rename_i h; subst h; rfl
  · rfl

theorem field_dropTerm (id : Text) (i : Index) (e : Field × Text) (f : Field) :
    (dropTerm id i e).field f = if e.1 = f then (i.field f).discard e.2 id else i.field f := by
  show Table.getD f .empty (Table.put e.1 _ i.postings) = _
  rw [Table.getD_put]
  split
  · rename_i h; subst h; rfl
  · rfl

variable {i : Index} {R : Field → Text → Text → Prop} {id : Text} {items : List Text}

/-- Filing an identifier under terms adds it to the postings of each. -/
theorem postings_addTerms (h : ∀ f, (i.field f).Holds (R f)) (terms : List (Field × Text))
    (f : Field) :
    ((terms.foldl (addTerm id) i).field f).Holds
      fun term x => R f term x ∨ (x = id ∧ (f, term) ∈ terms) := by
  induction terms generalizing i R with
  | nil => exact (h f).congr fun _ _ => by simp
  | cons e terms ih =>
      obtain ⟨g, u⟩ := e
      have hstep : ∀ f, ((addTerm id i (g, u)).field f).Holds
          fun term x => R f term x ∨ (x = id ∧ (f, term) = (g, u)) := by
        intro f
        rw [field_addTerm]
        split
        · rename_i hg
          refine ((h f).add u id).congr fun term x => or_congr_right ?_
          simp [← hg, and_comm]
        · rename_i hg
          refine (h f).congr fun term x => ?_
          simp [Ne.symm hg]
      refine (ih hstep).congr fun term x => ?_
      simp only [List.mem_cons, and_or_left, or_assoc]

/-- Unfiling an identifier from terms takes it from the postings of each. -/
theorem postings_dropTerms (h : ∀ f, (i.field f).Holds (R f)) (terms : List (Field × Text))
    (f : Field) :
    ((terms.foldl (dropTerm id) i).field f).Holds
      fun term x => R f term x ∧ ¬(x = id ∧ (f, term) ∈ terms) := by
  induction terms generalizing i R with
  | nil => exact (h f).congr fun _ _ => by simp
  | cons e terms ih =>
      obtain ⟨g, u⟩ := e
      have hstep : ∀ f, ((dropTerm id i (g, u)).field f).Holds
          fun term x => R f term x ∧ ¬(x = id ∧ (f, term) = (g, u)) := by
        intro f
        rw [field_dropTerm]
        split
        · rename_i hg
          refine ((h f).discard u id).congr fun term x => and_congr_right fun _ => ?_
          simp [← hg, and_comm]
        · rename_i hg
          refine (h f).congr fun term x => ?_
          simp [Ne.symm hg]
      refine (ih hstep).congr fun term x => ?_
      simp only [List.mem_cons, and_or_left, not_or, and_assoc]

theorem frequency_addTerms (h : i.frequency.Counts items) (terms : List (Field × Text)) :
    (terms.foldl (addTerm id) i).frequency.Counts (terms.map (·.2) ++ items) := by
  induction terms generalizing i items with
  | nil => exact h
  | cons e terms ih => exact (ih (h.up e.2)).of_perm List.perm_middle

theorem frequency_dropTerms (terms : List (Field × Text))
    (h : i.frequency.Counts (terms.map (·.2) ++ items)) :
    (terms.foldl (dropTerm id) i).frequency.Counts items := by
  induction terms generalizing i with
  | nil => exact h
  | cons e terms ih => exact ih h.down

/-! ## 4. Names -/

section Names

variable {κ α : Type} [DecidableEq κ] {t : Tally κ} {names : List κ} {name : α → Option κ}

theorem counts_upName (h : t.Counts names) (o : Option κ) :
    (upName t o).Counts (o.toList ++ names) := by
  cases o with
  | none => exact h
  | some k => exact h.up k

theorem counts_downName {o : Option κ} (h : t.Counts (o.toList ++ names)) :
    (downName t o).Counts names := by
  cases o with
  | none => exact h
  | some k => exact h.down

/-- One more carrier of names. -/
theorem counts_carrier {as : List α} (h : t.Counts (as.filterMap name)) (a : α) :
    (upName t (name a)).Counts ((as ++ [a]).filterMap name) := by
  refine (counts_upName h (name a)).of_perm ?_
  rw [List.filterMap_append]
  have e : [a].filterMap name = (name a).toList := by
    cases ha : name a <;> simp [ha]
  rw [e]
  exact List.perm_append_comm

/-- One carrier of names less. -/
theorem counts_without {as bs : List α} {a : α} (h : t.Counts (as.filterMap name))
    (hp : as.Perm (a :: bs)) : (downName t (name a)).Counts (bs.filterMap name) := by
  refine counts_downName (h.of_perm ((hp.filterMap name).trans ?_))
  cases ha : name a <;> simp [ha]

end Names

/-! ## 5. Records -/

namespace Holds

variable {live : List Record} {r : Record} {kind : RecordKind}

/-- **Filing a record adds it to the roster.** -/
theorem file (h : i.Holds live) (hr : r.HasTexts) (hk : r.key ∉ live.map Record.key) :
    (i.file r).2 = none ∧ (i.file r).1.Holds (live ++ [r]) := by
  have hnew : r.key ∉ Table.keys i.filings := by
    rw [h.filings, Table.keys, List.map_map]
    exact hk
  unfold Index.file
  rw [Record.contribution_eq hr]
  refine ⟨rfl, ?_⟩
  simp only [noted]
  generalize hj : ({ i with filings := i.filings.put (r.kind, r.id) r.filing } : Index) = j
  have hfr := frame_addTerms r.id r.filing.terms j
  exact {
    keys := by
      rw [List.map_append]
      refine List.nodup_append.mpr ⟨h.keys, List.nodup_singleton _, fun k hm l hl e => hk ?_⟩
      rw [← List.mem_singleton.mp hl, ← e]
      exact hm
    texts := fun s hs => (List.mem_append.mp hs).elim (h.texts s)
      fun e => (List.mem_singleton.mp e) ▸ hr
    filings := by
      show (r.filing.terms.foldl (addTerm r.id) j).filings = _
      rw [hfr.filings, ← hj]
      show i.filings.put r.key r.filing = _
      rw [Table.put_of_notMem hnew, h.filings, List.map_append]
      rfl
    postings := fun f => by
      have hp : ∀ g, (j.field g).Holds
          fun term x => ∃ s ∈ live, s.id = x ∧ (g, term) ∈ s.filing.terms := by
        rw [← hj]
        exact h.postings
      refine (postings_addTerms hp r.filing.terms f).congr fun term x => ?_
      constructor
      · intro hd
        rcases hd with ⟨s, hs, hx⟩ | ⟨rfl, hm⟩
        · exact ⟨s, List.mem_append_left _ hs, hx⟩
        · exact ⟨r, List.mem_append_right _ List.mem_cons_self, rfl, hm⟩
      · intro hd
        obtain ⟨s, hs, hx, hm⟩ := hd
        rcases List.mem_append.mp hs with hs | hs
        · exact Or.inl ⟨s, hs, hx, hm⟩
        · rw [List.mem_singleton.mp hs] at hx hm
          exact Or.inr ⟨hx.symm, hm⟩
    apps := by
      have ha : (r.filing.terms.foldl (addTerm r.id) j).apps = i.apps := by rw [hfr.apps, ← hj]
      simp only [ha]
      exact counts_carrier h.apps r
    projects := by
      have hp : (r.filing.terms.foldl (addTerm r.id) j).projects = i.projects := by
        rw [hfr.projects, ← hj]
      simp only [hp]
      exact counts_carrier h.projects r
    titles := by
      have ht : (r.filing.terms.foldl (addTerm r.id) j).titles = i.titles := by
        rw [hfr.titles, ← hj]
      simp only [ht]
      exact counts_carrier h.titles r
    frequency := by
      have hc : j.frequency.Counts (live.flatMap fun s => s.filing.terms.map (·.2)) := by
        rw [← hj]
        exact h.frequency
      refine (frequency_addTerms hc r.filing.terms).of_perm ?_
      rw [List.flatMap_append, List.flatMap_singleton]
      exact List.perm_append_comm }

/-- Unfiling a record of the roster strikes it. -/
theorem unfile (h : i.Holds live) (hr : r ∈ live) :
    (i.unfile r.key r.filing).Holds (Roster.strike r.key live) := by
  have hperm := Roster.perm_cons_strike h.keys hr
  unfold Index.unfile
  generalize hj : ({ i with filings := i.filings.erase r.key } : Index) = j
  have hfr := frame_dropTerms r.key.2 r.filing.terms j
  exact {
    keys := Roster.nodup_strike h.keys
    texts := fun s hs => h.texts s (Roster.mem_strike.mp hs).1
    filings := by
      show (r.filing.terms.foldl (dropTerm r.key.2) j).filings = _
      rw [hfr.filings, ← hj]
      show i.filings.erase r.key = _
      rw [h.filings, Table.erase, Roster.strike, List.filter_map]
      rfl
    postings := fun f => by
      have hp : ∀ g, (j.field g).Holds
          fun term x => ∃ s ∈ live, s.id = x ∧ (g, term) ∈ s.filing.terms := by
        rw [← hj]
        exact h.postings
      refine (postings_dropTerms hp r.filing.terms f).congr fun term x => ?_
      constructor
      · intro hd
        obtain ⟨⟨s, hs, hx, hm⟩, hn⟩ := hd
        refine ⟨s, Roster.mem_strike.mpr ⟨hs, fun e => hn ?_⟩, hx, hm⟩
        have hsr := Roster.eq_of_key_eq h.keys hs hr e
        subst hsr
        exact ⟨hx.symm, hm⟩
      · intro hd
        obtain ⟨s, hs, hx, hm⟩ := hd
        obtain ⟨hs, hne⟩ := Roster.mem_strike.mp hs
        refine ⟨⟨s, hs, hx, hm⟩, ?_⟩
        intro hd
        obtain ⟨hid, hm'⟩ := hd
        refine hne ?_
        -- a field belongs to one kind, so two records with a term in it are of one kind
        have hsk := Record.kind_of_mem_filing (h.texts s hs) hm
        have hrk := Record.kind_of_mem_filing (h.texts r hr) hm'
        exact Prod.ext (hsk.symm.trans hrk) (hx.trans hid)
    apps := by
      have ha : (r.filing.terms.foldl (dropTerm r.key.2) j).apps = i.apps := by
        rw [hfr.apps, ← hj]
      simp only [ha]
      exact counts_without h.apps hperm
    projects := by
      have hp : (r.filing.terms.foldl (dropTerm r.key.2) j).projects = i.projects := by
        rw [hfr.projects, ← hj]
      simp only [hp]
      exact counts_without h.projects hperm
    titles := by
      have ht : (r.filing.terms.foldl (dropTerm r.key.2) j).titles = i.titles := by
        rw [hfr.titles, ← hj]
      simp only [ht]
      exact counts_without h.titles hperm
    frequency := by
      refine frequency_dropTerms r.filing.terms ?_
      rw [← hj]
      exact h.frequency.of_perm (hperm.flatMap_right _) }

/-- **Taking out strikes a key from the roster**; where it is not on it nothing changes. -/
theorem remove (h : i.Holds live) (now : Moment) (kind : RecordKind) (id : Text) :
    (i.remove now kind id).Holds (Roster.strike (kind, id) live) := by
  unfold Index.remove
  split
  · rename_i F hF
    obtain ⟨r, hr, hk, rfl⟩ := h.get?_filings.mp hF
    rw [← hk]
    have hu := h.unfile hr
    exact ⟨hu.keys, hu.texts, hu.filings, hu.postings, hu.apps, hu.projects, hu.titles,
      hu.frequency⟩
  · rename_i hF
    have hnot : (kind, id) ∉ live.map Record.key := by
      intro hm
      obtain ⟨r, hr, hk⟩ := List.mem_map.mp hm
      rw [h.get?_filings.mpr ⟨r, hr, hk, rfl⟩] at hF
      cases hF
    rw [Roster.strike_of_notMem hnot]
    exact h

theorem replace (h : i.Holds live) (now : Moment) (hr : r.HasTexts) :
    (i.replace now r).2 = none ∧ (i.replace now r).1.Holds (Roster.enter live r) :=
  (h.remove now r.kind r.id).file hr Roster.notMem_keys_strike

theorem touch (h : i.Holds live) (now : Moment) : { i with updated := now }.Holds live :=
  ⟨h.keys, h.texts, h.filings, h.postings, h.apps, h.projects, h.titles, h.frequency⟩

/-- **Adding a record enters it into the roster.** -/
theorem add (h : i.Holds live) (now : Moment) (hr : r.HasTexts) :
    (i.add now r).2 = none ∧ (i.add now r).1.Holds (Roster.enter live r) := by
  obtain ⟨hnone, hrep⟩ := h.replace now hr
  unfold Index.add
  rw [show i.replace now r = ((i.replace now r).1, none) from Prod.ext rfl hnone]
  exact ⟨rfl, hrep.touch now⟩

/-- **Adding records enters one after the other.** -/
theorem addAll (now : Moment) : ∀ (records : List Record) (i : Index) (live : List Record),
    i.Holds live → (∀ r ∈ records, r.HasTexts) →
    (i.addAll now records).2 = none ∧
      (i.addAll now records).1.Holds (records.foldl Roster.enter live)
  | [], _, _, h, _ => ⟨rfl, h.touch now⟩
  | r :: records, i, live, h, hr => by
      obtain ⟨hnone, hrep⟩ := h.replace now (hr r List.mem_cons_self)
      unfold Index.addAll
      rw [show i.replace now r = ((i.replace now r).1, none) from Prod.ext rfl hnone]
      exact addAll now records _ _ hrep fun s hs => hr s (List.mem_cons_of_mem r hs)

/-- **An index of some records** holds them, of several with one key the last. -/
theorem build (capacity : Int) (now : Moment) {records : List Record}
    (hr : ∀ r ∈ records, r.HasTexts) :
    (Index.build capacity now records).2 = none ∧
      (Index.build capacity now records).1.Holds (records.foldl Roster.enter []) :=
  addAll now records _ _ (.empty capacity now) hr

/-- **An index of records with different keys** holds them in their order. -/
theorem build_of_nodup (capacity : Int) (now : Moment) {records : List Record}
    (hr : ∀ r ∈ records, r.HasTexts) (hkeys : (records.map Record.key).Nodup) :
    ∃ i, Index.build capacity now records = (i, none) ∧ i.Holds records := by
  obtain ⟨hnone, hi⟩ := build capacity now hr
  have hfold : records.foldl Roster.enter [] = [] ++ records := Roster.foldl_enter_eq hkeys
  rw [hfold, List.nil_append] at hi
  exact ⟨_, Prod.ext rfl hnone, hi⟩

end Holds

end Index

end Worklog
