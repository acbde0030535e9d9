import Worklog.Proofs.Search.Narrower
import Worklog.Proofs.Search.Order

/-!
# Well-formed results

Whatever a search finds, it finds records of the store as they are now, each once and in order. The
tables of the store and the answers of the index are lists too, and their order could show; but the
order of reads depends on the records alone. So stores that hold the same records are searched with
the same results, however the records came there:

* `Search.run_isOrdered`, `Search.run_current`: the results of a search, on either path;
* `Store.IsLike`, `Store.IsLike.of_perm`: stores that hold the same records;
* `Search.fast_congr`, `Search.full_congr`: **they are searched alike**;
* **`Search.well_formed`**: what is answered without a cache.
-/

namespace Worklog

/-! ## 1. Lists that are read -/

namespace Store

/-- A way to put items in some order, which the good ones have. -/
def Arranges {α : Type} (sort : List α → Except Fault (List α)) (good : α → Prop)
    (precedes : α → α → Prop) : Prop :=
  ∀ l, (∀ a ∈ l, good a) → ∃ sorted, sort l = .ok sorted ∧ sorted.Perm l ∧ sorted.Pairwise precedes

theorem arranges_activities :
    Arranges sortActivities (fun a => (Record.activity a).IsComplete) Activity.Precedes :=
  fun l hl =>
    let ⟨sorted, hsorted, hperm⟩ := orders_activities l hl
    ⟨sorted, hsorted, hperm, pairwise_activities hsorted hl⟩

theorem arranges_timeEntries : Arranges (fun es => .ok (sortTimeEntries es))
    (fun e => (Record.timeEntry e).IsComplete) TimeEntry.Precedes :=
  fun es _ => ⟨_, rfl, List.mergeSort_perm _ _, pairwise_timeEntries es⟩

theorem arranges_projects :
    Arranges sortProjects (fun r => (Record.project r).IsComplete) Project.Precedes :=
  fun l hl =>
    let ⟨sorted, hsorted, hperm⟩ := orders_projects l hl
    ⟨sorted, hsorted, hperm, pairwise_projects hsorted fun r hr => name_eq_str (hl r hr)⟩

section Reads

variable {α : Type} {table : Table Text α} {id : α → Text} {good : α → Prop}
  {precedes : α → α → Prop} {sort : List α → Except Fault (List α)}

/-- What is sorted is a list as the store gives it, if no identifier comes twice. -/
theorem Arranges.lists (h : Arranges sort good precedes) {l sorted : List α}
    (hgood : ∀ a ∈ l, good a) (hid : (l.map id).Nodup) (hsorted : sort l = .ok sorted) :
    Lists id precedes sorted := by
  obtain ⟨m, hm, hperm, hpairwise⟩ := h l hgood
  rw [hm] at hsorted
  cases hsorted
  exact ⟨hpairwise, (hperm.map id).nodup_iff.mpr hid⟩

/-- What is picked by identifiers has each identifier once. -/
theorem nodup_pick (h : table.Keyed id) (ids : List Text) : ((pick table ids).map id).Nodup := by
  unfold pick
  rw [List.map_filterMap]
  refine (nodup_eraseDups ids).filterMap fun k k' i hk hk' => ?_
  obtain ⟨a, ha, rfl⟩ := Option.map_eq_some_iff.mp hk
  obtain ⟨b, hb, hid⟩ := Option.map_eq_some_iff.mp hk'
  rw [h.eq_of_get? ha, h.eq_of_get? hb, hid]

theorem reading_eq_ok {s : Store} {x : Except Fault α} {a : α} (h : s.reading x = .ok a) :
    x = .ok a := by
  unfold reading at h
  split at h
  · exact h
  · cases h

end Reads

end Store

theorem Lists.sublist {α : Type} {id : α → Text} {precedes : α → α → Prop} {l m : List α}
    (h : Lists id precedes l) (hm : m.Sublist l) : Lists id precedes m :=
  ⟨h.sorted.sublist hm, h.nodup.sublist (hm.map id)⟩

theorem Lists.nil {α : Type} {id : α → Text} {precedes : α → α → Prop} : Lists id precedes [] :=
  ⟨.nil, .nil⟩

namespace Search

section Ordered

variable {p : Precision} {src : Sources} {q : Text} {f : Panel} (hs : src.store.IsSound)

/-- **Records that are read by identifiers** and checked are a list as the store gives it. -/
theorem lists_fast {α : Type} {table : Table Text α} {id : α → Text} {good : α → Prop}
    {precedes : α → α → Prop} {sort : List α → Except Fault (List α)}
    (h : table.Keyed id) (hsort : Store.Arranges sort good precedes)
    (hgood : ∀ a ∈ table.values, good a) {read : List Text → Except Fault (List α)}
    (hread : ∀ {ids l}, read ids = .ok l → sort (Store.pick table ids) = .ok l)
    {check : α → Except Fault Bool} {ids : List Text} {l m : List α}
    (hl : readSome read ids = .ok l) (hm : l.filterM check = .ok m) : Lists id precedes m := by
  refine Lists.sublist ?_ (filterM_sublist hm)
  unfold readSome at hl
  split at hl
  · cases hl
    exact .nil
  · exact hsort.lists (fun a ha => hgood a (h.mem_pick.mp ha).1) (Store.nodup_pick h ids) (hread hl)

/-- **Records that meet criteria** are a list as the store gives it. -/
theorem lists_meeting {α : Type} {table : Table Text α} {id : α → Text} {good : α → Prop}
    {precedes : α → α → Prop} {sort : List α → Except Fault (List α)}
    (h : table.Keyed id) (hsort : Store.Arranges sort good precedes)
    (hgood : ∀ a ∈ table.values, good a) {check : α → Except Fault Bool} {l : List α}
    (hl : (table.values.filterM check >>= sort) = .ok l) : Lists id precedes l := by
  obtain ⟨m, hm, hl⟩ := bind_eq_ok.mp hl
  have hsub := filterM_sublist hm
  exact hsort.lists (fun a ha => hgood a (hsub.subset ha))
    (h.nodup_map_values.sublist (hsub.map id)) hl

include hs

theorem fast_isOrdered {res : Results} (h : fast p src q f = .ok res) : res.IsOrdered := by
  obtain ⟨as, has, h⟩ := bind_eq_ok.mp h
  obtain ⟨es, hes, h⟩ := bind_eq_ok.mp h
  obtain ⟨ps, hps, h⟩ := bind_eq_ok.mp h
  obtain ⟨as', has', h⟩ := bind_eq_ok.mp h
  obtain ⟨es', hes', h⟩ := bind_eq_ok.mp h
  obtain ⟨ps', hps', h⟩ := bind_eq_ok.mp h
  exact isOrdered_rank
    (lists_fast hs.activities Store.arranges_activities (fun _ => hs.complete_activity)
      Store.reading_eq_ok has has')
    (lists_fast hs.timeEntries Store.arranges_timeEntries (fun _ => hs.complete_timeEntry)
      Store.reading_eq_ok hes hes')
    (lists_fast hs.projects Store.arranges_projects (fun _ => hs.complete_project)
      Store.reading_eq_ok hps hps') h

theorem full_isOrdered {res : Results} (h : full p src q f = .ok res) : res.IsOrdered := by
  obtain ⟨query, -, h⟩ := bind_eq_ok.mp h
  obtain ⟨as, has, h⟩ := bind_eq_ok.mp h
  obtain ⟨⟨es, ps⟩, hothers, h⟩ := bind_eq_ok.mp h
  have hactivities : Lists Activity.id Activity.Precedes as := by
    unfold fullActivities at has
    split at has
    · exact lists_meeting hs.activities Store.arranges_activities (fun _ => hs.complete_activity)
        (Store.reading_eq_ok has)
    · cases has
      exact .nil
  have hrest : Lists TimeEntry.id TimeEntry.Precedes es ∧ Lists Project.id Project.Precedes ps := by
    unfold fullOthers at hothers
    split at hothers
    · obtain ⟨ids, -, hothers⟩ := bind_eq_ok.mp hothers
      obtain ⟨es', hes, hothers⟩ := bind_eq_ok.mp hothers
      obtain ⟨ps', hps, hothers⟩ := bind_eq_ok.mp hothers
      cases hothers
      exact ⟨lists_meeting hs.timeEntries Store.arranges_timeEntries
          (fun _ => hs.complete_timeEntry) (Store.reading_eq_ok hes),
        lists_meeting hs.projects Store.arranges_projects (fun _ => hs.complete_project)
          (Store.reading_eq_ok hps)⟩
    · cases hothers
      exact ⟨.nil, .nil⟩
  exact isOrdered_rank hactivities hrest.1 hrest.2 h

/-- **The results of a search are in order**, on either path. -/
theorem run_isOrdered {path : SearchPath} {res : Results} (h : run p src q f path = .ok res) :
    res.IsOrdered := by
  cases path with
  | fast => exact fast_isOrdered hs h
  | full => exact full_isOrdered hs h

/-- **What is found is in the store and meets the panel**, on either path. -/
theorem run_current (ha : src.store.available = true) (hf : f.HasBounds) (hkeyed : f.IsKeyed)
    {path : SearchPath} {res : Results} (h : run p src q f path = .ok res) :
    ∀ r ∈ res.records, r ∈ src.store.records ∧ f.admits p src.now r = true := by
  intro r hr
  cases path with
  | fast =>
      obtain ⟨found, hfound, hscored⟩ := fast_ok (p := p) (q := q) src hs ha hf
      obtain rfl : found = res := Except.ok.inj (hfound.symm.trans h)
      obtain ⟨x, hx⟩ := Results.mem_records.mp hr
      obtain ⟨⟨hmem, -, hadmits⟩, -⟩ := (hscored r x).mp hx
      exact ⟨hmem, hadmits⟩
  | full =>
      obtain ⟨query, hread, -⟩ := bind_eq_ok.mp h
      rcases full_of_read hs ha hf hkeyed hread with
        ⟨found, hfound, hmem, -⟩ | ⟨hfault, -⟩
      · obtain rfl : found = res := Except.ok.inj (hfound.symm.trans h)
        obtain ⟨hrecord, hasked⟩ := (hmem r).mp hr
        exact ⟨hrecord, admits_of_asked hkeyed (hs.complete_of_mem hrecord) hasked⟩
      · exact nomatch hfault.symm.trans h

end Ordered

end Search

/-! ## 3. Stores with the same records -/

/-- **Two stores hold the same records**, in whatever order they came there. -/
structure Store.IsLike (s s' : Store) : Prop where
  get?_eq : ∀ kind id, s.get? kind id = s'.get? kind id
  available_eq : s.available = s'.available

namespace Store

section Same

variable {α : Type} {table table' : Table Text α} {id : α → Text} {good : α → Prop}
  {precedes : α → α → Prop} {sort : List α → Except Fault (List α)}

/-- Records in any order are put in the same order, which the identifiers decide. -/
theorem Arranges.congr (h : Arranges sort good precedes)
    (hanti : ∀ a b, precedes a b → precedes b a → id a = id b) {l m : List α}
    (hgood : ∀ a ∈ l, good a) (hid : (l.map id).Nodup) (hlm : l.Perm m) : sort l = sort m := by
  obtain ⟨sorted, hsorted, hperm, hpairwise⟩ := h l hgood
  obtain ⟨sorted', hsorted', hperm', hpairwise'⟩ := h m fun a ha => hgood a (hlm.mem_iff.mpr ha)
  have hsame : sorted.Perm sorted' := hperm.trans (hlm.trans hperm'.symm)
  have heq : sorted = sorted' := hsame.eq_of_pairwise (fun a b ha hb hab hba =>
    List.inj_on_of_nodup_map hid (hperm.mem_iff.mp ha)
      (hlm.mem_iff.mpr (hperm'.mem_iff.mp hb)) (hanti a b hab hba)) hpairwise hpairwise'
  rw [hsorted, hsorted', heq]

/-- **Reads by identifiers** do not depend on the order of the table, nor on that of the
    identifiers. -/
theorem byIds_congr (h : table.Keyed id) (h' : table'.Keyed id)
    (hsort : Arranges sort good precedes)
    (hanti : ∀ a b, precedes a b → precedes b a → id a = id b)
    (hgood : ∀ a ∈ table.values, good a) (htables : table.Perm table') {ids ids' : List Text}
    (hids : ∀ i, i ∈ ids ↔ i ∈ ids') : sort (pick table ids) = sort (pick table' ids') := by
  refine hsort.congr hanti (fun a ha => hgood a (h.mem_pick.mp ha).1) (nodup_pick h ids) ?_
  refine (List.perm_ext_iff_of_nodup (nodup_pick h ids).of_map (nodup_pick h' ids').of_map).mpr ?_
  intro a
  have hvalues : table.values.Perm table'.values := htables.map _
  rw [h.mem_pick, h'.mem_pick, hvalues.mem_iff, hids]

/-- **Reads by criteria** do not depend on the order of the table, if a check can only go wrong in
    one way. -/
theorem meeting_congr (h : table.Keyed id) (hsort : Arranges sort good precedes)
    (hanti : ∀ a b, precedes a b → precedes b a → id a = id b)
    (hgood : ∀ a ∈ table.values, good a) (htables : table.Perm table')
    {check : α → Except Fault Bool} {holds cause : α → Prop}
    (hcheck : ∀ a ∈ table.values, Tells (check a) (holds a) (cause a)) :
    (table.values.filterM check >>= sort) = (table'.values.filterM check >>= sort) := by
  have hvalues : table.values.Perm table'.values := htables.map _
  have hcheck' : ∀ a ∈ table'.values, Tells (check a) (holds a) (cause a) := fun a ha =>
    hcheck a (hvalues.mem_iff.mpr ha)
  have hcause : (∃ a ∈ table.values, cause a) ↔ ∃ a ∈ table'.values, cause a :=
    exists_congr fun a => and_congr_left fun _ => hvalues.mem_iff
  rcases Tells.filterM hcheck with ⟨l, hl, hmem, hno⟩ | ⟨he, hyes⟩
  · rcases Tells.filterM hcheck' with ⟨l', hl', hmem', -⟩ | ⟨-, hyes⟩
    · have hsub := filterM_sublist hl
      have hid : (l.map id).Nodup := h.nodup_map_values.sublist (hsub.map id)
      have hid' : l'.Nodup := ((hvalues.map id).nodup_iff.mp h.nodup_map_values).of_map.sublist
        (filterM_sublist hl')
      rw [hl, hl']
      refine hsort.congr hanti (fun a ha => hgood a (hsub.subset ha)) hid ?_
      refine (List.perm_ext_iff_of_nodup hid.of_map hid').mpr fun a => ?_
      rw [hmem, hmem']
      exact and_congr_left fun _ => hvalues.mem_iff
    · exact absurd (hcause.mpr hyes) hno
  · rcases Tells.filterM hcheck' with ⟨-, -, -, hno⟩ | ⟨he', -⟩
    · exact absurd (hcause.mp hyes) hno
    · rw [he, he']

end Same

namespace IsLike

variable {s s' : Store}

theorem perm_tables (h : s.IsLike s') (hs : s.IsSound) (hs' : s'.IsSound) :
    s.activityTable.Perm s'.activityTable ∧ s.timeEntryTable.Perm s'.timeEntryTable ∧
      s.projectTable.Perm s'.projectTable := by
  refine ⟨Table.perm_of_get? hs.activities.nodup hs'.activities.nodup fun id => ?_,
    Table.perm_of_get? hs.timeEntries.nodup hs'.timeEntries.nodup fun id => ?_,
    Table.perm_of_get? hs.projects.nodup hs'.projects.nodup fun id => ?_⟩
  · exact Option.map_injective (fun _ _ => Record.activity.inj) (h.get?_eq .activity id)
  · exact Option.map_injective (fun _ _ => Record.timeEntry.inj) (h.get?_eq .timeEntry id)
  · exact Option.map_injective (fun _ _ => Record.project.inj) (h.get?_eq .project id)

protected theorem rfl : s.IsLike s := ⟨fun _ _ => rfl, rfl⟩

protected theorem trans {t : Store} (h : s.IsLike s') (h' : s'.IsLike t) : s.IsLike t :=
  ⟨fun kind id => (h.get?_eq kind id).trans (h'.get?_eq kind id),
    h.available_eq.trans h'.available_eq⟩

theorem put (h : s.IsLike s') (r : Record) : (s.put r).IsLike (s'.put r) where
  get?_eq kind id := by rw [Store.get?_put, Store.get?_put, h.get?_eq]
  available_eq := by cases r <;> exact h.available_eq

/-- Records with different keys may be written in either order. -/
theorem put_put (s : Store) {r r' : Record} (h : r.key ≠ r'.key) :
    ((s.put r).put r').IsLike ((s.put r').put r) where
  get?_eq kind id := by
    simp only [Store.get?_put]
    by_cases hr : r.kind = kind ∧ r.id = id
    · have hr' : ¬(r'.kind = kind ∧ r'.id = id) := fun hr' =>
        h (Prod.ext (hr.1.trans hr'.1.symm) (hr.2.trans hr'.2.symm))
      rw [if_pos hr, if_neg hr', if_pos hr]
    · rw [if_neg hr, if_neg hr]
  available_eq := by cases r <;> cases r' <;> rfl

/-- The same records may be written into stores that hold the same. -/
theorem foldl_put (h : s.IsLike s') (l : List Record) :
    (l.foldl Store.put s).IsLike (l.foldl Store.put s') := by
  induction l generalizing s s' with
  | nil => exact h
  | cons r l ih => exact ih (h.put r)

/-- **Records may be written in any order**, if no two have one key. -/
theorem of_perm {l m : List Record} (h : l.Perm m) (hl : (l.map Record.key).Nodup) (s : Store) :
    (l.foldl Store.put s).IsLike (m.foldl Store.put s) := by
  induction h generalizing s with
  | nil => exact .rfl
  | cons r _ ih => exact ih (List.nodup_cons.mp hl).2 (s.put r)
  | swap r r' l =>
      have hne : r'.key ≠ r.key := fun heq => (List.nodup_cons.mp hl).1 (heq ▸ List.mem_cons_self)
      exact (put_put s hne).foldl_put l
  | trans h₁ _ ih₁ ih₂ => exact (ih₁ hl s).trans (ih₂ ((h₁.map _).nodup_iff.mp hl) s)

end IsLike

end Store

namespace Search

section Congr

variable {p : Precision} {s s' : Store} (h : s.IsLike s') (hs : s.IsSound) (hs' : s'.IsSound)
include h hs hs'

/-- Records of stores that hold the same are read alike by identifiers. -/
theorem readSome_congr {ids ids' : List Text} (hids : ∀ i, i ∈ ids ↔ i ∈ ids') :
    readSome s.activitiesByIds ids = readSome s'.activitiesByIds ids' ∧
      readSome s.timeEntriesByIds ids = readSome s'.timeEntriesByIds ids' ∧
      readSome s.projectsByIds ids = readSome s'.projectsByIds ids' := by
  obtain ⟨ha, he, hp⟩ := h.perm_tables hs hs'
  have hempty : ids.isEmpty = ids'.isEmpty := by
    rw [Bool.eq_iff_iff, List.isEmpty_iff, List.isEmpty_iff, List.eq_nil_iff_forall_not_mem,
      List.eq_nil_iff_forall_not_mem]
    exact forall_congr' fun i => not_congr (hids i)
  unfold readSome Store.activitiesByIds Store.timeEntriesByIds Store.projectsByIds Store.reading
  rw [hempty, h.available_eq,
    Store.byIds_congr hs.activities hs'.activities Store.arranges_activities
      (fun _ _ => Activity.Precedes.id_eq) (fun _ => hs.complete_activity) ha hids,
    Store.byIds_congr hs.timeEntries hs'.timeEntries Store.arranges_timeEntries
      (fun _ _ => TimeEntry.Precedes.id_eq) (fun _ => hs.complete_timeEntry) he hids,
    Store.byIds_congr hs.projects hs'.projects Store.arranges_projects
      (fun _ _ => Project.Precedes.id_eq) (fun _ => hs.complete_project) hp hids]
  exact ⟨rfl, rfl, rfl⟩

/-- **Searches through the index** come to the same if the index finds the same. -/
theorem fast_congr {i i' : Index} (now : Moment) {q : Text}
    (hfind : ∀ kind id, id ∈ i.find kind q ↔ id ∈ i'.find kind q) (f : Panel) :
    fast p ⟨s, i, now⟩ q f = fast p ⟨s', i', now⟩ q f := by
  unfold fast
  dsimp only
  rw [(readSome_congr h hs hs' (hfind .activity)).1,
    (readSome_congr h hs hs' (hfind .timeEntry)).2.1,
    (readSome_congr h hs hs' (hfind .project)).2.2]

theorem projects_congr : s.projects = s'.projects := by
  have hvalues : s.projectTable.values.Perm s'.projectTable.values :=
    (h.perm_tables hs hs').2.2.map _
  unfold Store.projects Store.reading
  rw [h.available_eq, Store.arranges_projects.congr (fun _ _ => Project.Precedes.id_eq)
    (fun _ => hs.complete_project) hs.projects.nodup_map_values hvalues]

theorem queryProjects_congr (q : Query) : queryProjects s q = queryProjects s' q := by
  unfold queryProjects projectsNamed
  rw [projects_congr h hs hs']

/-- Records of stores that hold the same meet the criteria of a query alike. -/
theorem meeting_congr {f : Panel} (hf : f.HasBounds) (now : Moment) {q : Query}
    (hlengths : ∀ l ∈ q.lengths, ∃ x, l.seconds = .ofRat x) (ids : Option (List Text)) :
    s.activitiesMeeting p (activityCriteria q f now) =
        s'.activitiesMeeting p (activityCriteria q f now) ∧
      s.timeEntriesMeeting p (timeEntryCriteria q f now ids) =
        s'.timeEntriesMeeting p (timeEntryCriteria q f now ids) ∧
      s.projectsMeeting (projectCriteria q f) = s'.projectsMeeting (projectCriteria q f) := by
  obtain ⟨ha, he, hp⟩ := h.perm_tables hs hs'
  have hactivity :
      ∀ a ∈ s.activityTable.values, Tells ((activityCriteria q f now).admits p a) _ _ :=
    fun a ha => by
      obtain ⟨start, hstart⟩ := Option.isSome_iff_exists.mp (hs.complete_activity ha).settled
      exact (ActivityCriteria.tells (hs.complete_activity ha) hstart
        (time_tells hlengths hf start _)).self
  have htimeEntry : ∀ e ∈ s.timeEntryTable.values,
      Tells ((timeEntryCriteria q f now ids).admits p e) _ _ := fun e he =>
    (TimeEntryCriteria.tells (hs.complete_timeEntry he)
      (time_tells hlengths hf e.start (e.seconds p))).self
  have hproject : ∀ r ∈ s.projectTable.values, Tells ((projectCriteria q f).admits r) _ _ :=
    fun r hr => (Tells.of_eq (ProjectCriteria.admits_ok (hs.complete_project hr))).self
  have hactivities := Store.meeting_congr hs.activities Store.arranges_activities
    (fun _ _ => Activity.Precedes.id_eq) (fun _ => hs.complete_activity) ha hactivity
  have htimeEntries := Store.meeting_congr hs.timeEntries Store.arranges_timeEntries
    (fun _ _ => TimeEntry.Precedes.id_eq) (fun _ => hs.complete_timeEntry) he htimeEntry
  have hprojects := Store.meeting_congr hs.projects Store.arranges_projects
    (fun _ _ => Project.Precedes.id_eq) (fun _ => hs.complete_project) hp hproject
  refine ⟨?_, ?_, ?_⟩
  · unfold Store.activitiesMeeting Store.reading
    rw [h.available_eq]
    exact congrArg (fun x => if s'.available then x else _) hactivities
  · unfold Store.timeEntriesMeeting Store.reading
    rw [h.available_eq]
    exact congrArg (fun x => if s'.available then x else _) htimeEntries
  · unfold Store.projectsMeeting Store.reading
    rw [h.available_eq]
    exact congrArg (fun x => if s'.available then x else _) hprojects

/-- **Searches over the store** come to the same. -/
theorem full_congr {f : Panel} (hf : f.HasBounds) (i i' : Index) (now : Moment) (q : Text) :
    full p ⟨s, i, now⟩ q f = full p ⟨s', i', now⟩ q f := by
  unfold full fullActivities fullOthers
  dsimp only
  cases hread : Query.read p now q with
  | error fault => rfl
  | ok query =>
      have hmeeting := meeting_congr (p := p) h hs hs' hf now (Query.lengths_of_read hread)
      rw [ok_bind, ok_bind, queryProjects_congr h hs hs', (hmeeting none).1, (hmeeting none).2.2]
      simp only [fun ids => (hmeeting ids).2.1]

/-- **Searches come to the same**, on either path. -/
theorem run_congr {f : Panel} (hf : f.HasBounds) {i i' : Index} (now : Moment) {q : Text}
    (hfind : ∀ kind id, id ∈ i.find kind q ↔ id ∈ i'.find kind q) (path : SearchPath) :
    run p ⟨s, i, now⟩ q f path = run p ⟨s', i', now⟩ q f path := by
  cases path with
  | fast => exact fast_congr h hs hs' now hfind f
  | full => exact full_congr h hs hs' hf i i' now q

end Congr

/-! ## 4. Answers -/

section Answers

variable {p : Precision} {d d' : Desk} {s : Surroundings} {f : Panel} {q : Text}

/-- What is answered to a search is in order, and of the store. -/
theorem search_well_formed (hflaw : d.flaw p s = none) (hs : s.store.IsSound)
    (ha : s.store.available = true) (hf : f.HasBounds) (hkeyed : f.IsKeyed) (asked : Json) :
    ∃ res, (d.search p s asked q f none).2 = .ok res ∧ res.IsOrdered ∧
      ∀ r ∈ res.records, r ∈ s.store.records ∧ f.admits p s.now r = true := by
  cases hrun : run p (d.sources s) q f (Plan.path q f) with
  | ok r =>
      have hs' : (d.sources s).store.IsSound := hs
      have hordered : r.IsOrdered := run_isOrdered hs' hrun
      have hcurrent := run_current hs' ha hf hkeyed hrun
      rw [Desk.search_of_planned (planned_of_run hrun), hflaw]
      exact ⟨_, rfl, ⟨hordered.activities, hordered.timeEntries, hordered.projects, hordered.nodup,
        hordered.total⟩, hcurrent⟩
  | error fault =>
      rw [Desk.search_eq, planned_of_failed hrun]
      exact ⟨_, rfl, .of_nil rfl rfl rfl rfl, fun r hr => absurd hr List.not_mem_nil⟩

/-- **Stores that hold the same records give the same answer** without a cache, if the index finds
    the same. -/
theorem execute_congr {s' : Surroundings} (hcache : d.cache = none) (hcache' : d'.cache = none)
    (hflaw : d.flaw p s = none) (hflaw' : d'.flaw p s' = none) (hs : s.store.IsSound)
    (hs' : s'.store.IsSound) (hlike : s.store.IsLike s'.store) (hnow : s.now = s'.now)
    (hf : f.HasBounds) (hfind : ∀ kind q id, id ∈ d.index.find kind q ↔ id ∈ d'.index.find kind q)
    (hitems : d.index.size.items = d'.index.size.items) {t : Text}
    (hok : Desk.refusal p s.now t = .ok none) :
    (d.execute p s (.str t) f).2 = (d'.execute p s' (.str t) f).2 := by
  have hok' : Desk.refusal p s'.now t = .ok none := hnow ▸ hok
  by_cases hgoing : Query.normalize t ≠ [] ∨ f.isActive = true
  · have hrun := run_congr hlike hs hs' hf (p := p) s.now
      (fun kind => hfind kind (Query.normalize t)) (Plan.path (Query.normalize t) f)
    rw [Desk.execute_of_going hcache hok hgoing, Desk.execute_of_going hcache' hok' hgoing]
    refine Desk.search_of_alike _ _ none none (hflaw.trans hflaw'.symm) rfl (by rw [hitems])
      (hrun.trans ?_)
    rw [hnow]
    rfl
  · rw [not_or, not_not, Bool.not_eq_true] at hgoing
    rw [Desk.execute_of_nothing hok hgoing.1 hgoing.2,
      Desk.execute_of_nothing hok' hgoing.1 hgoing.2]

/-- **What is answered without a cache is well-formed**, whatever the index finds: records that the
    store has now under their keys and that meet the panel, each once, each kind by falling score
    and in the order of the store, and all of them counted. Stores that hold the same records give
    the same answer if the index finds the same. -/
theorem well_formed (p : Precision) {d : Desk} {s : Surroundings} (hcache : d.cache = none)
    (hflaw : d.flaw p s = none) (hs : s.store.IsSound) (ha : s.store.available = true) {f : Panel}
    (hf : f.HasBounds) (hkeyed : f.IsKeyed) {t : Text} (hok : Desk.refusal p s.now t = .ok none) :
    (∃ res, (d.execute p s (.str t) f).2 = .ok res ∧ res.IsOrdered ∧
      ∀ r ∈ res.records, s.store.get? r.kind r.id = some r ∧ f.admits p s.now r = true) ∧
    ∀ (d' : Desk) (store : Store), d'.cache = none → d'.flaw p s = none → store.IsSound →
      s.store.IsLike store →
      (∀ kind q id, id ∈ d.index.find kind q ↔ id ∈ d'.index.find kind q) →
      d.index.size.items = d'.index.size.items →
      (d.execute p s (.str t) f).2 = (d'.execute p { s with store } (.str t) f).2 := by
  refine ⟨?_, fun d' store hcache' hflaw' hs' hlike hfind hitems => ?_⟩
  · by_cases hgoing : Query.normalize t ≠ [] ∨ f.isActive = true
    · rw [Desk.execute_of_going hcache hok hgoing]
      obtain ⟨res, hres, hordered, hcurrent⟩ :=
        search_well_formed (q := Query.normalize t) hflaw hs ha hf hkeyed (.str t)
      exact ⟨res, hres, hordered, fun r hr => (hcurrent r hr).imp_left hs.mem_records.mp⟩
    · rw [not_or, not_not, Bool.not_eq_true] at hgoing
      rw [Desk.execute_of_nothing hok hgoing.1 hgoing.2]
      exact ⟨_, rfl, .of_nil rfl rfl rfl rfl, fun r hr => absurd hr List.not_mem_nil⟩
  · have hflaw'' : d'.flaw p { s with store } = none := hflaw'
    have hs'' : ({ s with store } : Surroundings).store.IsSound := hs'
    exact execute_congr hcache hcache' hflaw hflaw'' hs hs'' hlike rfl hf hfind hitems hok

/-- Two projects with names that are equal in lower case, put into the store in either order: both
    are found, in the same order. -/
theorem well_formed_either_order :
    let qa : Record := .project ⟨"p1".toList, .str "QA".toList, .null⟩
    let qa' : Record := .project ⟨"p2".toList, .str "qa".toList, .null⟩
    let d : Desk := { Session.newDesk {} default with cache := none }
    let s : Surroundings := { oneProject with store := (Store.empty.put qa).put qa' }
    ∃ res, (d.execute .double s (.str "qa \"\"".toList) .blank).2 = .ok res ∧
      res.records.Perm [qa, qa'] ∧ res.total = 2 ∧ res.IsOrdered ∧
      (∀ r ∈ res.records, s.store.get? r.kind r.id = some r) ∧
      (d.execute .double { s with store := (Store.empty.put qa').put qa }
        (.str "qa \"\"".toList) .blank).2 = .ok res := by
  intro qa qa' d s
  have hqa : qa.IsComplete := by decide
  have hqa' : qa'.IsComplete := by decide
  have hs : s.store.IsSound := (Store.IsSound.empty.put hqa).put hqa'
  have hs' : ((Store.empty.put qa').put qa).IsSound := (Store.IsSound.empty.put hqa').put hqa
  have hflaw : d.flaw .double s = none :=
    Desk.flaw_eq_none (Metrics.isMeasured_start _) (x := .finite 0) rfl
  obtain ⟨⟨res, hres, hordered, hcurrent⟩, hlike⟩ := well_formed .double (d := d) (s := s) rfl hflaw
    hs rfl (f := .blank) (by decide) Panel.isKeyed_blank (t := "qa \"\"".toList) (by decide +kernel)
  have hne : qa.key ≠ qa'.key := by decide
  have hsame := hlike d ((Store.empty.put qa').put qa) rfl hflaw hs' (.put_put _ hne)
    (fun _ _ _ => Iff.rfl) rfl
  have hread : Query.read .double s.now (Query.normalize "qa \"\"".toList) =
      .ok { Query.blank with texts := ["qa".toList] } := by decide +kernel
  -- either project is asked for by the text, and so in what is answered
  have hasks : ∀ r ∈ [qa, qa'], r ∈ res.records := fun r hr => by
    have hasked : Asked .double s.now s.store { Query.blank with texts := ["qa".toList] }
        .blank r := by
      rcases List.mem_pair.mp hr with rfl | rfl
      · exact ⟨⟨rfl, Or.inl rfl, Or.inl rfl⟩, fun _ hspan => (nomatch hspan), by decide, by decide⟩
      · exact ⟨⟨rfl, Or.inl rfl, Or.inl rfl⟩, fun _ hspan => (nomatch hspan), by decide, by decide⟩
    obtain ⟨res', hres', hmem⟩ := answered_of_asked (d := d) (s := s) rfl hflaw hs rfl
      (f := .blank) (by decide) (t := "qa \"\"".toList) (by decide +kernel) Panel.isKeyed_blank
      (Or.inl (by decide +kernel)) (by decide +kernel) hread rfl hr hasked
    cases hres.symm.trans hres'
    exact hmem
  have hstored : ∀ r ∈ res.records, r ∈ [qa, qa'] := fun r hr =>
    hs.mem_records.mpr (hcurrent r hr).1
  have hboth : res.records.Perm [qa, qa'] :=
    (List.perm_ext_iff_of_nodup (.of_map _ hordered.nodup)
      (.of_map Record.key (by decide))).mpr fun r => ⟨hstored r, hasks r⟩
  exact ⟨res, hres, hboth, hordered.total.trans hboth.length_eq, hordered,
    fun r hr => (hcurrent r hr).1, hsame.symm.trans hres⟩

end Answers

end Search

end Worklog
