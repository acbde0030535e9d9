import Worklog.Proofs.Search.Ranking
import Worklog.Proofs.Text.Order

/-!
# The order of results

The store lists records in an order that its own tables do not show: activities and time entries
newest first, projects by name, and by identifier where that does not decide. Ranking sorts again,
by score, and is stable, so the order of the store decides between equal scores. This holds however
a search is carried out and whatever it finds:

* `Activity.Precedes`, `TimeEntry.Precedes`, `Project.Precedes`: the order of the store;
* `Store.pairwise_activities`, `Store.pairwise_timeEntries`, `Store.pairwise_projects`: **lists that
  are sorted by it**;
* **`Score.pairwise_ranked`**: what is ranked is sorted by score, and equals as they were;
* `Results.IsOrdered`, **`Search.isOrdered_rank`**: the results of a search.
-/

namespace Worklog

/-! ## 1. The order of the store -/

/-- Newest first, and among activities that start together the greater identifier first. -/
def Activity.Precedes (a b : Activity) : Prop :=
  ∃ s t, a.start = some s ∧ b.start = some t ∧
    (t.micros < s.micros ∨ s = t ∧ Text.le b.id a.id = true)

/-- Newest first, and among time entries that start together the greater identifier first. -/
def TimeEntry.Precedes (a b : TimeEntry) : Prop :=
  b.start.micros < a.start.micros ∨ a.start = b.start ∧ Text.le b.id a.id = true

/-- By lower-cased name, and among equal names the smaller identifier first. -/
def Project.Precedes (a b : Project) : Prop :=
  Text.lt (Text.lower a.name.textD) (Text.lower b.name.textD) = true ∨
    Text.lower a.name.textD = Text.lower b.name.textD ∧ Text.le a.id b.id = true

namespace Store

theorem newestFirst_iff {a b : Moment × Text} : newestFirst a b = true ↔
    b.1.micros < a.1.micros ∨ a.1 = b.1 ∧ Text.le b.2 a.2 = true := by
  simp [newestFirst, Moment.lt]

theorem byName_iff {a b : Text × Text} : byName a b = true ↔
    Text.lt a.1 b.1 = true ∨ a.1 = b.1 ∧ Text.le a.2 b.2 = true := by
  simp [byName]

/-- What precedes each other has the same identifier. -/
theorem newestFirst_antisymm {a b : Moment × Text} (hab : newestFirst a b = true)
    (hba : newestFirst b a = true) : a.2 = b.2 := by
  rw [newestFirst_iff] at hab hba
  rcases hab with hab | ⟨hstart, hab⟩
  · rcases hba with hba | ⟨hstart, -⟩
    · exact absurd hab (Nat.lt_asymm hba)
    · rw [hstart] at hab
      exact absurd hab (Nat.lt_irrefl _)
  · rcases hba with hba | ⟨-, hba⟩
    · rw [hstart] at hba
      exact absurd hba (Nat.lt_irrefl _)
    · exact Text.le_antisymm hba hab

theorem byName_antisymm {a b : Text × Text} (hab : byName a b = true) (hba : byName b a = true) :
    a.2 = b.2 := by
  have hirrefl : ∀ t : Text, ¬ Text.lt t t = true := fun t ht => (Text.lt_iff.mp ht).2 rfl
  rw [byName_iff] at hab hba
  rcases hab with hab | ⟨hname, hab⟩
  · rcases hba with hba | ⟨hname, -⟩
    · exact absurd (Text.lt_trans hab hba) (hirrefl _)
    · rw [hname] at hab
      exact absurd hab (hirrefl _)
  · rcases hba with hba | ⟨-, hba⟩
    · rw [hname] at hba
      exact absurd hba (hirrefl _)
    · exact Text.le_antisymm hab hba

theorem newestFirst_trans {a b c : Moment × Text} (hab : newestFirst a b = true)
    (hbc : newestFirst b c = true) : newestFirst a c = true := by
  rw [newestFirst_iff] at hab hbc ⊢
  rcases hab with hab | ⟨hab, hid⟩
  · rcases hbc with hbc | ⟨hbc, -⟩
    · exact Or.inl (Nat.lt_trans hbc hab)
    · exact Or.inl (hbc ▸ hab)
  · rcases hbc with hbc | ⟨hbc, hid'⟩
    · exact Or.inl (hab ▸ hbc)
    · exact Or.inr ⟨hab.trans hbc, Text.le_trans hid' hid⟩

theorem newestFirst_total (a b : Moment × Text) : (newestFirst a b || newestFirst b a) = true := by
  rw [Bool.or_eq_true, newestFirst_iff, newestFirst_iff]
  rcases Nat.lt_trichotomy b.1.micros a.1.micros with h | h | h
  · exact Or.inl (Or.inl h)
  · have hstart : a.1 = b.1 := Moment.ext_micros h.symm
    rcases Bool.or_eq_true_iff.mp (Text.le_total b.2 a.2) with hid | hid
    · exact Or.inl (Or.inr ⟨hstart, hid⟩)
    · exact Or.inr (Or.inr ⟨hstart.symm, hid⟩)
  · exact Or.inr (Or.inl h)

theorem byName_trans {a b c : Text × Text} (hab : byName a b = true) (hbc : byName b c = true) :
    byName a c = true := by
  rw [byName_iff] at hab hbc ⊢
  rcases hab with hab | ⟨hab, hid⟩
  · rcases hbc with hbc | ⟨hbc, -⟩
    · exact Or.inl (Text.lt_trans hab hbc)
    · exact Or.inl (hbc ▸ hab)
  · rcases hbc with hbc | ⟨hbc, hid'⟩
    · exact Or.inl (hab ▸ hbc)
    · exact Or.inr ⟨hab.trans hbc, Text.le_trans hid hid'⟩

theorem byName_total (a b : Text × Text) : (byName a b || byName b a) = true := by
  rw [Bool.or_eq_true, byName_iff, byName_iff]
  by_cases h : a.1 = b.1
  · rcases Bool.or_eq_true_iff.mp (Text.le_total a.2 b.2) with hid | hid
    · exact Or.inl (Or.inr ⟨h, hid⟩)
    · exact Or.inr (Or.inr ⟨h.symm, hid⟩)
  · rcases Bool.or_eq_true_iff.mp (Text.le_total a.1 b.1) with hle | hle
    · exact Or.inl (Or.inl (Text.lt_iff.mpr ⟨hle, h⟩))
    · exact Or.inr (Or.inl (Text.lt_iff.mpr ⟨hle, Ne.symm h⟩))

end Store

/-- Activities of which each precedes the other have the same identifier. -/
theorem Activity.Precedes.id_eq {a b : Activity} (hab : a.Precedes b) (hba : b.Precedes a) :
    a.id = b.id := by
  obtain ⟨s, t, hs, ht, hab⟩ := hab
  obtain ⟨t', s', ht', hs', hba⟩ := hba
  obtain rfl : s = s' := Option.some.inj (hs.symm.trans hs')
  obtain rfl : t = t' := Option.some.inj (ht.symm.trans ht')
  exact Store.newestFirst_antisymm (a := (s, a.id)) (b := (t, b.id))
    (Store.newestFirst_iff.mpr hab) (Store.newestFirst_iff.mpr hba)

theorem TimeEntry.Precedes.id_eq {a b : TimeEntry} (hab : a.Precedes b) (hba : b.Precedes a) :
    a.id = b.id :=
  Store.newestFirst_antisymm (a := (a.start, a.id)) (b := (b.start, b.id))
    (Store.newestFirst_iff.mpr hab) (Store.newestFirst_iff.mpr hba)

theorem Project.Precedes.id_eq {a b : Project} (hab : a.Precedes b) (hba : b.Precedes a) :
    a.id = b.id :=
  Store.byName_antisymm (a := (Text.lower a.name.textD, a.id))
    (b := (Text.lower b.name.textD, b.id)) (Store.byName_iff.mpr hab) (Store.byName_iff.mpr hba)

/-! ## 2. Sorted lists -/

namespace Store

/-- Sorting activities keeps them all, newest first; where no start is known the identifier
    decides. -/
theorem newestFirst_activities {as l : List Activity} (h : sortActivities as = .ok l) :
    l.Perm as ∧ l.Pairwise fun a b =>
      newestFirst (a.start.getD default, a.id) (b.start.getD default, b.id) = true := by
  obtain ⟨-, -, h⟩ := bind_eq_ok.mp h
  cases h
  refine ⟨List.mergeSort_perm _ _, ?_⟩
  apply List.pairwise_mergeSort
  · exact fun _ _ _ => newestFirst_trans
  · exact fun _ _ => newestFirst_total _ _

/-- **Activities that are sorted** are in the order of the store. -/
theorem pairwise_activities {as l : List Activity} (h : sortActivities as = .ok l)
    (has : ∀ a ∈ as, (Record.activity a).IsComplete) : l.Pairwise Activity.Precedes := by
  obtain ⟨hperm, hsorted⟩ := newestFirst_activities h
  refine hsorted.imp_of_mem fun {a b} ha hb hab => ?_
  obtain ⟨s, hs⟩ := Option.isSome_iff_exists.mp (has a (hperm.mem_iff.mp ha)).settled
  obtain ⟨t, ht⟩ := Option.isSome_iff_exists.mp (has b (hperm.mem_iff.mp hb)).settled
  rw [hs, ht, newestFirst_iff] at hab
  exact ⟨s, t, hs, ht, hab⟩

/-- **Time entries that are sorted** are in the order of the store. -/
theorem pairwise_timeEntries (es : List TimeEntry) :
    (sortTimeEntries es).Pairwise TimeEntry.Precedes := by
  let newer := fun a b : TimeEntry => newestFirst (a.start, a.id) (b.start, b.id)
  have hsorted : (es.mergeSort newer).Pairwise fun a b => newer a b = true := by
    apply List.pairwise_mergeSort
    · exact fun _ _ _ => newestFirst_trans
    · exact fun _ _ => newestFirst_total _ _
  exact hsorted.imp newestFirst_iff.mp

/-- **Projects that are sorted** are in the order of the store. -/
theorem pairwise_projects {ps l : List Project} (h : sortProjects ps = .ok l)
    (hps : ∀ r ∈ ps, r.name = .str r.name.textD) : l.Pairwise Project.Precedes := by
  rw [sortProjects_ok hps] at h
  cases h
  let before := fun a b : Project =>
    byName (Text.lower a.name.textD, a.id) (Text.lower b.name.textD, b.id)
  have hsorted : (ps.mergeSort before).Pairwise fun a b => before a b = true := by
    apply List.pairwise_mergeSort
    · exact fun _ _ _ => byName_trans
    · exact fun _ _ => byName_total _ _
  exact hsorted.imp byName_iff.mp

end Store

/-! ## 3. The order of ranks -/

/-- By falling score, and among equal scores as something else decides. -/
def Scored.Precedes {α : Type} (ties : α → α → Prop) (a b : Scored α) : Prop :=
  b.score < a.score ∨ a.score = b.score ∧ ties a.item b.item

namespace Score

variable {α : Type} {ties : α → α → Prop}

/-- **Sorting by score is stable**: equals are left as they were. -/
theorem pairwise_sorted : ∀ {items : List (Scored α)},
    items.Pairwise (fun a b => ties a.item b.item) →
      (sorted items).Pairwise (Scored.Precedes ties)
  | [], _ => by
      rw [sorted, List.mergeSort_nil]
      exact .nil
  | a :: items, h => by
      have htrans : ∀ x y z : Scored α, decide (y.score ≤ x.score) = true →
          decide (z.score ≤ y.score) = true → decide (z.score ≤ x.score) = true :=
        fun _ _ _ hxy hyz => by
          rw [decide_eq_true_eq] at hxy hyz ⊢
          exact Rat.le_trans hyz hxy
      have htotal : ∀ x y : Scored α,
          (decide (y.score ≤ x.score) || decide (x.score ≤ y.score)) = true := fun x y => by
        rw [Bool.or_eq_true, decide_eq_true_eq, decide_eq_true_eq]
        exact Rat.le_total
      obtain ⟨before, behind, hcons, hrest, hfirst⟩ := List.mergeSort_cons htrans htotal a items
      obtain ⟨hties, hitems⟩ := List.pairwise_cons.mp h
      have ih : (before ++ behind).Pairwise (Scored.Precedes ties) :=
        hrest ▸ pairwise_sorted hitems
      obtain ⟨hbefore, hbehind, hacross⟩ := List.pairwise_append.mp ih
      have hfalls := List.pairwise_mergeSort htrans htotal (a :: items)
      rw [hcons] at hfalls
      -- what stays in front has a greater score, and what comes behind no greater one
      have hfront : ∀ b ∈ before, Scored.Precedes ties b a := fun b hb => by
        have hlt := hfirst b hb
        rw [Bool.not_eq_true', decide_eq_false_iff_not, Rat.not_le] at hlt
        exact Or.inl hlt
      have hback : ∀ b ∈ behind, Scored.Precedes ties a b := fun b hb => by
        have hle : b.score ≤ a.score := of_decide_eq_true
          ((List.pairwise_cons.mp (List.pairwise_append.mp hfalls).2.1).1 b hb)
        have hmem : b ∈ items := List.mem_mergeSort.mp (hrest ▸ List.mem_append_right before hb)
        rcases Rat.le_iff_lt_or_eq.mp hle with hlt | heq
        · exact Or.inl hlt
        · exact Or.inr ⟨heq.symm, hties b hmem⟩
      rw [sorted, hcons]
      refine List.pairwise_append.mpr ⟨hbefore, List.pairwise_cons.mpr ⟨hback, hbehind⟩, ?_⟩
      intro b hb c hc
      rcases List.mem_cons.mp hc with rfl | hc
      · exact hfront b hb
      · exact hacross b hb c hc

/-- Items keep their places while they are scored. -/
theorem map_item_scored {score : α → Except Fault Rat} : ∀ {items : List α} {l : List (Scored α)},
    scored score items = .ok l → l.map (·.item) = items
  | [], _, h => by
      cases h
      rfl
  | a :: items, l, h => by
      unfold scored at h
      rw [List.mapM_cons] at h
      obtain ⟨first, hfirst, h⟩ := bind_eq_ok.mp h
      obtain ⟨rest, hrest, h⟩ := bind_eq_ok.mp h
      obtain ⟨x, -, hfirst⟩ := bind_eq_ok.mp hfirst
      cases hfirst
      cases h
      exact congrArg (a :: ·) (map_item_scored hrest)

/-- **What is ranked** is sorted by score, and equals as they were. -/
theorem pairwise_ranked {score : α → Except Fault Rat} {items : List α} {l : List (Scored α)}
    (h : ranked score items = .ok l) (hitems : items.Pairwise ties) :
    l.Pairwise (Scored.Precedes ties) := by
  obtain ⟨given, hgiven, h⟩ := bind_eq_ok.mp h
  cases h
  rw [← map_item_scored hgiven] at hitems
  exact pairwise_sorted (List.pairwise_map.mp hitems)

/-- Ranking neither adds nor drops an item. -/
theorem perm_ranked {score : α → Except Fault Rat} {items : List α} {l : List (Scored α)}
    (h : ranked score items = .ok l) : (l.map (·.item)).Perm items := by
  obtain ⟨given, hgiven, h⟩ := bind_eq_ok.mp h
  cases h
  rw [← map_item_scored hgiven]
  exact (sorted_perm given).map _

end Score

/-! ## 4. Results -/

/-- The records of results, kind by kind. -/
theorem Results.records_eq (r : Results) : r.records =
    (r.activities.map (·.item)).map .activity ++ (r.timeEntries.map (·.item)).map .timeEntry ++
      (r.projects.map (·.item)).map .project := by
  unfold records scored
  simp only [List.map_append, List.map_map]
  rfl

/-- **Results in order**: each kind by falling score, then in the order of the store, no record
    twice, and all of them counted. -/
structure Results.IsOrdered (r : Results) : Prop where
  activities : r.activities.Pairwise (Scored.Precedes Activity.Precedes)
  timeEntries : r.timeEntries.Pairwise (Scored.Precedes TimeEntry.Precedes)
  projects : r.projects.Pairwise (Scored.Precedes Project.Precedes)
  nodup : (r.records.map Record.key).Nodup
  total : r.total = r.records.length

/-- Results without records are in order. -/
theorem Results.IsOrdered.of_nil {r : Results} (ha : r.activities = []) (he : r.timeEntries = [])
    (hp : r.projects = []) (ht : r.total = 0) : r.IsOrdered := by
  have hrecords : r.records = [] := by
    rw [Results.records_eq, ha, he, hp]
    rfl
  exact ⟨ha ▸ .nil, he ▸ .nil, hp ▸ .nil, hrecords ▸ .nil, by rw [hrecords, ht]; rfl⟩

/-- A list of records of one kind as the store lists them: in its order, and none twice. -/
structure Lists {α : Type} (id : α → Text) (precedes : α → α → Prop) (l : List α) : Prop where
  sorted : l.Pairwise precedes
  nodup : (l.map id).Nodup

/-- **The results of a search are in order** if the lists that are ranked are. -/
theorem Search.isOrdered_rank {p : Precision} {text : Text} {now : Moment} {as : List Activity}
    {es : List TimeEntry} {ps : List Project} (has : Lists Activity.id Activity.Precedes as)
    (hes : Lists TimeEntry.id TimeEntry.Precedes es) (hps : Lists Project.id Project.Precedes ps)
    {res : Results} (h : rank p text now as es ps = .ok res) : res.IsOrdered := by
  obtain ⟨la, hla, h⟩ := bind_eq_ok.mp h
  obtain ⟨le, hle, h⟩ := bind_eq_ok.mp h
  obtain ⟨lp, hlp, h⟩ := bind_eq_ok.mp h
  cases h
  refine ⟨Score.pairwise_ranked hla has.sorted, Score.pairwise_ranked hle hes.sorted,
    Score.pairwise_ranked hlp hps.sorted, ?_, ?_⟩
  · rw [Results.records_eq]
    exact Store.nodup_keys_append (((Score.perm_ranked hla).map _).nodup_iff.mpr has.nodup)
      (((Score.perm_ranked hle).map _).nodup_iff.mpr hes.nodup)
      (((Score.perm_ranked hlp).map _).nodup_iff.mpr hps.nodup)
  · rw [Results.records_eq]
    simp only [List.length_append, List.length_map]
    rfl

end Worklog
