import Mathlib.Algebra.Order.BigOperators.Group.List
import Mathlib.Algebra.Order.Field.Rat
import Mathlib.Tactic.Linarith
import Mathlib.Tactic.NormNum
import Worklog.Proofs.Criteria
import Worklog.Proofs.Search.Order
import Worklog.Proofs.Text.Casing

/-!
# Texts count more than bonuses

The score of a record is what its fields count for the text, and a bonus for a recent start, for a
long duration or for a project without a parent. In exact arithmetic it is their sum. A field that
contains the text counts 20 at least, and a bonus is 15 at most, whenever the record starts and
however long it lasts. So the bonus decides only between records that both contain the text, or
both do not:

* `Score.ofFields_exact`: what the fields of a record count is a sum over the fields;
* `Score.twenty_le_count`, `Score.count_eq_zero`: what it is with the text and without it;
* **`Score.record_exact`**: a score is that sum and a bonus within bounds;
* `Score.ranksFirst_of_lt`: what scores higher is ranked first;
* **`Score.texts_dominate`**: records that contain the text score higher and are ranked first.
-/

namespace Worklog.Score

open Text (lower)

variable {needle text : Text} {r : Record}

/-! ## 1. Fields -/

theorem weight_spec (f : Field) :
    20 ≤ (weight f).contained ∧ (weight f).contained ≤ (weight f).equal := by
  cases f with
  | _ => decide

/-- A field that does not contain the text counts nothing. -/
theorem ofField_eq_zero {f : Field × Text} (h : f.2 ≠ [] → ¬ needle <:+: lower f.2) :
    ofField needle f = 0 := by
  by_cases hempty : f.2 = []
  · simp [ofField, hempty]
  · have hno : Text.occursIn needle (lower f.2) = false :=
      Bool.eq_false_iff.mpr fun e => h hempty (Text.occursIn_iff.mp e)
    simp [ofField, hno]

/-- **A field that contains the text** counts what its weight says, which is 20 at least. -/
theorem twenty_le_ofField {f : Field × Text} (hne : needle ≠ [])
    (h : needle <:+: lower f.2) : 20 ≤ ofField needle f := by
  have htext : f.2 ≠ [] := fun e => hne (List.infix_nil.mp (by rwa [e] at h))
  obtain ⟨hcontained, hequal⟩ := weight_spec f.1
  unfold ofField
  dsimp only
  rw [List.isEmpty_eq_false_iff.mpr hne, List.isEmpty_eq_false_iff.mpr htext,
    Text.occursIn_iff.mpr h]
  split
  · contradiction
  · split
    · exact le_trans hcontained hequal
    · exact hcontained

theorem ofField_bounds (needle : Text) (f : Field × Text) :
    0 ≤ ofField needle f ∧ ofField needle f ≤ (weight f.1).equal := by
  obtain ⟨hcontained, hequal⟩ := weight_spec f.1
  unfold ofField
  dsimp only
  split
  · constructor <;> linarith
  · split
    · constructor <;> linarith
    · constructor <;> linarith

/-! ## 2. Records -/

/-- What the fields of a record count for a text. -/
def count (text : Text) (r : Record) : Rat :=
  (r.fields.map fun f => ofField (lower text) (f.1, f.2.textD)).sum

/-- **In exact arithmetic the fields count one by one.** -/
theorem ofFields_exact (h : r.HasTexts) (text : Text) :
    ofFields .exact text r = .ok (count text r) := by
  unfold ofFields count
  dsimp only
  split
  next hempty =>
    have hnone : ∀ x ∈ r.fields.map fun f => ofField (lower text) (f.1, f.2.textD), x = 0 := by
      intro x hx
      obtain ⟨f, -, rfl⟩ := List.mem_map.mp hx
      simp [ofField, hempty]
    rw [List.sum_eq_zero hnone]
    rfl
  next =>
    have hsum : Precision.exact.add = fun a b => a + b := rfl
    rw [Record.texts_ok h, hsum]
    show Except.ok _ = Except.ok _
    rw [List.map_map, ← List.sum_eq_foldl]
    rfl

theorem count_bounds (text : Text) (r : Record) : 0 ≤ count text r ∧
    count text r ≤ (r.kind.fields.map fun f => (weight f).equal).sum := by
  constructor
  · refine List.sum_nonneg fun x hx => ?_
    obtain ⟨f, -, rfl⟩ := List.mem_map.mp hx
    exact (ofField_bounds _ _).1
  · rw [← r.map_fst_fields, List.map_map]
    exact List.sum_le_sum fun f _ => (ofField_bounds _ _).2

theorem twenty_le_count (hne : text ≠ []) (h : r.Contains (lower text)) :
    20 ≤ count text r := by
  obtain ⟨t, ht, -, hcontains⟩ := h
  obtain ⟨f, hf, rfl⟩ := List.mem_map.mp ht
  have hneedle : lower text ≠ [] := fun e => hne (Text.lowerFrom_eq_nil e)
  refine le_trans (twenty_le_ofField (f := (f.1, f.2.textD)) hneedle hcontains) ?_
  refine List.single_le_sum (fun x hx => ?_) _ (List.mem_map_of_mem hf)
  obtain ⟨g, -, rfl⟩ := List.mem_map.mp hx
  exact (ofField_bounds _ _).1

theorem count_eq_zero (h : ¬ r.Contains (lower text)) : count text r = 0 := by
  refine List.sum_eq_zero fun x hx => ?_
  obtain ⟨f, hf, rfl⟩ := List.mem_map.mp hx
  exact ofField_eq_zero fun hne hcontains => h ⟨_, List.mem_map_of_mem hf, hne, hcontains⟩

/-! ## 3. Bonuses -/

theorem recency_bounds (p : Precision) (now start : Moment) :
    0 ≤ recency p now start ∧ recency p now start ≤ 10 := by
  refine ⟨?_, Number.atMost_le _ _⟩
  unfold recency Number.atMost
  dsimp only
  split
  · exact Number.le_atLeast _ _
  · decide

theorem length_bounds {seconds : Rat} (h : 0 ≤ seconds) :
    0 ≤ length .exact seconds ∧ length .exact seconds ≤ 5 := by
  refine ⟨?_, Number.atMost_le _ _⟩
  unfold length Number.atMost
  split
  · rw [Precision.exact_div]
    exact div_nonneg h (by decide)
  · decide

/-- A time entry lasts some time. -/
theorem timeEntry_seconds_nonneg (e : TimeEntry) : 0 ≤ e.seconds .exact := by
  have hlt : e.start.micros < e.finish.micros := of_decide_eq_true e.start_lt_finish
  have hsince : (0 : Int) ≤ e.finish.since e.start := by
    unfold Moment.since
    omega
  show (0 : Rat) ≤ (e.finish.since e.start : Int) / 1000000
  exact div_nonneg (Int.cast_nonneg hsince) (by decide)

/-- The greatest bonus of a kind of records. -/
def maxBonus : RecordKind → Rat
  | .activity => 15
  | .timeEntry => 15
  | .project => 5

/-- **The score of a complete record**, in exact arithmetic, is what its fields count and a
    bonus. -/
theorem record_exact (h : r.IsComplete) (text : Text) (now : Moment) :
    ∃ bonus, record .exact text now r = .ok (count text r + bonus) ∧ 0 ≤ bonus ∧
      bonus ≤ maxBonus r.kind := by
  have hfields := ofFields_exact h.texts text
  cases r with
  | activity a =>
      obtain ⟨start, hstart⟩ := Option.isSome_iff_exists.mp h.settled
      have hbegin : a.begin = .ok start := by
        unfold Activity.begin
        rw [hstart]
      obtain ⟨hrecent, hrecent'⟩ := recency_bounds .exact now start
      obtain ⟨hlong, hlong'⟩ := length_bounds
        (Number.le_atLeast 0 (Precision.exact.seconds ((a.finish.getD now).since start)))
      refine ⟨_ + _, ?_, add_nonneg hrecent hlong, ?_⟩
      · show activity .exact text now a = _
        unfold activity Activity.seconds
        rw [hfields, hbegin]
        exact congrArg Except.ok (add_assoc _ _ _)
      · show _ ≤ (15 : Rat)
        linarith
  | timeEntry e =>
      obtain ⟨hrecent, hrecent'⟩ := recency_bounds .exact now e.start
      obtain ⟨hlong, hlong'⟩ := length_bounds (timeEntry_seconds_nonneg e)
      refine ⟨_ + _, ?_, add_nonneg hrecent hlong, ?_⟩
      · show timeEntry .exact text now e = _
        unfold timeEntry
        rw [hfields]
        exact congrArg Except.ok (add_assoc _ _ _)
      · show _ ≤ (15 : Rat)
        linarith
  | project q =>
      refine ⟨if q.isRoot then rootBonus else 0, ?_, ?_, ?_⟩
      · show project .exact text q = _
        unfold project
        rw [hfields]
        rfl
      · split
        · show (0 : Rat) ≤ 5
          decide
        · exact le_refl 0
      · show _ ≤ (5 : Rat)
        split
        · exact le_refl _
        · decide

/-- A complete record that contains the text scores higher than one that does not. -/
theorem record_lt {s : Record} (now : Moment) (hne : text ≠ []) (hr : r.IsComplete)
    (hs : s.IsComplete) (hcontains : r.Contains (lower text)) (hnot : ¬ s.Contains (lower text)) :
    ∃ x y, record .exact text now r = .ok x ∧ record .exact text now s = .ok y ∧ y < x := by
  obtain ⟨bonus, hx, hbonus, -⟩ := record_exact hr text now
  obtain ⟨bonus', hy, -, hbonus'⟩ := record_exact hs text now
  refine ⟨_, _, hx, hy, ?_⟩
  have hcount := twenty_le_count hne hcontains
  have hmost : maxBonus s.kind ≤ 15 := by
    cases s.kind with
    | _ => decide
  rw [count_eq_zero hnot]
  linarith

/-- The greatest score of a kind of records: all fields are equal to the text, and the bonus is the
    greatest. -/
def maxScore (k : RecordKind) : Rat := (k.fields.map fun f => (weight f).equal).sum + maxBonus k

theorem maxScore_activity : maxScore .activity = 240 := by
  norm_num [maxScore, RecordKind.fields, weight, maxBonus]

theorem maxScore_timeEntry : maxScore .timeEntry = 145 := by
  norm_num [maxScore, RecordKind.fields, weight, maxBonus]

/-- The score of a complete record is not negative and within that of its kind. -/
theorem record_bounds (h : r.IsComplete) (text : Text) (now : Moment) :
    ∃ x, record .exact text now r = .ok x ∧ 0 ≤ x ∧ x ≤ maxScore r.kind := by
  obtain ⟨bonus, hx, hleast, hmost⟩ := record_exact h text now
  obtain ⟨hcount, hcount'⟩ := count_bounds text r
  exact ⟨_, hx, add_nonneg hcount hleast, add_le_add hcount' hmost⟩

/-! ## 4. Ranks -/

section Ranks

variable {α : Type} {score : α → Except Fault Rat} {P : α → Prop} {items : List α}

/-- **A ranked list has in front what a condition picks**, and behind it the rest. -/
def RanksFirst (score : α → Except Fault Rat) (P : α → Prop) (items : List α) : Prop :=
  ∃ front back, ranked score items = .ok (front ++ back) ∧
    ((front ++ back).map (·.item)).Perm items ∧ (∀ s ∈ front, P s.item) ∧ ∀ s ∈ back, ¬ P s.item

/-- Where nothing that a condition picks has the rest before it, a list can be cut in two. -/
theorem exists_cut {β : Type} {Q : β → Prop} : ∀ {l : List β},
    (l.Pairwise fun a b => Q b → Q a) →
      ∃ front back, l = front ++ back ∧ (∀ a ∈ front, Q a) ∧ ∀ b ∈ back, ¬ Q b
  | [], _ =>
      ⟨[], [], rfl, fun _ h => absurd h List.not_mem_nil, fun _ h => absurd h List.not_mem_nil⟩
  | a :: l, h => by
      obtain ⟨ha, hl⟩ := List.pairwise_cons.mp h
      by_cases hQ : Q a
      · obtain ⟨front, back, rfl, hfront, hback⟩ := exists_cut hl
        exact ⟨a :: front, back, rfl, List.forall_mem_cons.mpr ⟨hQ, hfront⟩, hback⟩
      · exact ⟨[], a :: l, rfl, fun _ h => absurd h List.not_mem_nil,
          List.forall_mem_cons.mpr ⟨hQ, fun b hb hb' => hQ (ha b hb hb')⟩⟩

/-- **What scores higher is ranked first.** -/
theorem ranksFirst_of_lt (hok : ∀ a ∈ items, ∃ x, score a = .ok x)
    (hlt : ∀ a ∈ items, ∀ b ∈ items, P a → ¬ P b →
      ∃ x y, score a = .ok x ∧ score b = .ok y ∧ y < x) : RanksFirst score P items := by
  obtain ⟨l, hranked, hmem⟩ := ranked_ok hok
  have hfalls : l.Pairwise (Scored.Precedes fun _ _ => True) :=
    pairwise_ranked hranked (List.pairwise_of_forall fun _ _ => trivial)
  have hfirst : l.Pairwise fun s t => P t.item → P s.item := by
    refine hfalls.imp_of_mem fun {s t} hs ht hst hPt => ?_
    by_contra hPs
    obtain ⟨hsitem, hsscore⟩ := (hmem s).mp hs
    obtain ⟨htitem, htscore⟩ := (hmem t).mp ht
    obtain ⟨x, y, hx, hy, hyx⟩ := hlt _ htitem _ hsitem hPt hPs
    rw [htscore] at hx
    rw [hsscore] at hy
    cases hx
    cases hy
    rcases hst with hgt | ⟨heq, -⟩
    · exact absurd hyx (not_lt_of_gt hgt)
    · exact absurd hyx (not_lt_of_ge (le_of_eq heq.symm))
  obtain ⟨front, back, rfl, hfront, hback⟩ := exists_cut hfirst
  exact ⟨front, back, hranked, perm_ranked hranked, hfront, hback⟩

end Ranks

/-- **Texts dominate bonuses.** In exact arithmetic a complete record that contains the text scores
    higher than one that does not, of whatever kinds they are; the score of an activity is at most
    240 and that of a time entry at most 145, and none is negative; and in a ranked list all
    records that contain the text come before all that do not. -/
theorem texts_dominate (text : Text) (now : Moment) :
    (text ≠ [] → ∀ r s : Record, r.IsComplete → s.IsComplete → r.Contains (lower text) →
      ¬ s.Contains (lower text) →
      ∃ x y, record .exact text now r = .ok x ∧ record .exact text now s = .ok y ∧ y < x) ∧
    (∀ a, (Record.activity a).IsComplete →
      ∃ x, activity .exact text now a = .ok x ∧ 0 ≤ x ∧ x ≤ 240) ∧
    (∀ e, (Record.timeEntry e).IsComplete →
      ∃ x, timeEntry .exact text now e = .ok x ∧ 0 ≤ x ∧ x ≤ 145) ∧
    (text ≠ [] →
      (∀ as, (∀ a ∈ as, (Record.activity a).IsComplete) →
        RanksFirst (activity .exact text now)
          (fun a => (Record.activity a).Contains (lower text)) as) ∧
      (∀ es, (∀ e ∈ es, (Record.timeEntry e).IsComplete) →
        RanksFirst (timeEntry .exact text now)
          (fun e => (Record.timeEntry e).Contains (lower text)) es) ∧
      ∀ ps, (∀ p ∈ ps, (Record.project p).IsComplete) →
        RanksFirst (project .exact text)
          (fun p => (Record.project p).Contains (lower text)) ps) := by
  refine ⟨fun hne r s hr hs => record_lt now hne hr hs, fun a ha => ?_, fun e he => ?_,
    fun hne => ?_⟩
  · obtain ⟨x, hx, hleast, hmost⟩ := record_bounds ha text now
    exact ⟨x, hx, hleast, maxScore_activity ▸ hmost⟩
  · obtain ⟨x, hx, hleast, hmost⟩ := record_bounds he text now
    exact ⟨x, hx, hleast, maxScore_timeEntry ▸ hmost⟩
  · refine ⟨fun as has => ?_, fun es hes => ?_, fun ps hps => ?_⟩
    · exact ranksFirst_of_lt (fun a ha => activity_ok (has a ha) .exact text now)
        fun a ha b hb => record_lt now hne (has a ha) (has b hb)
    · exact ranksFirst_of_lt (fun e he => timeEntry_ok (hes e he) .exact text now)
        fun a ha b hb => record_lt now hne (hes a ha) (hes b hb)
    · exact ranksFirst_of_lt (fun p hp => project_ok (hps p hp) .exact text)
        fun a ha b hb => record_lt now hne (hps a ha) (hps b hb)

/-- An old activity with the text in its address, which ended before it started, outranks one that
    has just started; and a project with a parent outranks one without. -/
theorem texts_dominate_report :
    let text := "Report".toList
    let now : Moment := ⟨86400000000, by decide⟩
    let found : Activity := ⟨"a1".toList, .str "Mail".toList, some ⟨1, by decide⟩, some default,
      .null, .str "https://x/REPORTS".toList, .null, false⟩
    let other : Activity := ⟨"a2".toList, .str "Mail".toList, some now, none, .null, .null, .null,
      false⟩
    let entry : TimeEntry := ⟨"e1".toList, .str "Work".toList, default, now,
      .str "a report".toList, .null, by decide⟩
    let child : Project := ⟨"p1".toList, .str "Reports".toList, .str "p2".toList⟩
    let root : Project := ⟨"p2".toList, .str "Work".toList, .null⟩
    (∃ x y, activity .exact text now found = .ok x ∧ activity .exact text now other = .ok y ∧
      y < x) ∧
    (∃ x, timeEntry .exact text now entry = .ok x ∧ 0 ≤ x ∧ x ≤ 145) ∧
    RanksFirst (activity .exact text now) (fun a => (Record.activity a).Contains (lower text))
      [other, found] ∧
    RanksFirst (timeEntry .exact text now) (fun e => (Record.timeEntry e).Contains (lower text))
      [entry] ∧
    RanksFirst (project .exact text) (fun p => (Record.project p).Contains (lower text))
      [root, child] := by
  intro text now found other entry child root
  have hne : text ≠ [] := by decide
  have hfound : (Record.activity found).IsComplete := by decide
  have hother : (Record.activity other).IsComplete := by decide
  have hentry : (Record.timeEntry entry).IsComplete := by decide
  have hchild : (Record.project child).IsComplete := by decide
  have hroot : (Record.project root).IsComplete := by decide
  have hcontains : (Record.activity found).Contains (lower text) := by decide +kernel
  have hnot : ¬ (Record.activity other).Contains (lower text) := by decide +kernel
  obtain ⟨hlt, -, hentries, hranked⟩ := texts_dominate text now
  obtain ⟨hactivities, htimeEntries, hprojects⟩ := hranked hne
  exact ⟨hlt hne (.activity found) (.activity other) hfound hother hcontains hnot,
    hentries entry hentry,
    hactivities _ (List.forall_mem_cons.mpr ⟨hother, List.forall_mem_singleton.mpr hfound⟩),
    htimeEntries _ (List.forall_mem_singleton.mpr hentry),
    hprojects _ (List.forall_mem_cons.mpr ⟨hroot, List.forall_mem_singleton.mpr hchild⟩)⟩

end Worklog.Score
