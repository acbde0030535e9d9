import Mathlib.Data.List.Induction
import Mathlib.Data.List.Infix
import Worklog.Index.Suggest
import Worklog.Proofs.Index.Sample

/-!
# Window titles after a run

What an index has of window titles after a run of operations: the counts are those of the surviving
records, and the sample is that of the additions and removals since the index was emptied last.

* `Index.sample_sinceEmptied`: **what came before an index was emptied is forgotten**;
* `Index.covers_run`: a sample that never was too small has all titles that are carried;
* `Index.neverCrowded_of_build`: a build of different records is as good as one step;
* **`Index.run_samples`**: counts, sample and suggestions after any run, and how a title leaves.
-/

namespace Worklog

namespace Index

/-! ## 1. Since an index was emptied -/

/-- The additions and removals since an index was emptied, after one more operation. A build empties
    the index and adds its records one after the other. -/
def Op.since (past : List Op) : Op → List Op
  | build now records => records.map (.add now)
  | add now r => past ++ [.add now r]
  | remove now kind id => past ++ [.remove now kind id]
  | clear => []

/-- **The additions and removals since an index was emptied last**, by clearing or by building. -/
def sinceEmptied (ops : List Op) : List Op := ops.foldl Op.since []

/-- **At no time since the index was emptied** did its records carry more than `k` different
    titles. -/
def NeverCrowded (k : Nat) (ops : List Op) : Prop :=
  ∀ past ∈ (sinceEmptied ops).inits, Roster.variety (survivors past) ≤ k

instance (k : Nat) (ops : List Op) : Decidable (NeverCrowded k ops) := List.decidableBAll _ _

/-! ## 2. Runs -/

section Runs

variable {i : Index} {k : Nat} {ops : List Op}

/-- A run goes on where another one ended. -/
theorem run_append : ∀ {ops : List Op} {i : Index}, (i.run ops).2 = none → ∀ more : List Op,
    i.run (ops ++ more) = (i.run ops).1.run more
  | [], _, _, _ => rfl
  | op :: ops, i, h, more => by
      cases hj : op.apply i with
      | mk j flaw =>
      cases flaw with
      | none =>
          have hcons : ∀ rest, i.run (op :: rest) = j.run rest := fun rest => by
            rw [run, hj]
          rw [hcons] at h
          rw [List.cons_append, hcons, hcons]
          exact run_append h more
      | some f =>
          rw [run, hj] at h
          cases h

theorem run_concat (h : (i.run ops).2 = none) (op : Op) :
    i.run (ops ++ [op]) = op.apply (i.run ops).1 := by
  rw [run_append h, run]
  cases op.apply (i.run ops).1 with
  | mk j flaw =>
    cases flaw with
    | none => rfl
    | some f => rfl

theorem survivors_concat (ops : List Op) (op : Op) :
    survivors (ops ++ [op]) = op.roster (survivors ops) := List.foldl_append

theorem sinceEmptied_concat (ops : List Op) (op : Op) :
    sinceEmptied (ops ++ [op]) = op.since (sinceEmptied ops) := List.foldl_append

/-- What survives some operations survives those since the index was emptied. -/
theorem survivors_sinceEmptied (ops : List Op) :
    survivors (sinceEmptied ops) = survivors ops := by
  induction ops using List.reverseRecOn with
  | nil => rfl
  | append_singleton ops op ih =>
      rw [sinceEmptied_concat, survivors_concat]
      cases op with
      | build now records => exact List.foldl_map
      | add now r => exact (survivors_concat _ _).trans (congrArg (Op.add now r).roster ih)
      | remove now kind id =>
          exact (survivors_concat _ _).trans (congrArg (Op.remove now kind id).roster ih)
      | clear => rfl

/-- Since an index was emptied, records are added and taken out one by one. -/
theorem single_of_mem_sinceEmptied (h : ∀ op ∈ ops, op.HasTexts) :
    ∀ op ∈ sinceEmptied ops, op.key?.isSome ∧ op.HasTexts := by
  induction ops using List.reverseRecOn with
  | nil => exact fun op hop => absurd hop List.not_mem_nil
  | append_singleton ops last ih =>
      have hlast := h last (List.mem_append_right _ List.mem_cons_self)
      have hpast := ih fun op hop => h op (List.mem_append_left _ hop)
      rw [sinceEmptied_concat]
      intro op hop
      cases last with
      | build now records =>
          obtain ⟨r, hr, rfl⟩ := List.mem_map.mp hop
          exact ⟨rfl, hlast r hr⟩
      | clear => exact absurd hop List.not_mem_nil
      | _ =>
          rcases List.mem_append.mp hop with hop | hop
          · exact hpast op hop
          · rw [List.mem_singleton.mp hop]
            exact ⟨rfl, hlast⟩

/-- With the same sample of the same roster, an operation on one record does the same to it. -/
theorem Samples.sample_apply {i j : Index} {live : List Record} (hi : i.Samples k live)
    (hj : j.Samples k live) (hsample : i.sample = j.sample) {op : Op} (hop : op.HasTexts)
    (hkey : op.key?.isSome) : (op.apply i).1.sample = (op.apply j).1.sample := by
  cases op with
  | build now records => cases hkey
  | clear => cases hkey
  | add now r =>
      show (i.add now r).1.sample = (j.add now r).1.sample
      rw [(sample_add i now r).1, (sample_add j now r).1, hi.sample_replace hop,
        hj.sample_replace hop, hsample]
  | remove now kind id =>
      show (i.remove now kind id).sample = (j.remove now kind id).sample
      rw [sample_remove hi.holds hi.carried, sample_remove hj.holds hj.carried, hsample]

variable (hk : 1 ≤ k)
include hk

/-- To add records one by one is to add them all, as far as the sample goes. -/
theorem sample_run_adds (now : Moment) : ∀ (records : List Record) {i : Index}
    {live : List Record}, i.Samples k live → (∀ r ∈ records, r.HasTexts) →
    (i.run (records.map (.add now))).1.sample = sampleAfter k records live i.sample
  | [], _, _, _, _ => rfl
  | r :: rest, i, live, h, hrecords => by
      have hr := hrecords r List.mem_cons_self
      have hadd : (Op.add now r).apply i = ((i.add now r).1, none) :=
        Prod.ext rfl (h.holds.add now hr).1
      have hsample : (i.add now r).1.sample =
          withTitle k (Roster.kept r.key live i.sample) r.title? :=
        (sample_add i now r).1.trans (h.sample_replace hr now)
      rw [List.map_cons, run, hadd, sampleAfter, ← hsample]
      exact sample_run_adds now rest (h.add hr hk now) fun s hs =>
        hrecords s (List.mem_cons_of_mem r hs)

variable (start : Moment)

/-- After a run the titles of the survivors are sampled. -/
theorem samples_after (h : ∀ op ∈ ops, op.HasTexts) :
    ((empty k start).run ops).1.Samples k (survivors ops) :=
  Samples.run hk (.empty k start) ops h

/-- **What came before an index was emptied is forgotten**: the sample is that of the operations
    since. -/
theorem sample_sinceEmptied (h : ∀ op ∈ ops, op.HasTexts) :
    ((empty k start).run ops).1.sample = ((empty k start).run (sinceEmptied ops)).1.sample := by
  induction ops using List.reverseRecOn with
  | nil => rfl
  | append_singleton ops op ih =>
      have hop := h op (List.mem_append_right _ List.mem_cons_self)
      have hpast : ∀ o ∈ ops, o.HasTexts := fun o ho => h o (List.mem_append_left _ ho)
      have hsince : ∀ o ∈ sinceEmptied ops, o.HasTexts := fun o ho =>
        (single_of_mem_sinceEmptied hpast o ho).2
      have hnone : ∀ {past : List Op}, (∀ o ∈ past, o.HasTexts) →
          ((empty k start).run past).2 = none := fun hp => (Holds.run _ (.empty k start) hp).1
      have hi : ((empty k start).run ops).1.Samples k (survivors ops) :=
        samples_after hk start hpast
      have hj : ((empty k start).run (sinceEmptied ops)).1.Samples k (survivors ops) :=
        survivors_sinceEmptied ops ▸ samples_after hk start hsince
      -- an operation on one record is carried out in both runs, and does the same in both
      have hsingle : op.key?.isSome → (op.apply ((empty k start).run ops).1).1.sample =
          ((empty k start).run (sinceEmptied ops ++ [op])).1.sample := fun hkey => by
        rw [run_concat (hnone hsince)]
        exact hi.sample_apply hj (ih hpast) hop hkey
      rw [sinceEmptied_concat, run_concat (hnone hpast)]
      cases op with
      | build now records =>
          show (Index.build ((empty k start).run ops).1.capacity now records).1.sample = _
          rw [hi.capacity]
          exact (Samples.addAll hk now records (.empty k now) hop).2.trans
            (sample_run_adds hk now records (.empty k start) hop).symm
      | clear => rfl
      | _ => exact hsingle rfl

/-- **A sample that never was too small has all titles.** -/
theorem covers_run (h : ∀ op ∈ ops, op.key?.isSome ∧ op.HasTexts)
    (hroom : ∀ past ∈ ops.inits, Roster.variety (survivors past) ≤ k) :
    ∀ t ∈ Roster.titles (survivors ops), t ∈ ((empty k start).run ops).1.sample := by
  induction ops using List.reverseRecOn with
  | nil => exact fun t ht => absurd ht List.not_mem_nil
  | append_singleton ops op ih =>
      obtain ⟨hkey, hop⟩ := h op (List.mem_append_right _ List.mem_cons_self)
      have hpast : ∀ o ∈ ops, o.key?.isSome ∧ o.HasTexts := fun o ho =>
        h o (List.mem_append_left _ ho)
      have hi : ((empty k start).run ops).1.Samples k (survivors ops) :=
        samples_after hk start fun o ho => (hpast o ho).2
      have hall := ih hpast fun past hp => hroom past <|
        (List.mem_inits _ _).mpr (((List.mem_inits _ _).mp hp).trans (List.prefix_append ops [op]))
      have hnow : Roster.variety (op.roster (survivors ops)) ≤ k :=
        survivors_concat ops op ▸ hroom _ ((List.mem_inits _ _).mpr List.prefix_rfl)
      rw [survivors_concat, run_concat (Holds.run _ (.empty k start) fun o ho => (hpast o ho).2).1]
      cases op with
      | build now records => cases hkey
      | clear => cases hkey
      | add now r => exact hi.covers_add hk hall hop hnow now
      | remove now kind id => exact hi.covers_remove hall now kind id

end Runs

/-! ## 3. Counts, sample and suggestions after any run -/

theorem count_filterMap_eq {α κ : Type} [DecidableEq κ] (name : α → Option κ) (items : List α)
    (k : κ) : (items.filterMap name).count k = items.countP fun a => decide (name a = some k) := by
  rw [List.count_filterMap]
  exact List.countP_congr fun a _ => by rw [beq_iff_eq, decide_eq_true_iff]

/-- How many records of a roster carry a window title. -/
def carriers (t : Text) (live : List Record) : Nat :=
  live.countP fun r => decide (r.title? = some t)

/-- **The titles are counted** by those that carry them. -/
theorem Holds.get?_titles {i : Index} {live : List Record} (h : i.Holds live) (t : Text) :
    i.titles.get? t = if carriers t live = 0 then none else some (carriers t live) := by
  rw [h.titles.get?_eq]
  refine congrArg (fun n : Nat => if n = 0 then none else some n) ?_
  rw [Roster.titles_eq h.texts]
  exact count_filterMap_eq Record.title? live t

/-- What is suggested for a text, if the limit leaves room for the whole sample. -/
theorem mem_windowTitles {i : Index} {limit : Int} (h : (i.sample.length : Int) ≤ limit)
    {q t : Text} : t ∈ i.windowTitles q limit ↔ t ∈ i.sample ∧ Text.lower q <:+: Text.lower t := by
  have hnonneg : 0 ≤ limit := by omega
  have hall : (namesWith q i.sample).length ≤ limit.toNat := by
    have hless : (namesWith q i.sample).length ≤ i.sample.length := by
      rw [namesWith, List.length_mergeSort]
      exact List.length_filter_le _ _
    omega
  rw [windowTitles, front, if_pos hnonneg, List.take_of_length_le hall, namesWith,
    List.mem_mergeSort, List.mem_filter, Text.occursIn_iff]

/-- Operations on single records come after what was done since an index was emptied. -/
theorem sinceEmptied_append_single (ops : List Op) {more : List Op}
    (h : ∀ op ∈ more, op.key?.isSome) : sinceEmptied (ops ++ more) = sinceEmptied ops ++ more := by
  induction more using List.reverseRecOn with
  | nil => rw [List.append_nil, List.append_nil]
  | append_singleton more op ih =>
      have hop := h op (List.mem_append_right _ List.mem_cons_self)
      rw [← List.append_assoc, sinceEmptied_concat,
        ih fun o ho => h o (List.mem_append_left _ ho), ← List.append_assoc]
      cases op with
      | build now records => cases hop
      | clear => cases hop
      | _ => rfl

/-- **A build of records with different keys** files nothing that it takes out again: there never
    were more than `k` titles since if there were not at its end and after each operation later. -/
theorem neverCrowded_of_build {k : Nat} (ops : List Op) (now : Moment) {records : List Record}
    (hkeys : (records.map Record.key).Nodup) {more : List Op} (hmore : ∀ op ∈ more, op.key?.isSome)
    (hroom : ∀ past ∈ more.inits, Roster.variety (survivors (.build now records :: past)) ≤ k) :
    NeverCrowded k (ops ++ .build now records :: more) := by
  have hsince : sinceEmptied (ops ++ .build now records :: more) =
      records.map (.add now) ++ more := by
    rw [List.append_cons, sinceEmptied_append_single _ hmore, sinceEmptied_concat]
    rfl
  have hadds : ∀ first : List Record, survivors (first.map (.add now)) =
      first.foldl Roster.enter [] := fun first => List.foldl_map
  intro past hpast
  rw [hsince] at hpast
  have hpast := (List.mem_inits _ _).mp hpast
  rcases List.prefix_or_prefix_of_prefix hpast (List.prefix_append _ more) with hin | ⟨later, rfl⟩
  · -- within the build the titles of fewer records are there than at its end
    obtain ⟨first, last, rfl, rfl, -⟩ := List.map_eq_append_iff.mp hin.choose_spec.symm
    have hend : Roster.variety (first ++ last) ≤ k := by
      have h := hroom [] ((List.mem_inits _ _).mpr List.nil_prefix)
      rwa [show survivors [.build now (first ++ last)] = first ++ last from
        @Roster.foldl_enter_eq _ [] hkeys] at h
    rw [List.map_append] at hkeys
    rw [hadds, @Roster.foldl_enter_eq _ [] hkeys.of_append_left, List.nil_append]
    refine Nat.le_trans (List.Subperm.length_le ?_) hend
    refine List.subperm_of_subset (nodup_eraseDups _) fun t ht => ?_
    rw [List.mem_eraseDups, Roster.mem_titles] at ht ⊢
    obtain ⟨r, hr, htitle⟩ := ht
    exact ⟨r, List.mem_append_left _ hr, htitle⟩
  · have hlater := (List.prefix_append_right_inj _).mp hpast
    have h := hroom later ((List.mem_inits _ _).mpr hlater)
    have hsame : survivors (records.map (.add now) ++ later) =
        survivors (.build now records :: later) := by
      unfold survivors
      rw [List.foldl_append, List.foldl_map]
      rfl
    rwa [hsame]

/-- **Counts, sample and suggestions after any run of operations.** Each title is counted as often
    as an indexed activity carries it. The sample holds at most `k` titles, none twice and each of
    them carried; it depends on what was done since the index was emptied last, and holds all titles
    that are carried if there never were more than `k` since. What is suggested are the sampled
    titles. With one operation more on a record, a sampled title leaves exactly if no record carries
    it any more or if it is evicted, and a title comes exactly with a record that carries it. -/
theorem run_samples {k : Nat} (hk : 1 ≤ k) (start : Moment) (ops : List Op)
    (h : ∀ op ∈ ops, op.HasTexts) :
    ∃ i, run (empty k start) ops = (i, none) ∧
      (∀ t, i.titles.get? t =
        if carriers t (survivors ops) = 0 then none else some (carriers t (survivors ops))) ∧
      i.sample.length ≤ k ∧ i.sample.Nodup ∧
      (∀ t ∈ i.sample, ∃ r ∈ survivors ops, r.title? = some t) ∧
      i.sample = (run (empty k start) (sinceEmptied ops)).1.sample ∧
      (NeverCrowded k ops → ∀ t, t ∈ i.sample ↔ ∃ r ∈ survivors ops, r.title? = some t) ∧
      (∀ q limit, (k : Int) ≤ limit → ∀ t, t ∈ i.windowTitles q limit ↔
        t ∈ i.sample ∧ Text.lower q <:+: Text.lower t) ∧
      ∀ op : Op, op.key?.isSome → op.HasTexts →
        ∃ j, run (empty k start) (ops ++ [op]) = (j, none) ∧
          (∀ t ∈ i.sample, t ∉ j.sample ↔
            (¬∃ r ∈ survivors (ops ++ [op]), r.title? = some t) ∨
              op.Evicts k (survivors ops) i.sample t) ∧
          ∀ t ∉ i.sample, t ∈ j.sample ↔ op.Brings t := by
  obtain ⟨hnone, -⟩ := Holds.run ops (.empty k start) h
  have hi : ((empty k start).run ops).1.Samples k (survivors ops) := samples_after hk start h
  have hcarried := fun t ht => Roster.mem_titles.mp (hi.carried t ht)
  have hsince := sample_sinceEmptied hk start h
  refine ⟨_, Prod.ext rfl hnone, hi.holds.get?_titles, hi.length_le, hi.nodup, hcarried, hsince,
    fun hroom t => ⟨hcarried t, fun ht => ?_⟩, fun q limit hlimit t => ?_, fun op hkey hop => ?_⟩
  · rw [hsince]
    refine covers_run hk start (single_of_mem_sinceEmptied h) hroom t ?_
    rw [survivors_sinceEmptied]
    exact Roster.mem_titles.mpr ht
  · exact mem_windowTitles (Int.le_trans (Int.ofNat_le.mpr hi.length_le) hlimit)
  · obtain ⟨hop', -⟩ := hi.holds.apply op hop
    refine ⟨_, (run_concat hnone op).trans (Prod.ext rfl hop'), fun t ht => ?_, fun t ht => ?_⟩
    · rw [survivors_concat, ← Roster.mem_titles]
      exact hi.leaves_iff hk hop hkey ht
    · exact hi.comes_iff hk hop hkey ht

/-- An activity with a window title, for the case below. -/
def titled (id title : String) : Record :=
  .activity ⟨id.toList, .str "Mail".toList, none, none, .str title.toList, .null, .null, false⟩

/-- There is room for one title, which two activities carry: it stays when one of them is taken out.
    Then an activity comes with another title, and it is no longer suggested although it is
    carried. -/
theorem run_samples_evicted :
    ∃ i, run (empty 1 default) [.build default [titled "a1" "Inbox", titled "a2" "Inbox"],
        .remove default .activity "a1".toList] = (i, none) ∧
      i.titles.get? "Inbox".toList = some 1 ∧ "Inbox".toList ∈ i.windowTitles "BOX".toList 1 ∧
      ∃ j, run (empty 1 default) [.build default [titled "a1" "Inbox", titled "a2" "Inbox"],
          .remove default .activity "a1".toList, .add default (titled "a3" "Draft")] = (j, none) ∧
        "Inbox".toList ∉ j.sample ∧ "Draft".toList ∈ j.sample := by
  obtain ⟨i, hi, hcount, -, -, -, -, hall, hsuggested, hnext⟩ := run_samples (k := 1) (by decide)
    default [.build default [titled "a1" "Inbox", titled "a2" "Inbox"],
      .remove default .activity "a1".toList] (by decide)
  have hsample : i.sample = ["Inbox".toList] := (congrArg (·.1.sample) hi).symm.trans (by decide)
  have hmem : "Inbox".toList ∈ i.sample :=
    (hall (neverCrowded_of_build [] default (by decide) (by decide) (by decide)) _).mpr (by decide)
  obtain ⟨j, hj, hleaves, hcomes⟩ := hnext (.add default (titled "a3" "Draft")) rfl (by decide)
  rw [hsample] at hleaves hcomes
  refine ⟨i, hi, hcount _, (hsuggested _ 1 (by decide) _).mpr ⟨hmem, by decide⟩, j, hj, ?_, ?_⟩
  · refine (hleaves _ (by decide)).mpr (Or.inr ⟨"Draft".toList, rfl, ?_⟩)
    decide
  · exact (hcomes _ (by decide)).mpr rfl

end Index

end Worklog
