import Worklog.Proofs.Index.Run

/-!
# The sample of window titles

An index counts for each window title how many activities carry it, and keeps a bounded sample of
the titles, from which the oldest goes when a new one needs room. The two are kept apart: a title
may leave the sample while it is carried, come back with a later activity, and then outlive the
activity that brought it first. What becomes of the sample is said here without the counts:

* `Index.addToSample_eq`: a new title takes the place of the oldest one if there is no room;
* `Index.sample_remove`: **what stays when a record is taken out is what other records carry**;
* `Index.Samples`: the sample holds at most so many titles, none twice, and each is carried;
* `Index.Samples.covers_add`: a sample that has all titles keeps them as long as there is room;
* **`Index.Samples.leaves_iff`**, `Index.Samples.comes_iff`: which titles leave, and which come.
-/

namespace Worklog

/-! ## 1. Titles of records -/

/-- The window title of a record: only an activity has one, and the empty one is none. -/
def Record.title? : Record → Option Text
  | .activity a =>
    match a.windowTitle with
    | .str t => if t.isEmpty then none else some t
    | _ => none
  | _ => none

namespace Roster

/-- The window titles that the records of a roster carry, each as often as it is carried. -/
def titles (live : List Record) : List Text := live.filterMap Record.title?

/-- The number of different window titles of a roster. -/
def variety (live : List Record) : Nat := (titles live).eraseDups.length

/-- Those of some titles that are carried without the record under a key. -/
def kept (key : RecordKind × Text) (live : List Record) (sample : List Text) : List Text :=
  sample.filter fun t => decide (t ∈ titles (strike key live))

theorem mem_titles {live : List Record} {t : Text} :
    t ∈ titles live ↔ ∃ r ∈ live, r.title? = some t := List.mem_filterMap

theorem mem_kept {key : RecordKind × Text} {live : List Record} {sample : List Text} {t : Text} :
    t ∈ kept key live sample ↔ t ∈ sample ∧ t ∈ titles (strike key live) := by
  unfold kept
  rw [List.mem_filter, decide_eq_true_iff]

theorem mem_titles_enter {live : List Record} {r : Record} {t : Text} :
    t ∈ titles (enter live r) ↔ t ∈ titles (strike r.key live) ∨ r.title? = some t := by
  unfold titles enter
  rw [List.filterMap_append, List.mem_append, List.mem_filterMap (l := [r])]
  simp

/-- A title of a roster is that of the record under a key, or it is carried without it. -/
theorem mem_titles_of_strike {live : List Record} {r : Record}
    (h : (live.map Record.key).Nodup) (hr : r ∈ live) {t : Text} :
    t ∈ titles live ↔ r.title? = some t ∨ t ∈ titles (strike r.key live) := by
  rw [mem_titles, mem_titles]
  simp only [(perm_cons_strike h hr).mem_iff, List.mem_cons, exists_eq_or_imp]

end Roster

namespace Index

/-- A title after one more field. -/
def titleWith (title : Option Text) : Field × Json → Option Text
  | (.windowTitle, .str t) => if t.isEmpty then none else some t
  | _ => title

/-- What a field that holds what it is for makes of the title of a filing. -/
theorem exists_gather_title {f : Field × Json} (h : f.1.admits f.2 = true) (F : Filing)
    (rest : List (Field × Json)) : ∃ G : Filing, gather F (f :: rest) = gather G rest ∧
      G.title = titleWith F.title f := by
  obtain ⟨field, v⟩ := f
  cases v with
  | null => cases field with
    | appName => cases h
    | title => cases h
    | projectName => cases h
    | _ => exact ⟨{ F with terms := F.terms ++ [] }, rfl, rfl⟩
  | str t => cases field with
    | _ => exact ⟨_, rfl, rfl⟩
  | _ => cases h

/-- Other fields leave a title alone. -/
theorem title_gather : ∀ (fields : List (Field × Json)) (F : Filing),
    (∀ f ∈ fields, f.1.admits f.2 = true) → (∀ f ∈ fields, f.1 ≠ .windowTitle) →
    (gather F fields).1.title = F.title
  | [], _, _, _ => rfl
  | f :: rest, F, h, hother => by
      obtain ⟨G, hG, htitle⟩ := exists_gather_title (h f List.mem_cons_self) F rest
      rw [hG, title_gather rest G (fun g hg => h g (List.mem_cons_of_mem f hg))
        fun g hg => hother g (List.mem_cons_of_mem f hg), htitle]
      have hf := hother f List.mem_cons_self
      obtain ⟨field, v⟩ := f
      cases field with
      | windowTitle => exact absurd rfl hf
      | _ => rfl

end Index

/-- **A record is filed with its window title.** -/
theorem Record.filing_title {r : Record} (h : r.HasTexts) : r.filing.title = r.title? := by
  cases r with
  | activity a =>
      obtain ⟨F, hF, htitleF⟩ := Index.exists_gather_title (h _ List.mem_cons_self)
        ⟨[], none, none, none⟩ [(.windowTitle, a.windowTitle), (.url, a.url),
          (.documentPath, a.documentPath)]
      obtain ⟨G, hG, htitleG⟩ := Index.exists_gather_title
        (h _ (List.mem_cons_of_mem _ List.mem_cons_self)) F
        [(.url, a.url), (.documentPath, a.documentPath)]
      have hrest := Index.title_gather [(.url, a.url), (.documentPath, a.documentPath)] G
        (fun f hf => h f (List.mem_cons_of_mem _ (List.mem_cons_of_mem _ hf)))
        (by simp)
      show (Index.gather _ (_ :: _ :: [(.url, a.url), (.documentPath, a.documentPath)])).1.title = _
      rw [hF, hG, hrest, htitleG, htitleF]
      show Index.titleWith none (.windowTitle, a.windowTitle) = match a.windowTitle with
        | .str t => if t.isEmpty then none else some t
        | _ => none
      cases a.windowTitle with
      | _ => rfl
  | timeEntry e => exact Index.title_gather _ _ h (by simp [Record.fields])
  | project p => exact Index.title_gather _ _ h (by simp [Record.fields])

/-- The titles that are filed are the titles of the roster. -/
theorem Roster.titles_eq {live : List Record} (h : ∀ r ∈ live, r.HasTexts) :
    live.filterMap (·.filing.title) = titles live :=
  List.filterMap_congr fun r hr => Record.filing_title (h r hr)

namespace Index

/-! ## 2. A title more, a record less -/

section Sample

variable {k : Nat} {sample : List Text} {t u : Text}

/-- **A new title goes to the end of the sample**; if there is no room, the oldest title goes. -/
theorem addToSample_eq (hk : 1 ≤ k) (hlength : sample.length ≤ k) (t : Text) :
    addToSample k sample t = if t ∈ sample then sample
      else if sample.length < k then sample ++ [t] else sample.tail ++ [t] := by
  have hroom : ¬((k : Int) ≤ 0) := by omega
  unfold addToSample
  rw [decide_eq_false hroom, Bool.or_false, Int.toNat_natCast]
  by_cases hmem : t ∈ sample
  · rw [if_pos hmem, if_pos (List.contains_iff_mem.mpr hmem)]
  · rw [if_neg hmem, if_neg fun h => hmem (List.contains_iff_mem.mp h)]
    by_cases hless : sample.length < k
    · have hnone : sample.length + 1 - k = 0 := by omega
      rw [if_pos hless, hnone, List.drop_zero]
    · have hone : sample.length + 1 - k = 1 := by omega
      rw [if_neg hless, hone, List.drop_one]

/-- The sample with one more title, if there is one. -/
def withTitle (k : Nat) (sample : List Text) : Option Text → List Text
  | some t => addToSample k sample t
  | none => sample

variable (hk : 1 ≤ k) (hlength : sample.length ≤ k)
include hk hlength

theorem length_withTitle (o : Option Text) : (withTitle k sample o).length ≤ k := by
  cases o with
  | none => exact hlength
  | some t =>
      show (addToSample k sample t).length ≤ k
      rw [addToSample_eq hk hlength]
      split
      · exact hlength
      · split
        · rw [List.length_append, List.length_singleton]
          omega
        · rw [List.length_append, List.length_singleton, List.length_tail]
          omega

theorem nodup_withTitle (hnodup : sample.Nodup) (o : Option Text) :
    (withTitle k sample o).Nodup := by
  cases o with
  | none => exact hnodup
  | some t =>
      have hconcat : ∀ l : List Text, l.Nodup → t ∉ l → (l ++ [t]).Nodup := fun l hl hnew =>
        List.nodup_append.mpr ⟨hl, List.nodup_singleton t, fun a ha b hb e =>
          hnew (List.mem_singleton.mp hb ▸ e ▸ ha)⟩
      show (addToSample k sample t).Nodup
      rw [addToSample_eq hk hlength]
      split
      · exact hnodup
      next hnew =>
        split
        · exact hconcat _ hnodup hnew
        · exact hconcat _ hnodup.tail fun h => hnew (List.mem_of_mem_tail h)

/-- **A title that is sampled stays**, unless it is the oldest of a full sample and a new title
    comes. -/
theorem mem_withTitle (hnodup : sample.Nodup) (ht : t ∈ sample) (o : Option Text) :
    t ∈ withTitle k sample o ↔
      ¬∃ u, o = some u ∧ u ∉ sample ∧ sample.length = k ∧ sample.head? = some t := by
  cases o with
  | none => simp [withTitle, ht]
  | some u =>
      have hunfold : withTitle k sample (some u) = addToSample k sample u := rfl
      simp only [Option.some.injEq, exists_eq_left', hunfold, addToSample_eq hk hlength]
      by_cases hu : u ∈ sample
      · simp [hu, ht]
      · rw [if_neg hu]
        by_cases hless : sample.length < k
        · rw [if_pos hless]
          exact iff_of_true (List.mem_append_left _ ht) fun h => Nat.ne_of_lt hless h.2.1
        · have hfull : sample.length = k := by omega
          have hne : t ≠ u := fun e => hu (e ▸ ht)
          obtain ⟨first, rest, rfl⟩ := List.exists_cons_of_ne_nil (List.ne_nil_of_mem ht)
          obtain ⟨hfirst, -⟩ := List.nodup_cons.mp hnodup
          rw [if_neg hless]
          simp only [List.tail_cons, List.mem_append, List.mem_singleton, hne, or_false, hu,
            not_false_eq_true, hfull, List.head?_cons, Option.some.injEq, true_and]
          rcases List.mem_cons.mp ht with rfl | hrest
          · exact iff_of_false hfirst fun h => h rfl
          · exact iff_of_true hrest fun e => hfirst (e ▸ hrest)

/-- What comes into the sample is the title that is added. -/
theorem mem_withTitle_of_new (ht : t ∉ sample) (o : Option Text) :
    t ∈ withTitle k sample o ↔ o = some t := by
  cases o with
  | none => simp [withTitle, ht]
  | some u =>
      have hunfold : withTitle k sample (some u) = addToSample k sample u := rfl
      have htail : t ∉ sample.tail := fun h => ht (List.mem_of_mem_tail h)
      rw [hunfold, addToSample_eq hk hlength, Option.some.injEq]
      split
      next hu => exact iff_of_false ht fun e => ht (e ▸ hu)
      next =>
        split
        · simp [ht, eq_comm]
        · simp [htail, eq_comm]

end Sample

section Records

variable {i : Index} {live : List Record} {r : Record}

theorem sampleWith_eq {k : Nat} (hcapacity : i.capacity = k) (o : Option Text) :
    i.sampleWith o = withTitle k i.sample o := by
  cases o with
  | none => rfl
  | some t => exact congrArg (addToSample · i.sample t) hcapacity

/-- **Filing a record** adds its title to the sample. -/
theorem sample_file (hr : r.HasTexts) {k : Nat} (hcapacity : i.capacity = k) :
    (i.file r).1.sample = withTitle k i.sample r.title? := by
  have hframe := frame_addTerms r.id r.filing.terms
    { i with filings := i.filings.put (r.kind, r.id) (noted (contribution r)) }
  have hsample : (i.file r).1.sample = sampleWith (r.filing.terms.foldl (addTerm r.id)
      { i with filings := i.filings.put (r.kind, r.id) (noted (contribution r)) })
      r.filing.title := rfl
  rw [hsample, Record.filing_title hr, sampleWith_eq (hframe.capacity.trans hcapacity),
    hframe.sample]

/-- **Taking a record out leaves in the sample what other records carry.** A title is thrown out by
    its count, which is that of its carriers. -/
theorem sample_remove (h : i.Holds live) (hcarried : ∀ t ∈ i.sample, t ∈ Roster.titles live)
    (now : Moment) (kind : RecordKind) (id : Text) :
    (i.remove now kind id).sample = Roster.kept (kind, id) live i.sample := by
  unfold Index.remove
  split
  next F hF =>
    obtain ⟨r, hr, hkey, rfl⟩ := h.get?_filings.mp hF
    have hframe := frame_dropTerms id r.filing.terms
      { i with filings := i.filings.erase (kind, id) }
    have hsample : (i.unfile (kind, id) r.filing).sample =
        sampleWithout (r.filing.terms.foldl (dropTerm id)
          { i with filings := i.filings.erase (kind, id) }) r.filing.title := rfl
    have hcounts := counts_without h.titles (Roster.perm_cons_strike h.keys hr)
    have hstruck : (Roster.strike r.key live).filterMap (·.filing.title) =
        Roster.titles (Roster.strike r.key live) :=
      Roster.titles_eq fun s hs => h.texts s (Roster.mem_strike.mp hs).1
    have hlost : ∀ t ∈ i.sample, r.title? = some t ∨ t ∈ Roster.titles (Roster.strike r.key live) :=
      fun t ht => (Roster.mem_titles_of_strike h.keys hr).mp (hcarried t ht)
    rw [hstruck, Record.filing_title (h.texts r hr), hkey] at hcounts
    rw [hkey] at hlost
    show (i.unfile (kind, id) r.filing).sample = _
    rw [hsample, Record.filing_title (h.texts r hr)]
    unfold sampleWithout Roster.kept
    rw [hframe.titles, hframe.sample]
    cases htitle : r.title? with
    | none =>
        refine (List.filter_eq_self.mpr fun t ht => decide_eq_true ?_).symm
        exact (hlost t ht).resolve_left fun e => by rw [htitle] at e; cases e
    | some u =>
        rw [htitle] at hcounts
        have hhas : (i.titles.down u).has u = true ↔
            u ∈ Roster.titles (Roster.strike (kind, id) live) := hcounts.has_iff
        dsimp only
        split
        next hu =>
          refine (List.filter_eq_self.mpr fun t ht => decide_eq_true ?_).symm
          rcases hlost t ht with e | hmem
          · rw [htitle] at e
            exact Option.some.inj e ▸ hhas.mp hu
          · exact hmem
        next hu =>
          refine List.filter_congr fun t ht => ?_
          have hgone : t ≠ u ↔ t ∈ Roster.titles (Roster.strike (kind, id) live) := by
            constructor
            · intro hne
              refine (hlost t ht).resolve_left fun e => hne ?_
              rw [htitle] at e
              exact (Option.some.inj e).symm
            · rintro hmem rfl
              exact hu (hhas.mpr hmem)
          rw [Bool.eq_iff_iff, bne_iff_ne, decide_eq_true_iff]
          exact hgone
  next hF =>
    have hnot : (kind, id) ∉ live.map Record.key := by
      intro hm
      obtain ⟨r, hr, hkey⟩ := List.mem_map.mp hm
      rw [h.get?_filings.mpr ⟨r, hr, hkey, rfl⟩] at hF
      cases hF
    unfold Roster.kept
    rw [Roster.strike_of_notMem hnot]
    exact (List.filter_eq_self.mpr fun t ht => decide_eq_true (hcarried t ht)).symm

theorem capacity_remove (i : Index) (now : Moment) (kind : RecordKind) (id : Text) :
    (i.remove now kind id).capacity = i.capacity := by
  unfold Index.remove
  split
  next F hF =>
    exact (frame_dropTerms id F.terms { i with filings := i.filings.erase (kind, id) }).capacity
  next => rfl

theorem capacity_file (i : Index) (r : Record) : (i.file r).1.capacity = i.capacity :=
  (frame_addTerms r.id r.filing.terms
    { i with filings := i.filings.put (r.kind, r.id) (noted (contribution r)) }).capacity

/-- To add a record is to replace it, as far as the sample goes. -/
theorem sample_add (i : Index) (now : Moment) (r : Record) :
    (i.add now r).1.sample = (i.replace now r).1.sample ∧
      (i.add now r).1.capacity = (i.replace now r).1.capacity := by
  unfold Index.add
  obtain ⟨j, flaw⟩ := i.replace now r
  cases flaw with
  | none => exact ⟨rfl, rfl⟩
  | some f => exact ⟨rfl, rfl⟩

end Records

/-! ## 3. What is sampled at all times -/

/-- **A sample of the titles of a roster**: at most `k` of them, none twice. -/
structure Samples (i : Index) (k : Nat) (live : List Record) : Prop where
  holds : i.Holds live
  capacity : i.capacity = k
  length_le : i.sample.length ≤ k
  nodup : i.sample.Nodup
  carried : ∀ t ∈ i.sample, t ∈ Roster.titles live

/-- The sample after some records were added to a roster, one after the other. -/
def sampleAfter (k : Nat) : List Record → List Record → List Text → List Text
  | [], _, sample => sample
  | r :: rest, live, sample =>
    sampleAfter k rest (Roster.enter live r) (withTitle k (Roster.kept r.key live sample) r.title?)

namespace Samples

variable {i : Index} {k : Nat} {live : List Record} {r : Record}

theorem empty (k : Nat) (now : Moment) : (empty k now).Samples k [] :=
  ⟨.empty k now, rfl, Nat.zero_le k, List.nodup_nil, fun _ ht => absurd ht List.not_mem_nil⟩

theorem length_kept_le (h : i.Samples k live) (key : RecordKind × Text) :
    (Roster.kept key live i.sample).length ≤ k :=
  Nat.le_trans (List.length_filter_le _ _) h.length_le

theorem nodup_kept (h : i.Samples k live) (key : RecordKind × Text) :
    (Roster.kept key live i.sample).Nodup :=
  h.nodup.filter _

theorem remove (h : i.Samples k live) (now : Moment) (kind : RecordKind) (id : Text) :
    (i.remove now kind id).Samples k (Roster.strike (kind, id) live) := by
  have hsample := sample_remove h.holds h.carried now kind id
  refine ⟨h.holds.remove now kind id, (capacity_remove i now kind id).trans h.capacity, ?_, ?_, ?_⟩
  · exact hsample ▸ h.length_kept_le (kind, id)
  · exact hsample ▸ h.nodup_kept (kind, id)
  · rw [hsample]
    exact fun t ht => (Roster.mem_kept.mp ht).2

section Add

variable (hr : r.HasTexts)
include hr

/-- **What adding a record makes of the sample**: the titles that other records carry stay, and the
    title of the record comes. -/
theorem sample_replace (h : i.Samples k live) (now : Moment) : (i.replace now r).1.sample =
    withTitle k (Roster.kept r.key live i.sample) r.title? := by
  show ((i.remove now r.kind r.id).file r).1.sample = _
  rw [sample_file hr ((capacity_remove i now r.kind r.id).trans h.capacity),
    sample_remove h.holds h.carried]
  rfl

variable (hk : 1 ≤ k)
include hk

theorem replace (h : i.Samples k live) (now : Moment) :
    (i.replace now r).1.Samples k (Roster.enter live r) := by
  have hsample := h.sample_replace hr now
  refine ⟨(h.holds.replace now hr).2, ?_, ?_, ?_, ?_⟩
  · exact (capacity_file _ r).trans ((capacity_remove i now r.kind r.id).trans h.capacity)
  · exact hsample ▸ length_withTitle hk (h.length_kept_le r.key) r.title?
  · exact hsample ▸ nodup_withTitle hk (h.length_kept_le r.key) (h.nodup_kept r.key) r.title?
  · rw [hsample]
    intro t ht
    rw [Roster.mem_titles_enter]
    by_cases hkept : t ∈ Roster.kept r.key live i.sample
    · exact Or.inl (Roster.mem_kept.mp hkept).2
    · exact Or.inr ((mem_withTitle_of_new hk (h.length_kept_le r.key) hkept _).mp ht)

theorem add (h : i.Samples k live) (now : Moment) :
    (i.add now r).1.Samples k (Roster.enter live r) := by
  obtain ⟨hsample, hcapacity⟩ := sample_add i now r
  have hreplace := h.replace hr hk now
  exact ⟨(h.holds.add now hr).2, hcapacity.trans hreplace.capacity, hsample ▸ hreplace.length_le,
    hsample ▸ hreplace.nodup, hsample ▸ hreplace.carried⟩

end Add

/-- Records are added one after the other. -/
theorem addAll (hk : 1 ≤ k) (now : Moment) : ∀ (records : List Record) {i : Index}
    {live : List Record}, i.Samples k live → (∀ r ∈ records, r.HasTexts) →
    (i.addAll now records).1.Samples k (records.foldl Roster.enter live) ∧
      (i.addAll now records).1.sample = sampleAfter k records live i.sample
  | [], _, _, h, _ => ⟨⟨h.holds.touch now, h.capacity, h.length_le, h.nodup, h.carried⟩, rfl⟩
  | r :: rest, i, live, h, hrecords => by
      have hr := hrecords r List.mem_cons_self
      obtain ⟨hnone, -⟩ := h.holds.replace now hr
      unfold Index.addAll sampleAfter
      rw [show i.replace now r = ((i.replace now r).1, none) from Prod.ext rfl hnone,
        ← h.sample_replace hr now]
      exact addAll hk now rest (h.replace hr hk now) fun s hs =>
        hrecords s (List.mem_cons_of_mem r hs)

/-- One operation carries the sample from roster to roster. -/
theorem apply (hk : 1 ≤ k) (h : i.Samples k live) {op : Op} (hop : op.HasTexts) :
    (op.apply i).1.Samples k (op.roster live) := by
  cases op with
  | build now records =>
      show (Index.build i.capacity now records).1.Samples k _
      rw [h.capacity]
      exact (addAll hk now records (.empty k now) hop).1
  | add now r => exact h.add hop hk now
  | remove now kind id => exact h.remove now kind id
  | clear =>
      show (Index.empty i.capacity i.updated).Samples k _
      rw [h.capacity]
      exact .empty k i.updated

/-- **A run carries the sample from roster to roster.** -/
theorem run (hk : 1 ≤ k) : ∀ {i : Index} {live : List Record}, i.Samples k live →
    ∀ ops : List Op, (∀ op ∈ ops, op.HasTexts) →
    (i.run ops).1.Samples k (ops.foldl Op.roster live)
  | _, _, h, [], _ => h
  | i, live, h, op :: ops, hops => by
      obtain ⟨hnone, -⟩ := h.holds.apply op (hops op List.mem_cons_self)
      unfold Index.run
      rw [show op.apply i = ((op.apply i).1, none) from Prod.ext rfl hnone]
      exact run hk (h.apply hk (hops op List.mem_cons_self)) ops
        fun o ho => hops o (List.mem_cons_of_mem op ho)

/-! ## 4. Samples with all titles -/

theorem covers_remove (h : i.Samples k live) (hall : ∀ t ∈ Roster.titles live, t ∈ i.sample)
    (now : Moment) (kind : RecordKind) (id : Text) :
    ∀ t ∈ Roster.titles (Roster.strike (kind, id) live), t ∈ (i.remove now kind id).sample := by
  intro t ht
  rw [sample_remove h.holds h.carried, Roster.mem_kept]
  obtain ⟨r, hr, htitle⟩ := Roster.mem_titles.mp ht
  exact ⟨hall t (Roster.mem_titles.mpr ⟨r, (Roster.mem_strike.mp hr).1, htitle⟩), ht⟩

/-- **A sample with all titles has them all after an addition**, if they are at most `k` then: the
    titles that stay and a new one do not fit into a full sample. -/
theorem covers_add (hk : 1 ≤ k) (h : i.Samples k live)
    (hall : ∀ t ∈ Roster.titles live, t ∈ i.sample) (hr : r.HasTexts)
    (hroom : Roster.variety (Roster.enter live r) ≤ k) (now : Moment) :
    ∀ t ∈ Roster.titles (Roster.enter live r), t ∈ (i.add now r).1.sample := by
  have hkept : ∀ t ∈ Roster.titles (Roster.strike r.key live),
      t ∈ Roster.kept r.key live i.sample := fun t ht => by
    obtain ⟨s, hs, htitle⟩ := Roster.mem_titles.mp ht
    exact Roster.mem_kept.mpr
      ⟨hall t (Roster.mem_titles.mpr ⟨s, (Roster.mem_strike.mp hs).1, htitle⟩), ht⟩
  have hfits : ∀ u, r.title? = some u → u ∉ Roster.kept r.key live i.sample →
      (Roster.kept r.key live i.sample).length ≠ k := fun u htitle hnew hfull => by
    have hnodup : (u :: Roster.kept r.key live i.sample).Nodup :=
      List.nodup_cons.mpr ⟨hnew, h.nodup_kept r.key⟩
    have hsub : (u :: Roster.kept r.key live i.sample) ⊆
        (Roster.titles (Roster.enter live r)).eraseDups := fun t ht => by
      rw [List.mem_eraseDups, Roster.mem_titles_enter]
      rcases List.mem_cons.mp ht with rfl | ht
      · exact Or.inr htitle
      · exact Or.inl (Roster.mem_kept.mp ht).2
    have hlength : k + 1 ≤ Roster.variety (Roster.enter live r) :=
      hfull ▸ (List.subperm_of_subset hnodup hsub).length_le
    omega
  intro t ht
  rw [(sample_add i now r).1, h.sample_replace hr now]
  by_cases hin : t ∈ Roster.kept r.key live i.sample
  · refine (mem_withTitle hk (h.length_kept_le r.key) (h.nodup_kept r.key) hin _).mpr ?_
    rintro ⟨u, htitle, hnew, hfull, -⟩
    exact hfits u htitle hnew hfull
  · refine (mem_withTitle_of_new hk (h.length_kept_le r.key) hin _).mpr ?_
    exact (Roster.mem_titles_enter.mp ht).resolve_left fun h => hin (hkept t h)

end Samples

/-! ## 5. Titles that leave and titles that come -/

namespace Op

/-- **An addition evicts a title**: it brings a title that is new to the sample, and the titles that
    other records carry fill the sample, so that the oldest of them goes. -/
def Evicts (k : Nat) (live : List Record) (sample : List Text) (t : Text) : Op → Prop
  | add _ r => ∃ u, r.title? = some u ∧ u ∉ Roster.kept r.key live sample ∧
      (Roster.kept r.key live sample).length = k ∧
      (Roster.kept r.key live sample).head? = some t
  | _ => False

/-- An addition brings a title. -/
def Brings (t : Text) : Op → Prop
  | add _ r => r.title? = some t
  | _ => False

end Op

namespace Samples

variable {i : Index} {k : Nat} {live : List Record} {op : Op} {t : Text} (hk : 1 ≤ k)
  (h : i.Samples k live) (hop : op.HasTexts) (hkey : op.key?.isSome)
include hk h hop hkey

/-- **A sampled title leaves** when no record carries it any more, or when it is evicted. -/
theorem leaves_iff (ht : t ∈ i.sample) : t ∉ (op.apply i).1.sample ↔
    t ∉ Roster.titles (op.roster live) ∨ op.Evicts k live i.sample t := by
  cases op with
  | build now records => cases hkey
  | clear => cases hkey
  | remove now kind id =>
      show t ∉ (i.remove now kind id).sample ↔ _ ∨ False
      rw [sample_remove h.holds h.carried, Roster.mem_kept, or_false, not_and]
      exact forall_prop_of_true ht
  | add now r =>
      show t ∉ (i.add now r).1.sample ↔ t ∉ Roster.titles (Roster.enter live r) ∨ _
      rw [(sample_add i now r).1, h.sample_replace hop now, Roster.mem_titles_enter]
      by_cases hkept : t ∈ Roster.kept r.key live i.sample
      · have hcarried := (Roster.mem_kept.mp hkept).2
        rw [mem_withTitle hk (h.length_kept_le r.key) (h.nodup_kept r.key) hkept, not_not,
          or_iff_right fun hno => hno (Or.inl hcarried)]
        rfl
      · have hlost : t ∉ Roster.titles (Roster.strike r.key live) := fun hmem =>
          hkept (Roster.mem_kept.mpr ⟨ht, hmem⟩)
        have hstays : ¬(Op.add now r).Evicts k live i.sample t := fun ⟨_, _, _, _, hhead⟩ =>
          hkept (List.mem_of_mem_head? hhead)
        rw [mem_withTitle_of_new hk (h.length_kept_le r.key) hkept, or_iff_left hstays,
          or_iff_right hlost]

/-- **A title comes** with an addition that brings it. -/
theorem comes_iff (ht : t ∉ i.sample) : t ∈ (op.apply i).1.sample ↔ op.Brings t := by
  have hnew : ∀ key, t ∉ Roster.kept key live i.sample := fun key hmem =>
    ht (Roster.mem_kept.mp hmem).1
  cases op with
  | build now records => cases hkey
  | clear => cases hkey
  | remove now kind id =>
      show t ∈ (i.remove now kind id).sample ↔ False
      rw [sample_remove h.holds h.carried]
      exact iff_false_intro (hnew (kind, id))
  | add now r =>
      show t ∈ (i.add now r).1.sample ↔ r.title? = some t
      rw [(sample_add i now r).1, h.sample_replace hop now]
      exact mem_withTitle_of_new hk (h.length_kept_le r.key) (hnew r.key) r.title?

end Samples

end Index

end Worklog
