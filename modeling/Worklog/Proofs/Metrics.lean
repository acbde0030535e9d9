import Mathlib.Tactic.FieldSimp
import Mathlib.Tactic.Ring
import Worklog.Metrics
import Worklog.Proofs.Histogram
import Worklog.Proofs.Table

/-!
# What metrics say about the searches

Metrics are kept up with every search, and from time to time forget rare queries. What they say can
be told from the list of all searches: each of their figures is a figure of this list or of its end,
the mean included, which is never computed anew but moved a little by each time.

* `Metrics.Use`, `Metrics.run`: searches, and when queries are forgotten;
* **`Metrics.Reports.record`**: a search more is a search more in each figure;
* `Metrics.IsRank`, `Metrics.exists_median`: **the median** of the window;
* `Metrics.topQueries_compact`: **no frequent query is forgotten**, and none changes its rank;
* **`Metrics.run_reports`**: the figures after any run.
-/

namespace Worklog

namespace Metrics

/-! ## 1. Runs -/

/-- A search: its query, the number of its results, its time, and whether the cache answered it. -/
structure Sample where
  query : Text
  count : Amount
  seconds : Amount
  hit : Bool

/-- **What may be done with metrics.** -/
inductive Use where
  | record (x : Sample)
  | compact

namespace Use

/-- **What a use leaves of metrics**, and what went wrong, if anything did. -/
def apply (m : Metrics) : Use → Metrics × Option Fault
  | record x => m.record .exact x.query x.count x.seconds x.hit
  | compact => (m.compact, none)

/-- The search of a use, if it is one. -/
def sample? : Use → Option Sample
  | record x => some x
  | compact => none

end Use

/-- **Metrics after some uses**, and all that went wrong. -/
def run (m : Metrics) (us : List Use) : Metrics × List Fault :=
  us.foldl (fun r u => ((u.apply r.1).1, r.2 ++ (u.apply r.1).2.toList)) (m, [])

/-- The searches among some uses. -/
def samples (us : List Use) : List Sample := us.filterMap Use.sample?

theorem run_concat (m : Metrics) (us : List Use) (u : Use) : m.run (us ++ [u]) =
    ((u.apply (m.run us).1).1, (m.run us).2 ++ (u.apply (m.run us).1).2.toList) := by
  unfold run
  rw [List.foldl_append]
  rfl

theorem samples_concat (us : List Use) (u : Use) :
    samples (us ++ [u]) = samples us ++ u.sample?.toList := by
  unfold samples
  rw [List.filterMap_append]
  cases u <;> rfl

/-! ## 2. The figures -/

/-- The latest items of a list, as many as are kept. -/
def latest {α : Type} (l : List α) : List α := l.drop (l.length - window)

/-- **A window after one item more** holds the latest items, if it did before. -/
theorem pushLatest_latest {α : Type} (l : List α) (a : α) :
    pushLatest window (latest l) a = latest (l ++ [a]) := pushLatest_rtake window l a

/-- The time of a search in milliseconds. -/
def Sample.millis (x : Sample) : Amount := x.seconds.scale .exact 1000

/-- **Metrics report some searches**: each figure is one of these searches, or of the latest of
    them. -/
structure Reports (slow : Amount) (xs : List Sample) (m : Metrics) : Prop where
  slowSeconds : m.slowSeconds = slow
  searches : m.searches = xs.length
  hits : m.hits = xs.countP (·.hit)
  slow : m.slow = xs.countP (slow.lt ·.seconds)
  mean : m.meanSeconds.Denotes ((xs.map (·.seconds.value)).sum / xs.length)
  seconds : m.seconds = latest (xs.map (·.seconds))
  counts : m.counts = latest (xs.map (·.count))
  histogram : ∃ sum, sum.IsRational ∧
    m.histogram = .ofNumbers Histogram.responseBounds (xs.map Sample.millis) sum

theorem isScale_responseBounds : Histogram.IsScale Histogram.responseBounds :=
  ⟨by decide, by decide, by decide⟩

theorem reports_start (slow : Amount) : (start slow).Reports slow [] where
  slowSeconds := rfl
  searches := rfl
  hits := rfl
  slow := rfl
  mean := by
    rw [List.length_nil, Nat.cast_zero, div_zero]
    exact Quantity.denotes_finite 0
  seconds := rfl
  counts := rfl
  histogram := ⟨.whole 0, Amount.denotes_whole 0, Histogram.ofBounds_eq _⟩

/-- **The mean of some numbers and one more** is their mean, moved by a part of the difference. -/
theorem mean_concat (s x : Rat) (n : Nat) (hs : n = 0 → s = 0) :
    s / n + (x - s / n) / (n + 1 : Nat) = (s + x) / (n + 1 : Nat) := by
  rcases Nat.eq_zero_or_pos n with rfl | hn
  · rw [hs rfl]
    simp
  · have hn' : (n : Rat) ≠ 0 := Nat.cast_ne_zero.mpr hn.ne'
    have hn'' : (n : Rat) + 1 ≠ 0 := Nat.cast_add_one_ne_zero n
    rw [Nat.cast_succ]
    field_simp
    ring

namespace Reports

variable {slow : Amount} {xs : List Sample} {m : Metrics} (h : m.Reports slow xs)
include h

theorem exists_mean {seconds : Amount} (hseconds : seconds.IsRational) (hit : Bool) :
    ∃ mean, (m.withSearch hit).meanWith .exact seconds = .ok mean ∧
      mean.Denotes (((xs.map (·.seconds.value)).sum + seconds.value) / (xs.length + 1 : Nat)) := by
  obtain ⟨difference, hminus, hdifference⟩ := hseconds.minus h.mean
  have hminus' : seconds.minus .exact (m.withSearch hit).meanSeconds = .ok difference := hminus
  have hsearches : (m.withSearch hit).searches = xs.length + 1 := congrArg (· + 1) h.searches
  have hzero : xs.length = 0 → (xs.map (·.seconds.value)).sum = 0 := fun hnil => by
    rw [List.length_eq_zero_iff.mp hnil]
    rfl
  have hmean := h.mean.plus (hdifference.ratio ((xs.length + 1 : Nat) : Rat))
  rw [mean_concat _ _ _ hzero] at hmean
  refine ⟨_, ?_, hmean⟩
  unfold meanWith
  rw [hminus', hsearches]
  rfl

theorem exists_histogram {x : Sample} (hx : x.seconds.IsRational) :
    ∃ g, m.histogram.record .exact x.millis = .ok g ∧ ∃ sum, sum.IsRational ∧
      g = .ofNumbers Histogram.responseBounds ((xs ++ [x]).map Sample.millis) sum := by
  obtain ⟨sum, hsum, hhistogram⟩ := h.histogram
  obtain ⟨more, hmore, hrecord⟩ := Histogram.record_ofNumbers isScale_responseBounds
    (xs.map Sample.millis) hsum (x := x.millis) (Amount.Denotes.scale hx 1000).isRational
  refine ⟨_, ?_, more, hmore.isRational, rfl⟩
  rw [hhistogram, List.map_append]
  exact hrecord

/-- **One search more.** -/
theorem record {x : Sample} (hx : x.seconds.IsRational) :
    ((Use.record x).apply m).1.Reports slow (xs ++ [x]) ∧ ((Use.record x).apply m).2 = none := by
  obtain ⟨mean, hwith, hmean⟩ := h.exists_mean hx x.hit
  obtain ⟨g, hrecord, hhistogram⟩ := h.exists_histogram hx
  have hrecord' : ((m.withSearch x.hit).withSample mean x.count x.seconds).histogram.record .exact
      (x.seconds.scale .exact 1000) = .ok g := hrecord
  have happly : (Use.record x).apply m = (((m.withSearch x.hit).withSample mean x.count
      x.seconds).withQuery g x.query x.seconds, none) := by
    unfold Use.apply Metrics.record
    simp only [hwith, hrecord']
  have hlength : (xs ++ [x]).length = xs.length + 1 := List.length_append
  rw [happly]
  refine ⟨⟨h.slowSeconds, ?_, ?_, ?_, ?_, ?_, ?_, hhistogram⟩, rfl⟩
  · rw [hlength, ← h.searches]
    rfl
  · rw [List.countP_append, ← h.hits, List.countP_singleton]
    show (if x.hit then m.hits + 1 else m.hits) = _
    split <;> rfl
  · rw [List.countP_append, ← h.slow, List.countP_singleton, ← h.slowSeconds]
    show (if m.slowSeconds.lt x.seconds then m.slow + 1 else m.slow) = _
    split <;> rfl
  · rw [hlength, List.map_append, List.sum_append, List.map_singleton, List.sum_singleton]
    exact hmean
  · rw [List.map_append, List.map_singleton, ← pushLatest_latest, ← h.seconds]
    simp only [withQuery, withSample, withSearch]
  · rw [List.map_append, List.map_singleton, ← pushLatest_latest, ← h.counts]
    simp only [withQuery, withSample, withSearch]

/-- Forgetting queries changes no figure. -/
theorem compact : m.compact.Reports slow xs := by
  unfold Metrics.compact
  split
  · exact ⟨h.slowSeconds, h.searches, h.hits, h.slow, h.mean, h.seconds, h.counts, h.histogram⟩
  · exact h

/-- The histogram counts every search. -/
theorem histogram_total : m.histogram.total = m.searches := by
  obtain ⟨sum, -, hhistogram⟩ := h.histogram
  rw [hhistogram, h.searches]
  exact List.length_map _

end Reports

/-! ## 3. The median -/

/-- **An amount of some rank**: at most so many amounts are smaller, and more are no greater. -/
structure IsRank (l : List Amount) (k : Nat) (a : Amount) : Prop where
  mem : a ∈ l
  smaller : l.countP (·.lt a) ≤ k
  notGreater : k < l.countP (·.le a)

/-- **The median of some amounts**: the mean of the two in the middle, or zero without any. -/
def IsMedian (l : List Amount) (x : Rat) : Prop :=
  (l = [] ∧ x = 0) ∨
    ∃ lower upper, IsRank l ((l.length - 1) / 2) lower ∧ IsRank l (l.length / 2) upper ∧
      x = (lower.value + upper.value) / 2

section Median

variable {l m : List Amount} {k : Nat} {a : Amount}

theorem IsRank.perm (h : IsRank l k a) (hp : l.Perm m) : IsRank m k a where
  mem := hp.mem_iff.mp h.mem
  smaller := hp.countP_eq _ ▸ h.smaller
  notGreater := hp.countP_eq _ ▸ h.notGreater

/-- **In order, the rank is the position.** -/
theorem isRank_append {before after : List Amount}
    (hl : ∀ b ∈ before ++ a :: after, b.IsRational)
    (hsorted : (before ++ a :: after).Pairwise fun a b => a.value ≤ b.value) :
    IsRank (before ++ a :: after) before.length a := by
  rw [List.pairwise_append, List.pairwise_cons] at hsorted
  obtain ⟨-, ⟨hafter, -⟩, hbefore⟩ := hsorted
  have hmem : a ∈ before ++ a :: after := List.mem_append_right _ List.mem_cons_self
  have hself : a.value ≤ a.value := le_refl _
  refine ⟨hmem, ?_, ?_⟩
  · have hnone : (a :: after).countP (·.lt a) = 0 := List.countP_eq_zero.mpr fun b hb => by
      have hle : a.value ≤ b.value := by
        rcases List.mem_cons.mp hb with rfl | hb
        · exact hself
        · exact hafter b hb
      rw [Amount.Denotes.lt (hl b (List.mem_append_right _ hb)) (hl a hmem), decide_eq_true_eq]
      exact not_lt.mpr hle
    rw [List.countP_append, hnone]
    exact List.countP_le_length
  · have hall : before.countP (·.le a) = before.length := List.countP_eq_length.mpr fun b hb => by
      rw [Amount.Denotes.le (hl b (List.mem_append_left _ hb)) (hl a hmem)]
      exact decide_eq_true (hbefore b hb a List.mem_cons_self)
    have hitself : a.le a = true := by
      rw [Amount.Denotes.le (hl a hmem) (hl a hmem)]
      exact decide_eq_true hself
    rw [List.countP_append, hall, List.countP_cons, if_pos hitself]
    omega

theorem isRank_of_pairwise (hl : ∀ b ∈ l, b.IsRational)
    (hsorted : l.Pairwise fun a b => a.value ≤ b.value) (hk : l[k]? = some a) : IsRank l k a := by
  obtain ⟨hlt, rfl⟩ := List.getElem?_eq_some_iff.mp hk
  have hsplit : l.take k ++ l[k] :: l.drop (k + 1) = l := by
    rw [List.getElem_cons_drop, List.take_append_drop]
  have hrank := isRank_append (hsplit.symm ▸ hl) (hsplit.symm ▸ hsorted)
  rwa [hsplit, List.length_take_of_le hlt.le] at hrank

/-- Rationals are sorted by their values. -/
theorem pairwise_mergeSort_le (hl : ∀ a ∈ l, a.IsRational) :
    (l.mergeSort Amount.le).Pairwise fun a b => a.value ≤ b.value := by
  have hsame : l.mergeSort Amount.le = l.mergeSort fun a b => decide (a.value ≤ b.value) := by
    have hmap := List.map_mergeSort (r := Amount.le) (f := id)
      (s := fun a b => decide (a.value ≤ b.value)) (l := l) fun a ha b hb =>
        Amount.Denotes.le (hl a ha) (hl b hb)
    rwa [List.map_id, List.map_id] at hmap
  rw [hsame]
  refine (List.pairwise_mergeSort (fun a b c hab hbc => ?_) (fun a b => ?_) l).imp of_decide_eq_true
  · exact decide_eq_true ((of_decide_eq_true hab).trans (of_decide_eq_true hbc))
  · rw [Bool.or_eq_true, decide_eq_true_eq, decide_eq_true_eq]
    exact le_total _ _

/-- **The median of the window.** -/
theorem exists_median {m : Metrics} (hm : ∀ a ∈ m.seconds, a.IsRational) :
    ∃ a x, m.medianSeconds .exact = .ok a ∧ a.Denotes x ∧ IsMedian m.seconds x := by
  unfold medianSeconds
  by_cases hempty : m.seconds = []
  · rw [if_pos (List.isEmpty_iff.mpr hempty)]
    exact ⟨_, 0, rfl, Amount.denotes_ofRat 0, Or.inl ⟨hempty, rfl⟩⟩
  · rw [if_neg (mt List.isEmpty_iff.mp hempty)]
    have hpos : 0 < m.seconds.length := List.length_pos_iff.mpr hempty
    have hperm : (m.seconds.mergeSort Amount.le).Perm m.seconds := List.mergeSort_perm _ _
    have hmem : ∀ a ∈ m.seconds.mergeSort Amount.le, a.IsRational := fun a ha =>
      hm a (hperm.mem_iff.mp ha)
    have hrank : ∀ {k}, k < m.seconds.length → ∃ a,
        (m.seconds.mergeSort Amount.le)[k]? = some a ∧ a.IsRational ∧ IsRank m.seconds k a :=
      fun {k} hk => by
        have hget := List.getElem?_eq_getElem (hperm.length_eq.symm ▸ hk)
        exact ⟨_, hget, hmem _ (List.mem_of_getElem? hget),
          (isRank_of_pairwise hmem (pairwise_mergeSort_le hm) hget).perm hperm⟩
    obtain ⟨upper, hupper, hrational, hrankUpper⟩ := hrank (Nat.div_lt_self hpos Nat.one_lt_two)
    unfold middle
    simp only [hperm.length_eq, hupper, Option.getD_some]
    by_cases hodd : m.seconds.length % 2 = 1
    · have hmid : (m.seconds.length - 1) / 2 = m.seconds.length / 2 := by omega
      rw [if_pos hodd]
      refine ⟨upper, _, rfl, hrational, Or.inr ⟨upper, upper, ?_, hrankUpper, ?_⟩⟩
      · rwa [hmid]
      · ring
    · have hmid : (m.seconds.length - 1) / 2 = m.seconds.length / 2 - 1 := by omega
      obtain ⟨lower, hlower, hrational', hrankLower⟩ :=
        hrank (k := m.seconds.length / 2 - 1) (by omega)
      obtain ⟨sum, hadd, hsum⟩ := hrational'.add hrational
      obtain ⟨half, hratio, hhalf⟩ := hsum.ratio 2
      rw [if_neg hodd, hlower, Option.getD_some, hadd, ok_bind, hratio]
      exact ⟨_, _, rfl, hhalf, Or.inr ⟨lower, upper, hmid ▸ hrankLower, hrankUpper, rfl⟩⟩

end Median

/-! ## 4. Frequent queries -/

/-- Choosing among the most frequent is choosing among all, ties included. -/
theorem mostCommon_mostCommon {κ : Type} [DecidableEq κ] (t : Tally κ) {m n : Int} (h : n ≤ m) :
    Tally.mostCommon n (Tally.mostCommon m t) = Tally.mostCommon n t := by
  have hsorted : (t.mergeSort fun a b => decide (b.2 ≤ a.2)).Pairwise
      fun a b => decide (b.2 ≤ a.2) = true := by
    apply List.pairwise_mergeSort
    · intro a b c hab hbc
      exact decide_eq_true ((of_decide_eq_true hbc).trans (of_decide_eq_true hab))
    · intro a b
      rw [Bool.or_eq_true, decide_eq_true_eq, decide_eq_true_eq]
      exact Nat.le_total _ _
  unfold Tally.mostCommon
  rw [List.mergeSort_of_pairwise (hsorted.sublist (List.take_sublist _ _)), List.take_take,
    Nat.min_eq_left (Int.toNat_le_toNat h)]

theorem length_mostCommon_le {κ : Type} [DecidableEq κ] (t : Tally κ) (n : Nat) :
    (Tally.mostCommon n t).length ≤ n := List.length_take_le _ _

theorem compact_of_le {m : Metrics} (h : m.queries.length ≤ maxQueries) : m.compact = m :=
  if_neg (Nat.not_lt_of_ge h)

theorem compact_of_lt {m : Metrics} (h : maxQueries < m.queries.length) :
    m.compact = { m with queries := Tally.mostCommon maxQueries m.queries } := if_pos h

/-- **Forgetting leaves the most frequent queries**, at most so many. -/
theorem length_queries_compact (m : Metrics) : m.compact.queries.length ≤ maxQueries := by
  rcases Nat.lt_or_ge maxQueries m.queries.length with h | h
  · rw [compact_of_lt h]
    exact length_mostCommon_le _ _
  · rw [compact_of_le h]
    exact h

/-- **No frequent query is forgotten**, and none changes its rank. -/
theorem topQueries_compact (m : Metrics) {n : Int} (hn : n ≤ maxQueries) :
    m.compact.topQueries n = m.topQueries n := by
  rcases Nat.lt_or_ge maxQueries m.queries.length with h | h
  · rw [compact_of_lt h]
    exact congrArg (List.map (·.1)) (mostCommon_mostCommon m.queries hn)
  · rw [compact_of_le h]

/-- **Metrics forget only rare queries**, and only if there are many. -/
structure ForgetsRare (m : Metrics) : Prop where
  few : m.compact.queries.length ≤ maxQueries
  twice : m.compact.compact = m.compact
  nothing : m.queries.length ≤ maxQueries → m.compact = m
  top : ∀ n : Int, n ≤ maxQueries → m.compact.topQueries n = m.topQueries n

theorem forgetsRare (m : Metrics) : m.ForgetsRare where
  few := m.length_queries_compact
  twice := compact_of_le m.length_queries_compact
  nothing := compact_of_le
  top _ := m.topQueries_compact

/-! ## 5. All runs -/

/-- Each use keeps the figures, and nothing goes wrong. -/
theorem Reports.apply {slow : Amount} {xs : List Sample} {m : Metrics} (h : m.Reports slow xs)
    (u : Use) (hu : ∀ x, u = .record x → x.seconds.IsRational) :
    (u.apply m).1.Reports slow (xs ++ u.sample?.toList) ∧ (u.apply m).2 = none := by
  cases u with
  | record x => exact h.record (hu x rfl)
  | compact => exact ⟨(List.append_nil xs).symm ▸ h.compact, rfl⟩

theorem reports_run (slow : Amount) (us : List Use)
    (hus : ∀ x, .record x ∈ us → x.seconds.IsRational) :
    ((start slow).run us).1.Reports slow (samples us) ∧ ((start slow).run us).2 = [] := by
  induction us using List.reverseRecOn with
  | nil => exact ⟨reports_start slow, rfl⟩
  | append_singleton us u ih =>
      obtain ⟨hreports, hfaults⟩ := ih fun x hx => hus x (List.mem_append_left _ hx)
      obtain ⟨hreports', hfault⟩ := hreports.apply u fun x hx =>
        hus x (List.mem_append_right _ (List.mem_singleton.mpr hx.symm))
      rw [run_concat, samples_concat, hfaults, hfault]
      exact ⟨hreports', rfl⟩

/-- The times in the window are among the times of the searches. -/
theorem Reports.isRational {slow : Amount} {xs : List Sample} {m : Metrics} (h : m.Reports slow xs)
    (hxs : ∀ x ∈ xs, x.seconds.IsRational) : ∀ a ∈ m.seconds, a.IsRational := fun a ha => by
  rw [h.seconds] at ha
  obtain ⟨x, hx, rfl⟩ := List.mem_map.mp (List.mem_of_mem_drop ha)
  exact hxs x hx

/-- **The figures after any run** of searches that took a rational time: they are those of the
    searches, the median that of the latest of them; nothing goes wrong, and forgetting queries
    spares the frequent ones. -/
theorem run_reports (slow : Amount) (us : List Use)
    (hus : ∀ x, .record x ∈ us → x.seconds.IsRational) :
    ∃ m, (start slow).run us = (m, []) ∧ m.Reports slow (samples us) ∧
      (∃ a x, m.medianSeconds .exact = .ok a ∧ a.Denotes x ∧ IsMedian m.seconds x) ∧
      m.histogram.total = m.searches ∧ m.ForgetsRare := by
  obtain ⟨hreports, hfaults⟩ := reports_run slow us hus
  have hsamples : ∀ x ∈ samples us, x.seconds.IsRational := fun x hx => by
    obtain ⟨u, hu, hsample⟩ := List.mem_filterMap.mp hx
    cases u with
    | record y =>
        obtain rfl : y = x := Option.some.inj hsample
        exact hus y hu
    | compact => cases hsample
  exact ⟨_, Prod.ext rfl hfaults, hreports, exists_median (hreports.isRational hsamples),
    hreports.histogram_total, forgetsRare _⟩

/-- Three searches, two of them slow, and queries that are forgotten in between. -/
theorem run_reports_three :
    let us : List Use := [.record ⟨['a'], .whole 2, .ofRat (1 / 2), false⟩,
      .record ⟨['b'], .whole 0, .whole 2, true⟩, .compact,
      .record ⟨['b'], .whole 0, .ofRat (3 / 2), true⟩]
    ∃ m, (start (.ofRat 1)).run us = (m, []) ∧ m.Reports (.ofRat 1) (samples us) ∧
      m.searches = 3 ∧ m.hits = 2 ∧ m.slow = 2 ∧ m.meanSeconds = .finite (4 / 3) ∧
      ∃ a x, m.medianSeconds .exact = .ok a ∧ a.Denotes x ∧ IsMedian m.seconds x := by
  intro us
  obtain ⟨m, hrun, hreports, hmedian, -⟩ := run_reports (.ofRat 1) us fun x hx => by
    simp only [us, List.mem_cons, Use.record.injEq, reduceCtorEq, List.not_mem_nil, or_false,
      false_or] at hx
    rcases hx with rfl | rfl | rfl <;> decide +kernel
  have hm : m = ((start (.ofRat 1)).run us).1 := by rw [hrun]
  refine ⟨m, hrun, hreports, hreports.searches, hreports.hits, ?_, ?_, hmedian⟩
  · rw [hreports.slow]
    decide +kernel
  · rw [hm]
    decide +kernel

end Metrics

end Worklog
