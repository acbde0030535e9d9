import Worklog.Proofs.Query.Shorthand
import Worklog.Proofs.Search.Fresh
import Worklog.Proofs.Search.Paths

/-!
# Comparisons in the plan of a search

A search without syntax goes through the index, but a comparison such as `dur>30m` holds no syntax
either. So it is looked up as text where the filter `mindur:30m` is carried out as one:

* `Search.reads_words`: what goes through the index asks for words, and for lengths where there are
  comparisons among them;
* `Search.scored_of_wide`: where the panel keeps both from the index, the two spellings find the
  same;
* **`Search.fast_but_for_comparisons`**: all of this together;
* `Search.comparison_is_fast`: a comparison that goes through the index.
-/

namespace Worklog.Search

open Query

variable {p : Precision} {f : Panel} {v : Text} {seconds : Rat}

theorem noOperators_of_isFast {q : Text} (h : Plan.isFast q f = true) :
    Plan.hasOperators q = false := by
  unfold Plan.isFast at h
  simp only [Bool.and_eq_true, Bool.not_eq_true'] at h
  exact h.1.1.2

/-- What goes through the index asks for words, and for lengths where comparisons are among them. -/
theorem reads_words {q : Text} (h : Plan.isFast q f = true) (p : Precision) (now : Moment) :
    ∃ query, read p now q = .ok query ∧
      (query.excluded = [] ∧ query.apps = [] ∧ query.projects = [] ∧ query.days = []) ∧
      query.texts = (Text.words q).filter (fun w => (comparison? w).isNone) ∧
      (query.lengths = [] ∧ query.problems = [] ↔ ∀ w ∈ Text.words q, comparison? w = none) :=
  ⟨_, read_of_noOperators (noOperators_of_isFast h) p now, ofParts_words p (Text.words q)⟩

/-! ## 1. Plans -/

theorem path_longhand (v : Text) (f : Panel) : Plan.path (longhand v) f = .full :=
  path_of_operators rfl f

/-- A comparison goes through the index unless the panel is in the way. -/
theorem path_shorthand (hoperators : Plan.hasOperators (shorthand v) = false) :
    Plan.path (shorthand v) f = .full ↔ 1 < f.projects.length ∨ 1 < f.apps.length := by
  have hsome : (shorthand v).isEmpty = false := rfl
  have hfast : Plan.isFast (shorthand v) f =
      (decide (f.projects.length ≤ 1) && decide (f.apps.length ≤ 1)) := by
    unfold Plan.isFast
    rw [hsome, hoperators]
    rfl
  unfold Plan.path
  rw [hfast]
  by_cases hwide : 1 < f.projects.length ∨ 1 < f.apps.length
  · have hslow : ¬ (decide (f.projects.length ≤ 1) && decide (f.apps.length ≤ 1)) = true := by
      rw [Bool.and_eq_true, decide_eq_true_eq, decide_eq_true_eq]
      omega
    rw [if_neg hslow]
    exact iff_of_true rfl hwide
  · have hquick : (decide (f.projects.length ≤ 1) && decide (f.apps.length ≤ 1)) = true := by
      rw [Bool.and_eq_true, decide_eq_true_eq, decide_eq_true_eq]
      omega
    rw [if_pos hquick]
    exact iff_of_false (fun h => nomatch h) hwide

/-! ## 2. Answers -/

theorem accepted_of_read {t : Text} (hblank : Text.isBlankText t = false) {now : Moment}
    (hread : read p now t = .ok (leastLength seconds)) : Desk.refusal p now t = .ok none := by
  unfold Desk.refusal verdict
  rw [hblank, hread]
  rfl

/-- What the desk answers to a query that is carried out by criteria depends on its reading. -/
theorem scored_search_congr {d : Desk} {s : Surroundings} {q q' : Text} (asked asked' : Json)
    (hread : read p s.now q = read p s.now q') (hq : Plan.path q f = .full)
    (hq' : Plan.path q' f = .full) :
    (d.search p s asked q f none).2.map Results.scored =
      (d.search p s asked' q' f none).2.map Results.scored := by
  have hfull : full p (d.sources s) q f = full p (d.sources s) q' f := by
    unfold full
    rw [show (d.sources s).now = s.now from rfl, hread]
  have hrun : run p (d.sources s) q f (Plan.path q f) = full p (d.sources s) q' f := by
    rw [hq]
    exact hfull
  have hrun' : run p (d.sources s) q' f (Plan.path q' f) = full p (d.sources s) q' f := by
    rw [hq']
    rfl
  cases hfound : full p (d.sources s) q' f with
  | error fault =>
      rw [Desk.search_eq, Desk.search_eq, planned_of_failed (hrun.trans hfound),
        planned_of_failed (hrun'.trans hfound)]
      rfl
  | ok r =>
      rw [Desk.search_of_planned (planned_of_run (hrun.trans hfound)),
        Desk.search_of_planned (planned_of_run (hrun'.trans hfound))]
      cases d.flaw p s with
      | _ => rfl

/-- Where the panel keeps both from the index, the two spellings find the same. -/
theorem scored_of_wide (hblank : ∀ c ∈ v, Text.isBlank c = false)
    (h : Duration.parse p v = some seconds) (hwide : 1 < f.projects.length ∨ 1 < f.apps.length)
    {d : Desk} (hcache : d.cache = none) (s : Surroundings) :
    (d.execute p s (.str (shorthand v)) f).2.map Results.scored =
      (d.execute p s (.str (longhand v)) f).2.map Results.scored := by
  have hlower : ∀ c ∈ Text.lower v, Text.isBlank c = false := not_isBlank_lower hblank h
  have hparse : Duration.parse p (Text.lower v) = some seconds :=
    (Duration.parse_lowerFrom hblank h false).2
  have hshort := normalize_shorthand hblank h
  have hlong := normalize_longhand hblank h
  have hoperators := noOperators_shorthand hlower hparse
  have hread : read p s.now (shorthand (Text.lower v)) = read p s.now (longhand (Text.lower v)) :=
    (read_shorthand hlower hparse s.now).trans (read_longhand hlower hparse s.now).symm
  rw [Desk.execute_of_accepted hcache (accepted_of_read rfl (read_shorthand hblank h s.now))
      (hshort ▸ shorthand_ne_nil _),
    Desk.execute_of_accepted hcache (accepted_of_read rfl (read_longhand hblank h s.now))
      (hlong ▸ longhand_ne_nil _), hshort, hlong]
  exact scored_search_congr _ _ hread ((path_shorthand hoperators).mpr hwide) (path_longhand _ f)

/-- **What goes through the index is text but for comparisons.** It asks for no app, project or day
    and excludes nothing, and it asks for lengths only where a word of it is a comparison. A length
    `v` is read alike from `dur>v` and from `mindur:v`; but the second is always carried out as a
    filter and the first only if the panel selects several projects or several apps. In that case
    the two find the same records with the same scores. -/
theorem fast_but_for_comparisons (p : Precision) (now : Moment) (f : Panel) :
    (∀ q, Plan.isFast (normalize q) f = true → ∃ query, read p now (normalize q) = .ok query ∧
      (query.excluded = [] ∧ query.apps = [] ∧ query.projects = [] ∧ query.days = []) ∧
      query.texts = (Text.words (normalize q)).filter (fun w => (comparison? w).isNone) ∧
      (query.lengths = [] ∧ query.problems = [] ↔
        ∀ w ∈ Text.words (normalize q), comparison? w = none)) ∧
    ∀ v seconds, (∀ c ∈ v, Text.isBlank c = false) → Duration.parse p v = some seconds →
      read p now (normalize ("dur>".toList ++ v)) = .ok (leastLength seconds) ∧
      read p now (normalize ("mindur:".toList ++ v)) = .ok (leastLength seconds) ∧
      Plan.path (normalize ("mindur:".toList ++ v)) f = .full ∧
      (Plan.path (normalize ("dur>".toList ++ v)) f = .full ↔
        1 < f.projects.length ∨ 1 < f.apps.length) ∧
      (1 < f.projects.length ∨ 1 < f.apps.length → ∀ (d : Desk) (s : Surroundings),
        d.cache = none →
        (d.execute p s (.str ("dur>".toList ++ v)) f).2.map Results.scored =
          (d.execute p s (.str ("mindur:".toList ++ v)) f).2.map Results.scored) := by
  refine ⟨fun q hfast => reads_words hfast p now, fun v seconds hblank h => ?_⟩
  have hlower : ∀ c ∈ Text.lower v, Text.isBlank c = false := not_isBlank_lower hblank h
  have hparse : Duration.parse p (Text.lower v) = some seconds :=
    (Duration.parse_lowerFrom hblank h false).2
  have hshort : normalize ("dur>".toList ++ v) = shorthand (Text.lower v) :=
    normalize_shorthand hblank h
  have hlong : normalize ("mindur:".toList ++ v) = longhand (Text.lower v) :=
    normalize_longhand hblank h
  rw [hshort, hlong]
  exact ⟨read_shorthand hlower hparse now, read_longhand hlower hparse now, path_longhand _ f,
    path_shorthand (noOperators_shorthand hlower hparse),
    fun hwide d s hcache => scored_of_wide hblank h hwide hcache s⟩

/-- A word and a comparison go through the index together; two selected apps keep a comparison from
    it. -/
theorem fast_but_for_comparisons_half_hour :
    (∃ query, read .double default (normalize "qa dur>30m".toList) = .ok query ∧
      query.texts = ["qa".toList] ∧ ¬(query.lengths = [] ∧ query.problems = [])) ∧
    Plan.path (normalize "dur>30M".toList)
      { Panel.blank with apps := [.str "Editor".toList, .str "Mail".toList] } = .full := by
  obtain ⟨hreads, -⟩ := fast_but_for_comparisons .double default .blank
  obtain ⟨-, hlengths⟩ := fast_but_for_comparisons .double default
    { Panel.blank with apps := [.str "Editor".toList, .str "Mail".toList] }
  obtain ⟨query, hread, -, htexts, hwords⟩ := hreads "qa dur>30m".toList (by decide)
  obtain ⟨-, -, -, hpath, -⟩ := hlengths "30M".toList 1800
    (Text.forall_mem_of_all (by decide)) (by decide +kernel)
  exact ⟨⟨query, hread, htexts.trans (by decide), fun h => absurd (hwords.mp h) (by decide)⟩,
    hpath.mpr (Or.inr (by decide))⟩

/-- A comparison with half an hour goes through the index, and asks for a length. -/
theorem comparison_is_fast :
    ¬ ∀ q f, Plan.isFast (normalize q) f = true → ∃ query,
      read .double default (normalize q) = .ok query ∧
        query = { Query.blank with texts := query.texts } := by
  intro h
  obtain ⟨query, hread, htexts⟩ := h "dur>30m".toList .blank rfl
  have hlengths : read .double default (normalize "dur>30m".toList) = .ok (leastLength 1800) :=
    read_shorthand (Text.forall_mem_of_all (by decide)) (by decide +kernel) default
  rw [hlengths] at hread
  cases hread
  exact absurd (congrArg Query.lengths htexts) (List.cons_ne_nil _ _)

end Worklog.Search
