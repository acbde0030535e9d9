import Worklog.Proofs.Query.Contentless
import Worklog.Proofs.Search.Fresh
import Worklog.Proofs.Search.Paths

/-!
# Searches without content

A query without content may hold syntax, as do `-""` and a stop word in quotes. Then it is carried
out by criteria that ask nothing, and these let every record pass; without syntax it goes through
the index and finds nothing there:

* `Search.fast_of_contentWords`: without content words the index finds nothing;
* `Search.full_of_isContentless`, `Search.full_nil_ok`: criteria that ask nothing find all records;
* **`Search.contentless_answer`**: what is answered to a query without content;
* `Search.contentless_finds_project`: a query without content that finds a project.
-/

namespace Worklog

/-- A blank panel keeps nothing out. -/
theorem Panel.admits_blank (p : Precision) (now : Moment) (r : Record) :
    blank.admits p now r = true := by
  cases r with
  | _ => rfl

namespace Search

open Query

variable {p : Precision} {src : Sources} {f : Panel} {q : Text}

/-! ## 1. The two paths -/

/-- Without content words nothing is found in an index. -/
theorem find_of_contentWords (h : Term.contentWords q = []) (i : Index) (kind : RecordKind) :
    i.find kind q = [] := by
  unfold Index.find Term.ofText
  rw [h]
  rfl

theorem rank_nil (p : Precision) (text : Text) (now : Moment) :
    rank p text now [] [] [] = .ok (.found [] [] []) := by
  have hranked : ∀ {α : Type} (score : α → Except Fault Rat), Score.ranked score [] = .ok [] :=
    fun {α} score => by
      show Except.ok (Score.sorted ([] : List (Scored α))) = _
      rw [Score.sorted, List.mergeSort_nil]
  unfold rank
  rw [hranked, hranked, hranked]
  rfl

/-- **Without content words, a search through the index finds nothing**, and does not look into the
    store. -/
theorem fast_of_contentWords (h : Term.contentWords q = []) (p : Precision) (src : Sources)
    (f : Panel) : fast p src q f = .ok (.found [] [] []) := by
  unfold fast
  rw [find_of_contentWords h, find_of_contentWords h, find_of_contentWords h]
  exact rank_nil p q src.now

section Criteria

variable {query : Query}

theorem textCriteria_of_isContentless (h : query.IsContentless) :
    textCriteria query = textCriteria .blank := by
  unfold textCriteria
  rw [h.texts, h.excluded]
  rfl

theorem timeCriteria_of_isContentless (h : query.IsContentless) (now : Moment) :
    timeCriteria query f now = timeCriteria .blank f now := by
  unfold timeCriteria
  rw [h.days, h.lengths]
  rfl

/-- **A query without content is carried out like no query**, by the criteria of the panel. -/
theorem full_of_isContentless (hread : read p src.now q = .ok query) (h : query.IsContentless)
    (f : Panel) : full p src q f = full p src [] f := by
  have htext := textCriteria_of_isContentless h
  have htime := timeCriteria_of_isContentless (f := f) h src.now
  have hactivities : fullActivities p src query f = fullActivities p src .blank f := by
    unfold fullActivities activityCriteria
    rw [htext, htime, h.projects, h.apps]
    rfl
  have hothers : fullOthers p src query f = fullOthers p src .blank f := by
    unfold fullOthers queryProjects timeEntryCriteria projectCriteria
    rw [htext, htime, h.projects, h.apps]
    rfl
  have hranking : rankingText query = rankingText .blank := by
    unfold rankingText
    rw [h.texts]
    rfl
  have hblank : read p src.now [] = .ok .blank := rfl
  unfold full
  rw [hread, hblank, ok_bind, ok_bind, hactivities, hothers, hranking]

end Criteria

/-- **No query finds all records**, with a blank panel. -/
theorem full_nil_ok (p : Precision) (src : Sources) (hs : src.store.IsSound)
    (ha : src.store.available = true) :
    ∃ res, full p src [] .blank = .ok res ∧ ∀ r, r ∈ res.records ↔ r ∈ src.store.records := by
  have hplain : IsPlain [] := ⟨rfl, rfl, fun w hw => nomatch hw⟩
  obtain ⟨res, hres, hscored⟩ := full_ok (p := p) src hs ha (f := .blank) (by decide) hplain
  refine ⟨res, hres, fun r => ?_⟩
  rw [Results.mem_records_of (fun r hr => hs.complete_of_mem hr.1) hscored]
  exact ⟨fun h => h.1, fun h => ⟨h, rfl, Panel.admits_blank p src.now r⟩⟩

/-- No search by criteria gets past a store that is not available. -/
theorem full_nil_unavailable (p : Precision) (src : Sources) (f : Panel)
    (ha : src.store.available = false) : full p src [] f = .error .storeUnavailable := by
  have hread : fullActivities p src .blank f = .error .storeUnavailable := by
    show src.store.reading _ = _
    unfold Store.reading
    rw [if_neg (ha ▸ Bool.false_ne_true)]
  have hblank : read p src.now [] = .ok .blank := rfl
  unfold full
  rw [hblank, ok_bind, hread]
  rfl

/-! ## 2. Answers -/

/-- With a blank panel it depends on the syntax of a query how it is carried out. -/
theorem path_blank (hne : q ≠ []) :
    Plan.path q .blank = if Plan.hasOperators q then .full else .fast := by
  have hsome : q.isEmpty = false := Bool.eq_false_iff.mpr fun e => hne (List.isEmpty_iff.mp e)
  unfold Plan.path Plan.isFast
  rw [hsome]
  cases Plan.hasOperators q with
  | true => rfl
  | false => rfl

section Answers

variable {d : Desk} {s : Surroundings} {t : Text} {query : Query}

/-- What is found on its path is answered to a search, unless the metrics come to a fault. -/
theorem search_of_run (hflaw : d.flaw p s = none) {r : Results}
    (h : run p (d.sources s) q f (Plan.path q f) = .ok r) (asked : Json) :
    ∃ r', (d.search p s asked q f none).2 = .ok r' ∧
      r'.records = r.records ∧ r'.total = r.total := by
  rw [Desk.search_of_planned (planned_of_run h), hflaw]
  exact ⟨_, rfl, rfl, rfl⟩

/-- A search that fails is answered with no record. -/
theorem search_of_failed {fault : Fault}
    (h : run p (d.sources s) q f (Plan.path q f) = .error fault) (asked : Json) :
    ∃ r, (d.search p s asked q f none).2 = .ok r ∧ r.records = [] ∧ r.total = 0 := by
  rw [Desk.search_eq, planned_of_failed h]
  exact ⟨_, rfl, rfl, rfl⟩

/-- With a blank panel, a fresh desk answers an accepted query with what a search for its normal
    form finds. -/
theorem execute_of_search (hfresh : d.IsFresh p s)
    (haccepted : Desk.refusal p s.now t = .ok none) (hne : normalize t ≠ []) {r : Results}
    (h : ({ d with cache := none }.search p s (.str t) (normalize t) .blank none).2 = .ok r) :
    ∃ r', (d.execute p s (.str t) .blank).2 = .ok r' ∧
      r'.records = r.records ∧ r'.total = r.total := by
  rw [← Desk.execute_of_accepted (d := { d with cache := none }) rfl haccepted hne] at h
  obtain ⟨r', hr', rfl⟩ := hfresh.execute_of_plain Panel.isKeyed_blank rfl h
  exact ⟨r', hr', rfl, rfl⟩

theorem answer_of_refused {why : Refusal} (h : Desk.refusal p s.now t = .ok (some why)) :
    ∃ r, (d.execute p s (.str t) f).2 = .ok r ∧ r.records = [] ∧ r.total = 0 := by
  have hnone : ∀ words : Text, (Results.failed words).records = [] ∧
      (Results.failed words).total = 0 := fun _ => ⟨rfl, rfl⟩
  exact ⟨_, Desk.execute_of_refused h, hnone why.message⟩

/-- Without syntax, nothing is found for an accepted query without content. -/
theorem answer_of_noOperators (hfresh : d.IsFresh p s) (hflaw : d.flaw p s = none)
    (hread : read p s.now (normalize t) = .ok query) (hquery : query.IsContentless)
    (h : Plan.hasOperators t = false) (haccepted : Desk.refusal p s.now t = .ok none) :
    ∃ r, (d.execute p s (.str t) .blank).2 = .ok r ∧ r.records = [] ∧ r.total = 0 := by
  by_cases hne : normalize t = []
  · exact ⟨.empty, Desk.execute_of_nothing haccepted hne rfl, rfl, rfl⟩
  · have hrun : run p (d.sources s) (normalize t) .blank (Plan.path (normalize t) .blank) =
        .ok (.found [] [] []) := by
      rw [path_blank hne, hasOperators_normalize, h]
      exact fast_of_contentWords (contentWords_of_isContentless h haccepted hread hquery) p
        (d.sources s) .blank
    obtain ⟨found, hfound, hrecords, htotal⟩ :=
      search_of_run (d := { d with cache := none }) hflaw hrun (.str t)
    obtain ⟨r, hr, hsame, hcount⟩ := execute_of_search hfresh haccepted hne hfound
    exact ⟨r, hr, hsame.trans hrecords, hcount.trans htotal⟩

section Operators

variable (h : Plan.hasOperators t = true)
include h

theorem normalize_ne_nil : normalize t ≠ [] := fun e => by
  have hoperators : Plan.hasOperators (normalize t) = true := (hasOperators_normalize t).trans h
  rw [e] at hoperators
  cases hoperators

/-- With syntax, a query without content is carried out like no query. -/
theorem run_of_operators (hread : read p s.now (normalize t) = .ok query)
    (hquery : query.IsContentless) :
    run p (d.sources s) (normalize t) .blank (Plan.path (normalize t) .blank) =
      full p (d.sources s) [] .blank := by
  have hnow : (d.sources s).now = s.now := rfl
  rw [path_blank (normalize_ne_nil h), hasOperators_normalize, h]
  exact full_of_isContentless (hnow ▸ hread) hquery .blank

/-- With syntax, everything is found for an accepted query without content. -/
theorem answer_of_operators (hfresh : d.IsFresh p s) (hflaw : d.flaw p s = none)
    (hread : read p s.now (normalize t) = .ok query) (hquery : query.IsContentless)
    (haccepted : Desk.refusal p s.now t = .ok none) (hs : s.store.IsSound)
    (ha : s.store.available = true) :
    ∃ r, (d.execute p s (.str t) .blank).2 = .ok r ∧
      ∀ x, x ∈ r.records ↔ x ∈ s.store.records := by
  obtain ⟨all, hfull, hall⟩ := full_nil_ok p (d.sources s) hs ha
  have hrun := (run_of_operators (d := d) h hread hquery).trans hfull
  obtain ⟨found, hfound, hrecords, -⟩ :=
    search_of_run (d := { d with cache := none }) hflaw hrun (.str t)
  obtain ⟨r, hr, hsame, -⟩ := execute_of_search hfresh haccepted (normalize_ne_nil h) hfound
  refine ⟨r, hr, fun x => ?_⟩
  rw [hsame, hrecords]
  exact hall x

/-- Nothing is found in a store that is not available. -/
theorem answer_of_unavailable (hfresh : d.IsFresh p s)
    (hread : read p s.now (normalize t) = .ok query) (hquery : query.IsContentless)
    (haccepted : Desk.refusal p s.now t = .ok none) (ha : s.store.available = false) :
    ∃ r, (d.execute p s (.str t) .blank).2 = .ok r ∧ r.records = [] ∧ r.total = 0 := by
  have hrun := (run_of_operators (d := d) h hread hquery).trans
    (full_nil_unavailable p (d.sources s) .blank ha)
  obtain ⟨found, hfound, hrecords, htotal⟩ :=
    search_of_failed (d := { d with cache := none }) hrun (.str t)
  obtain ⟨r, hr, hsame, hcount⟩ := execute_of_search hfresh haccepted (normalize_ne_nil h) hfound
  exact ⟨r, hr, hsame.trans hrecords, hcount.trans htotal⟩

end Operators

/-- **What is answered to a query without content**, with nothing set on the panel: nothing, if the
    query holds no syntax or is refused. If it holds syntax and is accepted, all records of a sound
    store are found, and none if the store is not available. -/
theorem contentless_answer (p : Precision) {d : Desk} {s : Surroundings} (hfresh : d.IsFresh p s)
    (hflaw : d.flaw p s = none) {f : Panel} (hf : f.isActive = false) {t : Text} {query : Query}
    (hread : read p s.now (normalize t) = .ok query) (hquery : query.IsContentless) :
    (Plan.hasOperators t = false ∨ (∃ why, Desk.refusal p s.now t = .ok (some why)) →
      ∃ r, (d.execute p s (.str t) f).2 = .ok r ∧ r.records = [] ∧ r.total = 0) ∧
    (Plan.hasOperators t = true → Desk.refusal p s.now t = .ok none →
      (s.store.available = false →
        ∃ r, (d.execute p s (.str t) f).2 = .ok r ∧ r.records = [] ∧ r.total = 0) ∧
      (s.store.available = true → s.store.IsSound →
        ∃ r, (d.execute p s (.str t) f).2 = .ok r ∧ ∀ x, x ∈ r.records ↔ x ∈ s.store.records)) := by
  obtain rfl := Panel.eq_blank hf
  refine ⟨fun h => ?_, fun h haccepted =>
    ⟨fun ha => answer_of_unavailable h hfresh hread hquery haccepted ha,
      fun ha hs => answer_of_operators h hfresh hflaw hread hquery haccepted hs ha⟩⟩
  rcases h with h | ⟨why, hrefused⟩
  · obtain ⟨verdict, hverdict⟩ := refusal_of_noOperators h p s.now
    cases verdict with
    | none => exact answer_of_noOperators hfresh hflaw hread hquery h hverdict
    | some why => exact answer_of_refused hverdict
  · exact answer_of_refused hrefused

end Answers

/-- A store with one project, and clocks. -/
def oneProject : Surroundings :=
  ⟨Store.empty.put (.project ⟨"p1".toList, .str "QA".toList, .null⟩), default, .finite 0, .ofRat 0⟩

theorem isSound_oneProject : oneProject.store.IsSound :=
  Store.IsSound.empty.put (r := .project ⟨"p1".toList, .str "QA".toList, .null⟩) (by decide)

/-- A stop word finds nothing, and finds everything with a pair of quotes. -/
theorem contentless_answer_stop_word :
    (∃ r, ((Session.newDesk {} default).execute .double oneProject (.str "the".toList) .blank).2 =
      .ok r ∧ r.records = [] ∧ r.total = 0) ∧
    ∃ r, ((Session.newDesk {} default).execute .double oneProject (.str "the \"\"".toList)
      .blank).2 = .ok r ∧ .project ⟨"p1".toList, .str "QA".toList, .null⟩ ∈ r.records := by
  have hfresh : (Session.newDesk {} default).IsFresh .double oneProject := fun e he => nomatch he
  have hflaw : (Session.newDesk {} default).flaw .double oneProject = none := by decide +kernel
  obtain ⟨hnothing, -⟩ := contentless_answer .double hfresh hflaw (f := .blank) rfl
    (t := "the".toList) rfl (by decide)
  obtain ⟨-, hall⟩ := contentless_answer .double hfresh hflaw (f := .blank) rfl
    (t := "the \"\"".toList) rfl (by decide)
  obtain ⟨r, hr, hrecords⟩ := (hall rfl rfl).2 rfl isSound_oneProject
  exact ⟨hnothing (Or.inl rfl), r, hr, (hrecords _).mpr List.mem_cons_self⟩

/-- Quotes behind a hyphen carry nothing, and find a project. -/
theorem contentless_finds_project :
    ¬ ∀ (d : Desk) (s : Surroundings) (t : Text) (query : Query), d.entries = [] →
      read .double s.now (normalize t) = .ok query → query.IsContentless →
      ∃ r, (d.execute .double s (.str t) .blank).2 = .ok r ∧ r.records = [] := by
  intro h
  have hfound : (((Session.newDesk {} default).execute .double oneProject (.str "-\"\"".toList)
      .blank).2.map fun r => r.records.length).toOption = some 1 := by decide +kernel
  obtain ⟨r, hr, hnone⟩ := h (Session.newDesk {} default) oneProject "-\"\"".toList _ rfl rfl
    (by decide)
  rw [hr] at hfound
  have hlength : r.records.length = 1 := Option.some.inj hfound
  rw [hnone] at hlength
  cases hlength

end Search

end Worklog
