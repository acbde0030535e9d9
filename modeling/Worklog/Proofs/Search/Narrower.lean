import Worklog.Proofs.Query.Restriction
import Worklog.Proofs.Search.Asked
import Worklog.Proofs.Search.Contentless

/-!
# Searches with one more restriction

A restriction behind a query asks more of a record and no less, so a search over the store finds no
more records with it. A search through the index is another matter: with a restriction the query is
searched for over the store, where words are looked up otherwise.

* `Search.Narrows`: one query asks more than another one does;
* `Search.asked_of_narrows`, `Search.undecided_of_narrows`: more is asked of a record then, and
  there is a verdict no sooner;
* `Search.answer_over_store`, `Search.answer_through_index`: what is answered on the two paths;
* **`Search.narrower`**: what is found with one more restriction is found without, if the search
  goes over the store; if it goes through the index, just if the record has the content words;
* `Search.narrower_stop_word`: a stop word finds more with a restriction.
-/

namespace Worklog

namespace Search

/-! ## 1. Queries that ask more -/

/-- **A query asks more than another one does**: it excludes more, and has more limits behind the
    other ones. -/
structure Narrows (q q' : Query) : Prop where
  texts : q'.texts = q.texts
  apps : q'.apps = q.apps
  projects : q'.projects = q.projects
  excluded : ∃ more, q'.excluded = q.excluded ++ more
  days : ∃ more, q'.days = q.days ++ more
  lengths : ∃ more, q'.lengths = q.lengths ++ more

theorem narrows_append (q : Query) {part : Query.Part} (h : part.restricts = true) :
    Narrows q (q.append (.ofParts [part])) := by
  cases part with
  | excluded t => exact ⟨List.append_nil _, List.append_nil _, List.append_nil _, ⟨_, rfl⟩,
      ⟨_, rfl⟩, ⟨_, rfl⟩⟩
  | day l => exact ⟨List.append_nil _, List.append_nil _, List.append_nil _, ⟨_, rfl⟩, ⟨_, rfl⟩,
      ⟨_, rfl⟩⟩
  | length l => exact ⟨List.append_nil _, List.append_nil _, List.append_nil _, ⟨_, rfl⟩, ⟨_, rfl⟩,
      ⟨_, rfl⟩⟩
  | _ => cases h

section Records

variable {p : Precision} {now : Moment} {s : Store} {q q' : Query} {f : Panel} {r : Record}
  (h : Narrows q q')
include h

theorem isOf_of_narrows : IsOf s q' f r ↔ IsOf s q f r := by
  unfold IsOf IsNamed
  rw [h.apps, h.projects]

/-- **More is asked of a record.** -/
theorem asked_of_narrows (hr : Asked p now s q' f r) : Asked p now s q f r := by
  obtain ⟨hof, htime, hrequired, hexcluded⟩ := hr
  obtain ⟨excluded, hmore⟩ := h.excluded
  obtain ⟨days, hdays⟩ := h.days
  obtain ⟨lengths, hlengths⟩ := h.lengths
  refine ⟨(isOf_of_narrows h).mp hof, fun span hspan => ?_, fun w hw => hrequired w ?_,
    fun w hw => hexcluded w ?_⟩
  · obtain ⟨hbounds, hd, hl⟩ := htime span hspan
    rw [hdays] at hd
    rw [hlengths] at hl
    exact ⟨hbounds, fun l hl => hd l (List.mem_append_left _ hl),
      fun l hm => hl l (List.mem_append_left _ hm)⟩
  · unfold Query.textTerms
    rw [h.texts]
    exact hw
  · unfold Query.excludedTerms
    rw [hmore, List.map_append, List.filter_append]
    exact List.mem_append_left _ hw

/-- Where there is no verdict on a record, there is none if more is asked. -/
theorem undecided_of_narrows (hr : Undecided p now s q f r) : Undecided p now s q' f r := by
  obtain ⟨hof, span, hspan, hbounds, hstalls⟩ := hr
  obtain ⟨days, hdays⟩ := h.days
  refine ⟨(isOf_of_narrows h).mpr hof, span, hspan, hbounds, ?_⟩
  rw [hdays]
  exact hstalls.append days

end Records

/-- What the panel asks of a record is asked by a query and the panel. -/
theorem admits_of_asked {p : Precision} {now : Moment} {s : Store} {q : Query} {f : Panel}
    (hkeyed : f.IsKeyed) {r : Record} (hc : r.IsComplete) (hr : Asked p now s q f r) :
    f.admits p now r = true := by
  obtain ⟨hof, htime, -⟩ := hr
  cases r with
  | activity a =>
      obtain ⟨start, hstart⟩ := Option.isSome_iff_exists.mp hc.settled
      have hspan : (Record.activity a).span? p now =
          some (start, Activity.secondsBetween p start (a.finish.getD now)) :=
        span?_activity hstart p now
      have hpicks : (!(f.excludeIdle && a.idle) &&
          isChosen (Json.labels f.apps) (.text a.appName.textD) &&
          containsSome (q.apps.map Text.lower) (Text.lower a.appName.textD)) = true :=
        (show (activityCriteria q f now).picks a = true ↔ _ from
          activity_picks_iff hkeyed hof.1 hc).mpr hof
      rw [Bool.and_eq_true] at hpicks
      have hbounds := (htime _ hspan).1
      unfold Panel.admits
      dsimp only
      rw [Bool.and_eq_true, hstart]
      exact ⟨hpicks.1, hbounds⟩
  | timeEntry e =>
      have hchosen := (isChosen_labels hkeyed.projects (projectId_cases hc)
        (label_projectId hc)).mpr hof.2.1
      unfold Panel.admits
      dsimp only
      rw [Bool.and_eq_true]
      exact ⟨hchosen, (htime _ rfl).1⟩
  | project r =>
      exact (isChosen_labels hkeyed.projects (Or.inr ⟨r.id, rfl⟩) rfl).mpr hof.2.1

/-! ## 2. Answers -/

section Answers

variable {p : Precision} {d : Desk} {s : Surroundings} {f : Panel} {t : Text}
  (hcache : d.cache = none) (hflaw : d.flaw p s = none) (hs : s.store.IsSound)
  (ha : s.store.available = true) (hf : f.HasBounds) (hok : Desk.refusal p s.now t = .ok none)
include hcache hflaw hs ha hf hok

/-- **What is answered over the store**: what is asked, or nothing if there is no verdict. -/
theorem answer_over_store (hkeyed : f.IsKeyed)
    (hgoing : Query.normalize t ≠ [] ∨ f.isActive = true)
    (hpath : Plan.path (Query.normalize t) f = .full) {query : Query}
    (hread : Query.read p s.now (Query.normalize t) = .ok query) :
    ∃ found, (d.execute p s (.str t) f).2 = .ok found ∧
      (((∀ r, r ∈ found.records ↔ r ∈ s.store.records ∧ Asked p s.now s.store query f r) ∧
        ¬∃ r ∈ s.store.records, Undecided p s.now s.store query f r) ∨
      (found.records = [] ∧ ∃ r ∈ s.store.records, Undecided p s.now s.store query f r)) := by
  rw [Desk.execute_of_going hcache hok hgoing]
  have hs' : (d.sources s).store.IsSound := hs
  rcases full_of_read hs' ha hf hkeyed hread with
    ⟨res, hres, hmem, hdecided⟩ | ⟨hfault, hundecided⟩
  · have hrun : run p (d.sources s) (Query.normalize t) f (Plan.path (Query.normalize t) f) =
        .ok res := hpath ▸ hres
    obtain ⟨found, hfound, hrecords, -⟩ := search_of_run hflaw hrun (.str t)
    exact ⟨found, hfound, Or.inl ⟨fun r => hrecords ▸ hmem r, hdecided⟩⟩
  · have hrun : run p (d.sources s) (Query.normalize t) f (Plan.path (Query.normalize t) f) =
        .error .dateOverflow := hpath ▸ hfault
    obtain ⟨found, hfound, hrecords, -⟩ := search_of_failed hrun (.str t)
    exact ⟨found, hfound, Or.inr ⟨hrecords, hundecided⟩⟩

/-- A record that is asked for is answered over the store, if the query sets no limits on days. -/
theorem answered_of_asked (hkeyed : f.IsKeyed)
    (hgoing : Query.normalize t ≠ [] ∨ f.isActive = true)
    (hpath : Plan.path (Query.normalize t) f = .full) {query : Query}
    (hread : Query.read p s.now (Query.normalize t) = .ok query) (hdays : query.days = [])
    {r : Record} (hr : r ∈ s.store.records) (hasked : Asked p s.now s.store query f r) :
    ∃ found, (d.execute p s (.str t) f).2 = .ok found ∧ r ∈ found.records := by
  obtain ⟨found, hfound, ⟨hmem, -⟩ | ⟨-, r', -, -, span, -, -, hstalls⟩⟩ :=
    answer_over_store hcache hflaw hs ha hf hok hkeyed hgoing hpath hread
  · exact ⟨found, hfound, (hmem r).mpr ⟨hr, hasked⟩⟩
  · rw [hdays] at hstalls
    exact hstalls.elim

/-- **What is answered through the index** of the store: what meets the panel and has the content
    words. -/
theorem answer_through_index {live : List Record} (hi : d.index.Holds live)
    (hp : live.Perm s.store.records) (hfast : Plan.isFast (Query.normalize t) f = true) :
    ∃ found, (d.execute p s (.str t) f).2 = .ok found ∧ ∀ r, r ∈ found.records ↔
      r ∈ s.store.records ∧ f.admits p s.now r = true ∧
        Term.contentWords (Query.normalize t) ≠ [] ∧
        ∀ w ∈ Term.contentWords (Query.normalize t), r.HasWord w := by
  have hne : Query.normalize t ≠ [] := fun e => by
    rw [e] at hfast
    cases hfast
  have hpath : Plan.path (Query.normalize t) f = .fast := by
    unfold Plan.path
    rw [if_pos hfast]
  obtain ⟨res, hres, hscored⟩ := fast_ok (p := p) (q := Query.normalize t) (d.sources s) hs ha hf
  have hrun : run p (d.sources s) (Query.normalize t) f (Plan.path (Query.normalize t) f) =
      .ok res := hpath ▸ hres
  obtain ⟨found, hfound, hrecords, -⟩ := search_of_run hflaw hrun (.str t)
  rw [Desk.execute_of_going hcache hok (Or.inl hne)]
  refine ⟨found, hfound, fun r => ?_⟩
  rw [hrecords, Results.mem_records_of (fun r hr => hs.complete_of_mem hr.1) hscored]
  refine and_congr_right fun hr => ?_
  exact (and_congr (mem_find_iff hs hi hp hr) Iff.rfl).trans and_comm

end Answers

theorem refusal_of_accepted {p : Precision} {now : Moment} {q : Text}
    (h : Query.verdict p now q = .ok none) : Desk.refusal p now q = .ok none := by
  unfold Desk.refusal
  rw [h]
  exact ite_self _

/-! ## 3. One more restriction -/

section Restriction

variable {p : Precision} {d : Desk} {s : Surroundings} {f : Panel} {q t : Text}
  (hcache : d.cache = none) (hflaw : d.flaw p s = none) (hs : s.store.IsSound)
  (ha : s.store.available = true) (hf : f.HasBounds) (hkeyed : f.IsKeyed)
  (hq : Query.verdict p s.now q = .ok none) (ht : Query.verdict p s.now t = .ok none)
  (htoken : Query.tokens t = [t]) (hrestriction : Query.IsRestriction t)
include hcache hflaw hs ha hf hkeyed hq ht htoken hrestriction

/-- **What is answered with one more restriction** is asked by the query without it; and if there is
    no verdict without it, nothing is answered. -/
theorem answer_restricted : ∃ query narrowed,
    Query.read p s.now (Query.normalize q) = .ok query ∧
    (d.execute p s (.str (q ++ ' ' :: t)) f).2 = .ok narrowed ∧
    ∀ r ∈ narrowed.records, r ∈ s.store.records ∧ Asked p s.now s.store query f r ∧
      ¬∃ r ∈ s.store.records, Undecided p s.now s.store query f r := by
  obtain ⟨query, part, hread, hrestricts, hread'⟩ :=
    Query.read_append_restriction hq ht htoken hrestriction
  have hnarrows := narrows_append query hrestricts
  have hoperators : Plan.hasOperators (q ++ ' ' :: t) = true := by
    have hof := Query.hasOperators_of_isRestriction hrestriction
    unfold Plan.hasOperators at hof ⊢
    rw [List.any_append, List.any_cons, hof, Bool.or_true, Bool.or_true]
  have hpath : Plan.path (Query.normalize (q ++ ' ' :: t)) f = .full :=
    path_of_operators ((Query.hasOperators_normalize _).trans hoperators) f
  obtain ⟨narrowed, hnarrowed, hasked⟩ := answer_over_store hcache hflaw hs ha hf
    (refusal_of_accepted (Query.verdict_append hq ht htoken)) hkeyed
    (Or.inl (normalize_ne_nil hoperators)) hpath hread'
  refine ⟨query, narrowed, hread, hnarrowed, fun r hr => ?_⟩
  rcases hasked with ⟨hmem, hdecided⟩ | ⟨hnone, -⟩
  · obtain ⟨hrecord, hr⟩ := (hmem r).mp hr
    exact ⟨hrecord, asked_of_narrows hnarrows hr, fun ⟨r, hr, hundecided⟩ =>
      hdecided ⟨r, hr, undecided_of_narrows hnarrows hundecided⟩⟩
  · rw [hnone] at hr
    cases hr

/-- Over the store, one more restriction adds nothing. -/
theorem narrower_over_store (hgoing : Query.normalize q ≠ [] ∨ f.isActive = true)
    (hslow : Plan.isFast (Query.normalize q) f = false) :
    ∃ found narrowed, (d.execute p s (.str q) f).2 = .ok found ∧
      (d.execute p s (.str (q ++ ' ' :: t)) f).2 = .ok narrowed ∧
      ∀ r ∈ narrowed.records, r ∈ found.records := by
  obtain ⟨query, narrowed, hread, hnarrowed, hasked⟩ :=
    answer_restricted hcache hflaw hs ha hf hkeyed hq ht htoken hrestriction
  have hpath : Plan.path (Query.normalize q) f = .full := by
    unfold Plan.path
    rw [hslow]
    rfl
  obtain ⟨found, hfound, hover⟩ := answer_over_store hcache hflaw hs ha hf
    (refusal_of_accepted hq) hkeyed hgoing hpath hread
  refine ⟨found, narrowed, hfound, hnarrowed, fun r hr => ?_⟩
  obtain ⟨hrecord, hr, hdecided⟩ := hasked r hr
  rcases hover with ⟨hmem, -⟩ | ⟨-, hundecided⟩
  · exact (hmem r).mpr ⟨hrecord, hr⟩
  · exact absurd hundecided hdecided

/-- Through the index, what is found with one more restriction is found if it has the content
    words. -/
theorem narrower_through_index {live : List Record} (hi : d.index.Holds live)
    (hp : live.Perm s.store.records) (hfast : Plan.isFast (Query.normalize q) f = true) :
    ∃ found narrowed, (d.execute p s (.str q) f).2 = .ok found ∧
      (d.execute p s (.str (q ++ ' ' :: t)) f).2 = .ok narrowed ∧
      ∀ r ∈ narrowed.records, (r ∈ found.records ↔
        Term.contentWords (Query.normalize q) ≠ [] ∧
        ∀ w ∈ Term.contentWords (Query.normalize q), r.HasWord w) := by
  obtain ⟨query, narrowed, -, hnarrowed, hasked⟩ :=
    answer_restricted hcache hflaw hs ha hf hkeyed hq ht htoken hrestriction
  obtain ⟨found, hfound, hmem⟩ :=
    answer_through_index hcache hflaw hs ha hf (refusal_of_accepted hq) hi hp hfast
  refine ⟨found, narrowed, hfound, hnarrowed, fun r hr => ?_⟩
  obtain ⟨hrecord, hr, -⟩ := hasked r hr
  rw [hmem, and_iff_right hrecord,
    and_iff_right (admits_of_asked hkeyed (hs.complete_of_mem hrecord) hr)]

end Restriction

/-- **One more restriction adds nothing** to what is found over the store. A query that is searched
    for through the index finds, of what is found with the restriction, the records that have its
    content words, if it has any; and a query that comes to nothing finds nothing, if nothing is
    set on the panel. -/
theorem narrower (p : Precision) {d : Desk} {s : Surroundings} (hcache : d.cache = none)
    (hflaw : d.flaw p s = none) (hs : s.store.IsSound) (ha : s.store.available = true)
    {live : List Record} (hi : d.index.Holds live) (hp : live.Perm s.store.records) {f : Panel}
    (hf : f.HasBounds) (hkeyed : f.IsKeyed) {q t : Text}
    (hq : Query.verdict p s.now q = .ok none) (ht : Query.verdict p s.now t = .ok none)
    (htoken : Query.tokens t = [t]) (hrestriction : Query.IsRestriction t) :
    ∃ found narrowed, (d.execute p s (.str q) f).2 = .ok found ∧
      (d.execute p s (.str (q ++ ' ' :: t)) f).2 = .ok narrowed ∧
      (Plan.isFast (Query.normalize q) f = false →
        Query.normalize q ≠ [] ∨ f.isActive = true →
        ∀ r ∈ narrowed.records, r ∈ found.records) ∧
      (Plan.isFast (Query.normalize q) f = true →
        ∀ r ∈ narrowed.records, (r ∈ found.records ↔
          Term.contentWords (Query.normalize q) ≠ [] ∧
          ∀ w ∈ Term.contentWords (Query.normalize q), r.HasWord w)) ∧
      (Query.normalize q = [] → f.isActive = false → found.records = []) := by
  by_cases hgoing : Query.normalize q ≠ [] ∨ f.isActive = true
  · have hsome : ∀ found : Results, Query.normalize q = [] → f.isActive = false →
        found.records = [] := fun _ hnil hinactive => by
      rw [hinactive] at hgoing
      exact absurd hnil (hgoing.resolve_right Bool.false_ne_true)
    cases hfast : Plan.isFast (Query.normalize q) f with
    | true =>
        obtain ⟨found, narrowed, hfound, hnarrowed, hiff⟩ := narrower_through_index hcache hflaw hs
          ha hf hkeyed hq ht htoken hrestriction hi hp hfast
        exact ⟨found, narrowed, hfound, hnarrowed, nofun, fun _ => hiff, hsome found⟩
    | false =>
        obtain ⟨found, narrowed, hfound, hnarrowed, hsub⟩ := narrower_over_store hcache hflaw hs
          ha hf hkeyed hq ht htoken hrestriction hgoing hfast
        exact ⟨found, narrowed, hfound, hnarrowed, fun _ _ => hsub, nofun, hsome found⟩
  · obtain ⟨query, narrowed, -, hnarrowed, -⟩ :=
      answer_restricted hcache hflaw hs ha hf hkeyed hq ht htoken hrestriction
    rw [not_or, not_not, Bool.not_eq_true] at hgoing
    have hslow : Plan.isFast (Query.normalize q) f = false := by
      rw [hgoing.1]
      rfl
    refine ⟨.empty, narrowed, Desk.execute_of_nothing (refusal_of_accepted hq) hgoing.1 hgoing.2,
      hnarrowed, fun _ h => ?_, fun hfast => ?_, fun _ _ => rfl⟩
    · rcases h with h | h
      · exact absurd hgoing.1 h
      · rw [hgoing.2] at h
        cases h
    · rw [hslow] at hfast
      cases hfast

/-- A desk without a cache that has filed the one project. -/
theorem exists_filed_desk : ∃ (d : Desk) (live : List Record), d.cache = none ∧
    d.flaw .double oneProject = none ∧ d.index.Holds live ∧
    live.Perm oneProject.store.records := by
  obtain ⟨records, i, -, -, hi, hp⟩ :=
    Session.index_of_snapshot isSound_oneProject rfl 5 default
  have hflaw : (Session.newDesk {} default).flaw .double oneProject = none := by decide +kernel
  exact ⟨{ Session.newDesk {} default with index := i, cache := none }, _, rfl,
    (Desk.flaw_congr rfl).trans hflaw, hi, hp⟩

/-- A project that is found by name and without a word, and so by name alone. -/
theorem narrower_named : ∃ (d : Desk) (found narrowed : Results),
    (d.execute .double oneProject (.str "proj:qa".toList) .blank).2 = .ok found ∧
    (d.execute .double oneProject (.str "proj:qa -beta".toList) .blank).2 = .ok narrowed ∧
    .project ⟨"p1".toList, .str "QA".toList, .null⟩ ∈ narrowed.records ∧
    ∀ r ∈ narrowed.records, r ∈ found.records := by
  obtain ⟨d, live, hcache, hflaw, hi, hp⟩ := exists_filed_desk
  obtain ⟨found, narrowed, hfound, hnarrowed, hsub, -⟩ :=
    narrower .double hcache hflaw isSound_oneProject rfl hi hp (f := .blank) (by decide)
      Panel.isKeyed_blank (q := "proj:qa".toList) (t := "-beta".toList) (by decide +kernel)
      (by decide +kernel) (by decide) (Or.inl rfl)
  have hread : Query.read .double oneProject.now (Query.normalize "proj:qa -beta".toList) =
      .ok { Query.blank with projects := ["qa".toList], excluded := ["beta".toList] } := by
    decide +kernel
  obtain ⟨narrowed', hnarrowed', hmem⟩ := answered_of_asked hcache hflaw isSound_oneProject rfl
    (f := .blank) (by decide) (t := "proj:qa -beta".toList) (by decide +kernel)
    Panel.isKeyed_blank (Or.inl (by decide +kernel)) (by decide +kernel) hread rfl
    List.mem_cons_self
    ⟨⟨rfl, Or.inl rfl, Or.inr ⟨"qa".toList, List.mem_singleton_self _, by decide⟩⟩,
      fun _ hspan => (nomatch hspan), by decide, by decide⟩
  cases hnarrowed.symm.trans hnarrowed'
  exact ⟨d, found, narrowed, hfound, hnarrowed, hmem, hsub (by decide +kernel)
    (Or.inl (by decide +kernel))⟩

/-- A stop word finds nothing, but finds a project with a word that is excluded. -/
theorem narrower_stop_word :
    ¬ ∀ (d : Desk) (s : Surroundings) (live : List Record) (q t : Text), d.cache = none →
      d.flaw .double s = none → s.store.IsSound → s.store.available = true →
      d.index.Holds live → live.Perm s.store.records →
      Query.verdict .double s.now q = .ok none → Query.verdict .double s.now t = .ok none →
      Query.tokens t = [t] → Query.IsRestriction t →
      ∃ found narrowed, (d.execute .double s (.str q) .blank).2 = .ok found ∧
        (d.execute .double s (.str (q ++ ' ' :: t)) .blank).2 = .ok narrowed ∧
        ∀ r ∈ narrowed.records, r ∈ found.records := by
  intro h
  obtain ⟨d, live, hcache, hflaw, hi, hp⟩ := exists_filed_desk
  obtain ⟨found, narrowed, hfound, hnarrowed, hsub⟩ := h d oneProject live "the".toList
    "-beta".toList hcache hflaw isSound_oneProject rfl hi hp (by decide +kernel)
    (by decide +kernel) (by decide) (Or.inl rfl)
  obtain ⟨found', hfound', hmem⟩ := answer_through_index hcache hflaw isSound_oneProject rfl
    (f := .blank) (by decide) (t := "the".toList) (by decide +kernel) hi hp (by decide +kernel)
  have hread : Query.read .double oneProject.now (Query.normalize "the -beta".toList) =
      .ok { Query.blank with texts := ["the".toList], excluded := ["beta".toList] } := by
    decide +kernel
  obtain ⟨narrowed', hnarrowed', hmore⟩ := answered_of_asked hcache hflaw isSound_oneProject rfl
    (f := .blank) (by decide) (t := "the -beta".toList) (by decide +kernel) Panel.isKeyed_blank
    (Or.inl (by decide +kernel)) (by decide +kernel) hread rfl List.mem_cons_self
    ⟨⟨rfl, Or.inl rfl, Or.inl rfl⟩, fun _ hspan => (nomatch hspan), by decide, by decide⟩
  cases hfound.symm.trans hfound'
  cases hnarrowed.symm.trans hnarrowed'
  exact absurd (by decide) ((hmem _).mp (hsub _ hmore)).2.2.1

end Search

end Worklog
