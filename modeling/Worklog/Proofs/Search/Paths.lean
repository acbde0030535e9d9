import Worklog.Proofs.Index.Find
import Worklog.Proofs.Search.Ranking
import Worklog.Proofs.Search.Verdict
import Worklog.Proofs.Session.Upkeep

/-!
# The two paths of a search

A search through the index and a search by criteria over the store are two implementations of
nearly the same thing. Both are carried out without a fault on a sound store that is available:

* `Search.path_of_operators`: what holds syntax is searched for over the store;
* `Search.fast_ok`: through the index, the records are found that the index finds and that meet the
  panel -- with an index that is not up to date, too;
* `Search.full_ok`: over the store, a plain query finds the records that mention its content words
  and meet the panel;
* **`Search.paths_agree`**: with an index of the store, the first path finds what the second one
  finds and what has each content word within a content word, and for a query without stop words
  the scores are the same.
-/

namespace Worklog

namespace Search

variable {p : Precision} (src : Sources) {f : Panel} {q : Text}

/-- What holds syntax is searched for over the store. -/
theorem path_of_operators (h : Plan.hasOperators q = true) (f : Panel) : Plan.path q f = .full := by
  unfold Plan.path Plan.isFast
  rw [h, Bool.not_true, Bool.and_false, Bool.false_and, Bool.false_and]
  rfl

/-! ## 1. Through the index -/

/-- Records are read by the identifiers that the index finds, and then checked. -/
theorem readSome_ok {α : Type} {table : Table Text α} {id : α → Text} {good : α → Prop}
    {sort : List α → Except Fault (List α)} (read : List Text → Except Fault (List α))
    (h : table.Keyed id) (hsort : Store.Orders sort good) (hgood : ∀ a ∈ table.values, good a)
    (hread : ∀ ids, read ids = sort (Store.pick table ids)) {check : α → Except Fault Bool}
    {meets : α → Bool} (hcheck : ∀ a ∈ table.values, check a = .ok (meets a)) (ids : List Text) :
    ∃ l m, readSome read ids = .ok l ∧ l.filterM check = .ok m ∧
      ∀ a, a ∈ m ↔ a ∈ table.values ∧ id a ∈ ids ∧ meets a = true := by
  have hsome : ∃ l, readSome read ids = .ok l ∧ ∀ a, a ∈ l ↔ a ∈ table.values ∧ id a ∈ ids := by
    cases ids with
    | nil => exact ⟨[], rfl, by simp⟩
    | cons i ids =>
        rw [show readSome read (i :: ids) = read (i :: ids) from rfl, hread]
        exact Store.byIds_ok h hsort hgood (i :: ids)
  obtain ⟨l, hl, hmem⟩ := hsome
  refine ⟨l, l.filter meets, hl, filterM_ok fun a ha => hcheck a ((hmem a).mp ha).1, fun a => ?_⟩
  rw [List.mem_filter, hmem, and_assoc]

/-- A search that asks for no words asks for the panel only. -/
theorem blank_eq : Query.blank = .ofWords [] := rfl

theorem mentions_nil (r : Record) : r.mentions (Query.textTerms (.ofWords [])) = true := rfl

/-- **A search through the index** finds the records that the index finds and that meet the
    panel. -/
theorem fast_ok (hs : src.store.IsSound) (ha : src.store.available = true) (hf : f.HasBounds) :
    ∃ res, fast p src q f = .ok res ∧ ∀ r x, ⟨r, x⟩ ∈ res.scored ↔
      (r ∈ src.store.records ∧ r.id ∈ src.index.find r.kind q ∧ f.admits p src.now r = true) ∧
        Score.record p q src.now r = .ok x := by
  have hcheckA : ∀ a ∈ src.store.activityTable.values,
      (activityCriteria .blank f src.now).admits p a = .ok (f.admits p src.now (.activity a)) :=
    fun a ha => by
      rw [blank_eq, activity_verdict hf (hs.complete_activity ha), mentions_nil, Bool.and_true]
  have hcheckE : ∀ e ∈ src.store.timeEntryTable.values,
      (timeEntryCriteria .blank f src.now none).admits p e =
        .ok (f.admits p src.now (.timeEntry e)) :=
    fun e he => by
      rw [blank_eq, timeEntry_verdict hf (hs.complete_timeEntry he), mentions_nil, Bool.and_true]
  have hcheckP : ∀ r ∈ src.store.projectTable.values,
      (projectCriteria .blank f).admits r = .ok (f.admits p src.now (.project r)) :=
    fun r hr => by
      rw [blank_eq, project_verdict (hs.complete_project hr), mentions_nil, Bool.and_true]
  obtain ⟨as, as', hreadA, hfilterA, hmemA⟩ :=
    readSome_ok src.store.activitiesByIds hs.activities Store.orders_activities
      (fun _ ha => hs.complete_activity ha) (fun _ => Store.reading_ok ha _) hcheckA
      (src.index.find .activity q)
  obtain ⟨es, es', hreadE, hfilterE, hmemE⟩ :=
    readSome_ok src.store.timeEntriesByIds hs.timeEntries Store.orders_timeEntries
      (fun _ he => hs.complete_timeEntry he) (fun _ => Store.reading_ok ha _) hcheckE
      (src.index.find .timeEntry q)
  obtain ⟨ps, ps', hreadP, hfilterP, hmemP⟩ :=
    readSome_ok src.store.projectsByIds hs.projects Store.orders_projects
      (fun _ hp => hs.complete_project hp) (fun _ => Store.reading_ok ha _) hcheckP
      (src.index.find .project q)
  have hamong : ∀ r : Record, r.isAmong as' es' ps' ↔
      r ∈ src.store.records ∧ r.id ∈ src.index.find r.kind q ∧ f.admits p src.now r = true := by
    intro r
    rw [Store.mem_records_iff]
    cases r with
    | activity a => exact hmemA a
    | timeEntry e => exact hmemE e
    | project r => exact hmemP r
  obtain ⟨res, hres, hscored⟩ := rank_ok
    (fun r hr => hs.complete_of_mem ((hamong r).mp hr).1) p q src.now
  refine ⟨res, ?_, fun r x => ?_⟩
  · unfold fast
    rw [hreadA, hreadE, hreadP]
    simp only [ok_bind, hfilterA, hfilterE, hfilterP]
    exact hres
  · rw [hscored, hamong]

/-! ## 2. Over the store -/

/-- **A search over the store** for a plain query finds the records that mention its content words
    and meet the panel; they are ranked for the content words. -/
theorem full_ok (hs : src.store.IsSound) (ha : src.store.available = true) (hf : f.HasBounds)
    (hq : Query.IsPlain q) :
    ∃ res, full p src q f = .ok res ∧ ∀ r x, ⟨r, x⟩ ∈ res.scored ↔
      (r ∈ src.store.records ∧ r.mentions (Term.contentWords q) = true ∧
          f.admits p src.now r = true) ∧
        Score.record p (Text.joinWith [' '] (Term.contentWords q)) src.now r = .ok x := by
  have hterms : Query.textTerms (.ofWords (Text.words q)) = Term.contentWords q := hq.textTerms_eq
  have hcheckA : ∀ a ∈ src.store.activityTable.values,
      (activityCriteria (.ofWords (Text.words q)) f src.now).admits p a =
        .ok (f.admits p src.now (.activity a) &&
          (Record.activity a).mentions (Term.contentWords q)) :=
    fun a ha => hterms ▸ activity_verdict hf (hs.complete_activity ha)
  have hcheckE : ∀ e ∈ src.store.timeEntryTable.values,
      (timeEntryCriteria (.ofWords (Text.words q)) f src.now none).admits p e =
        .ok (f.admits p src.now (.timeEntry e) &&
          (Record.timeEntry e).mentions (Term.contentWords q)) :=
    fun e he => hterms ▸ timeEntry_verdict hf (hs.complete_timeEntry he)
  have hcheckP : ∀ r ∈ src.store.projectTable.values,
      (projectCriteria (.ofWords (Text.words q)) f).admits r =
        .ok (f.admits p src.now (.project r) &&
          (Record.project r).mentions (Term.contentWords q)) :=
    fun r hr => hterms ▸ project_verdict (hs.complete_project hr)
  obtain ⟨as, hreadA, hmemA⟩ := Store.meeting_ok Store.orders_activities
    (fun _ ha => hs.complete_activity ha) hcheckA
  obtain ⟨es, hreadE, hmemE⟩ := Store.meeting_ok Store.orders_timeEntries
    (fun _ he => hs.complete_timeEntry he) hcheckE
  obtain ⟨ps, hreadP, hmemP⟩ := Store.meeting_ok Store.orders_projects
    (fun _ hp => hs.complete_project hp) hcheckP
  have hactivities : fullActivities p src (.ofWords (Text.words q)) f = .ok as :=
    (Store.reading_ok ha _).trans hreadA
  have htimeEntries : src.store.timeEntriesMeeting p
      (timeEntryCriteria (.ofWords (Text.words q)) f src.now none) = .ok es :=
    (Store.reading_ok ha _).trans hreadE
  have hprojects : src.store.projectsMeeting (projectCriteria (.ofWords (Text.words q)) f) =
      .ok ps := (Store.reading_ok ha _).trans hreadP
  have hothers : fullOthers p src (.ofWords (Text.words q)) f = .ok (es, ps) := by
    show (src.store.timeEntriesMeeting p _ >>= fun es => src.store.projectsMeeting _ >>= _) = _
    rw [htimeEntries, hprojects]
    rfl
  have hamong : ∀ r : Record, r.isAmong as es ps ↔ r ∈ src.store.records ∧
      r.mentions (Term.contentWords q) = true ∧ f.admits p src.now r = true := by
    intro r
    rw [Store.mem_records_iff, and_comm (a := r.mentions _ = true), ← Bool.and_eq_true]
    cases r with
    | activity a => exact hmemA a
    | timeEntry e => exact hmemE e
    | project r => exact hmemP r
  have hranking : rankingText (.ofWords (Text.words q)) =
      Text.joinWith [' '] (Term.contentWords q) := congrArg (Text.joinWith [' ']) hterms
  obtain ⟨res, hres, hscored⟩ := rank_ok (fun r hr => hs.complete_of_mem ((hamong r).mp hr).1) p
    (Text.joinWith [' '] (Term.contentWords q)) src.now
  refine ⟨res, ?_, fun r x => ?_⟩
  · unfold full
    rw [hq.read_eq, ok_bind, hactivities, ok_bind, hothers, ok_bind]
    dsimp only
    rw [hranking]
    exact hres
  · rw [hscored, hamong]

/-! ## 3. Both -/

/-- A record that has some words mentions them. -/
theorem mentions_of_hasWord {r : Record} {ws : List Text} (hne : ∀ w ∈ ws, w ≠ [])
    (h : ∀ w ∈ ws, r.HasWord w) : r.mentions ws = true := by
  unfold Record.mentions
  rw [List.all_eq_true]
  intro w hw
  obtain ⟨field, t, ht, v, hv, hi⟩ := h w hw
  have hword : v <:+: Text.lower t := (Text.mem_words (List.mem_filter.mp hv).1).1
  exact (Record.any_wording_iff (hne w hw)).mpr
    ⟨t, List.mem_map.mpr ⟨_, ht, rfl⟩, hi.trans hword⟩

/-- With an index of the store, a record of the store is found if it has all content words. -/
theorem mem_find_iff {s : Store} (hs : s.IsSound) {i : Index} {live : List Record}
    (hi : i.Holds live) (hp : live.Perm s.records) {r : Record} (hr : r ∈ s.records) :
    r.id ∈ i.find r.kind q ↔
      Term.contentWords q ≠ [] ∧ ∀ w ∈ Term.contentWords q, r.HasWord w := by
  rw [hi.mem_find]
  refine and_congr_right fun _ => ?_
  constructor
  · intro h
    obtain ⟨r', hr', hkey, hwords⟩ := h
    rw [Roster.eq_of_key_eq hs.nodup_keys hr (hp.mem_iff.mp hr') hkey.symm]
    exact hwords
  · intro hwords
    exact ⟨r, hp.mem_iff.mpr hr, rfl, hwords⟩

/-- The words of a plain query that are no stop words are its content words. -/
theorem contentWords_iff (hq : Query.IsPlain q) {P : Text → Prop} :
    ((∃ w ∈ Text.words q, Term.isStopWord w = false) ↔ Term.contentWords q ≠ []) ∧
      ((∀ w ∈ Text.words q, Term.isStopWord w = false → P w) ↔
        ∀ w ∈ Term.contentWords q, P w) := by
  have hmem : ∀ w, w ∈ Term.contentWords q ↔ w ∈ Text.words q ∧ Term.isStopWord w = false := by
    intro w
    rw [hq.contentWords_eq, List.mem_filter, Bool.not_eq_true']
  refine ⟨⟨?_, ?_⟩, by simp only [hmem, and_imp]⟩
  · intro h
    obtain ⟨w, hw⟩ := h
    exact List.ne_nil_of_mem ((hmem w).mpr hw)
  · intro hne
    obtain ⟨w, hw⟩ := List.exists_mem_of_ne_nil _ hne
    exact ⟨w, (hmem w).mp hw⟩

/-- **The two paths of a search agree** but for matches that involve stop words. On a sound store
    that is available, with the index of its snapshot and a query in normal form that the plan
    sends through the index and that holds no comparison, the index finds a record if and only if
    the criteria find it, the query has a word that is no stop word, and the record has each such
    word. If the query has no stop word, both paths give a record the same score. -/
theorem paths_agree (p : Precision) {s : Store} (hs : s.IsSound) (ha : s.available = true)
    (capacity : Int) (start now : Moment) {f : Panel} (hf : f.HasBounds) {q : Text}
    (hnormal : Query.normalize q = q) (hfast : Plan.isFast q f = true)
    (hcomparison : ∀ w ∈ Text.words q, Query.comparison? w = none) :
    ∃ records i quick whole, Session.snapshot s = .ok records ∧
      Index.build capacity start records = (i, none) ∧
      fast p ⟨s, i, now⟩ q f = .ok quick ∧ full p ⟨s, i, now⟩ q f = .ok whole ∧
      (∀ r, r ∈ quick.records ↔ r ∈ whole.records ∧
        (∃ w ∈ Text.words q, Term.isStopWord w = false) ∧
        ∀ w ∈ Text.words q, Term.isStopWord w = false → r.HasWord w) ∧
      ((∀ w ∈ Text.words q, Term.isStopWord w = false) →
        ∀ r x y, ⟨r, x⟩ ∈ quick.scored → ⟨r, y⟩ ∈ whole.scored → x = y) := by
  have hoperators : Plan.hasOperators q = false := by
    unfold Plan.isFast at hfast
    simp only [Bool.and_eq_true, Bool.not_eq_true'] at hfast
    exact hfast.1.1.2
  have hq : Query.IsPlain q := ⟨hnormal, hoperators, hcomparison⟩
  obtain ⟨records, i, hread, hbuild, hi, hperm⟩ := Session.index_of_snapshot hs ha capacity start
  obtain ⟨quick, hquick, hmemQ⟩ := fast_ok (p := p) (q := q) ⟨s, i, now⟩ hs ha hf
  obtain ⟨whole, hwhole, hmemW⟩ := full_ok (p := p) ⟨s, i, now⟩ hs ha hf hq
  refine ⟨records, i, quick, whole, hread, hbuild, hquick, hwhole, fun r => ?_, fun hwords => ?_⟩
  · have hne : ∀ w ∈ Term.contentWords q, w ≠ [] := fun w hw =>
      (Text.mem_words (List.mem_filter.mp hw).1).2.1
    rw [Results.mem_records_of (fun r hr => hs.complete_of_mem hr.1) hmemQ,
      Results.mem_records_of (fun r hr => hs.complete_of_mem hr.1) hmemW,
      (contentWords_iff hq (P := r.HasWord)).1, (contentWords_iff hq (P := r.HasWord)).2]
    constructor
    · intro h
      obtain ⟨hr, hfind, hpanel⟩ := h
      obtain ⟨hsome, hall⟩ := (mem_find_iff hs hi hperm hr).mp hfind
      exact ⟨⟨hr, mentions_of_hasWord hne hall, hpanel⟩, hsome, hall⟩
    · intro h
      obtain ⟨⟨hr, -, hpanel⟩, hsome, hall⟩ := h
      exact ⟨hr, (mem_find_iff hs hi hperm hr).mpr ⟨hsome, hall⟩, hpanel⟩
  · -- Without stop words the content words are all words, and these make up the query.
    have hcontent : Text.joinWith [' '] (Term.contentWords q) = q := by
      have hall : (Text.words q).filter (!Term.isStopWord ·) = Text.words q :=
        List.filter_eq_self.mpr fun w hw => by rw [hwords w hw]; rfl
      rw [hq.contentWords_eq, hall]
      exact hq.joinWith_words
    intro r x y hx hy
    have hscoreX := ((hmemQ r x).mp hx).2
    have hscoreY := ((hmemW r y).mp hy).2
    rw [hcontent, hscoreX] at hscoreY
    exact Except.ok.inj hscoreY

/-- A project whose only match lies within a stop word is not found through the index. -/
theorem paths_agree_where :
    ∃ records i quick whole,
      Session.snapshot (Store.empty.put (.project ⟨"p1".toList, .str "Where to".toList, .null⟩)) =
        .ok records ∧
      Index.build 5 default records = (i, none) ∧
      fast .double ⟨Store.empty.put (.project ⟨"p1".toList, .str "Where to".toList, .null⟩), i,
        default⟩ "wher".toList .blank = .ok quick ∧
      full .double ⟨Store.empty.put (.project ⟨"p1".toList, .str "Where to".toList, .null⟩), i,
        default⟩ "wher".toList .blank = .ok whole ∧
      .project ⟨"p1".toList, .str "Where to".toList, .null⟩ ∉ quick.records ∧
      ∀ r ∈ quick.records, r ∈ whole.records := by
  obtain ⟨records, i, quick, whole, hread, hbuild, hquick, hwhole, hagree, -⟩ :=
    paths_agree .double (Store.IsSound.empty.put
      (r := .project ⟨"p1".toList, .str "Where to".toList, .null⟩) (by decide)) rfl 5 default
      default (f := .blank) (by decide) (q := "wher".toList) (by decide) (by decide) (by decide)
  refine ⟨records, i, quick, whole, hread, hbuild, hquick, hwhole, fun hr => ?_, fun r hr => ?_⟩
  · have hword := ((hagree _).mp hr).2.2 "wher".toList (by decide) (by decide)
    exact absurd hword (by decide)
  · exact ((hagree r).mp hr).1

end Search

end Worklog
