import Worklog.Proofs.Query.DayFilter
import Worklog.Proofs.Query.Named
import Worklog.Proofs.Search.Narrower

/-!
# Searches for days

A record starts on a day or later, or it starts before the day; and on the day is what starts on it
or later and before the next one. The limits of the filters for days meet at midnight, so this is
what is found, too, whatever is set on the panel and however the day is written:

* `DayLimit.allPass_on`: a day ends where the next one starts;
* `Record.IsComplete.startsWithin_iff`: what takes time starts on one side of a moment;
* `Search.asked_ofDays_iff`: a query for days asks what the panel asks, and for its limits;
* `Search.answer_dayFilters`: what is answered to filters for days;
* `Search.execute_dayFilters_congr`: they are answered alike if their limits let the same moments
  pass;
* **`Search.days_divide`**: so a day divides what meets the panel.
-/

namespace Worklog

/-! ## 1. Limits -/

/-- **A day ends where the next one starts.** -/
theorem DayLimit.allPass_on {day next : Moment} (h : day.shiftDays 1 = .ok next) (start : Moment) :
    allPass (fun l : DayLimit => l.admits start) [⟨.on, day⟩] =
      allPass (fun l : DayLimit => l.admits start) [⟨.after, day⟩, ⟨.before, next⟩] := by
  unfold allPass admits
  dsimp only
  cases hle : day.le start with
  | false => rfl
  | true =>
      rw [if_pos rfl, h]
      cases start.lt next with
      | _ => rfl

/-- Only a limit to a whole day can be undecided. -/
theorem not_stalls_of_ends {start : Moment} : ∀ {ls : List DayLimit},
    .on ∉ ls.map DayLimit.bound → ¬ Stalls (·.Holds start) (·.Overflows start) ls
  | [], _, hstalls => hstalls
  | _ :: _, h, hstalls => hstalls.elim (fun hover => h (hover.1 ▸ List.mem_cons_self))
      fun hmore => not_stalls_of_ends (fun hon => h (List.mem_cons_of_mem _ hon)) hmore.2

/-- What takes time has a start. -/
theorem Record.IsComplete.exists_span {r : Record} (h : r.IsComplete) (hkind : r.kind ≠ .project)
    (p : Precision) (now : Moment) : ∃ span, r.span? p now = some span := by
  cases r with
  | activity a =>
      obtain ⟨start, hstart⟩ := Option.isSome_iff_exists.mp h.settled
      exact ⟨_, span?_activity hstart p now⟩
  | timeEntry e => exact ⟨_, rfl⟩
  | project r => exact absurd rfl hkind

/-- **The limits hold of the start of a record**, if it takes time. -/
def Record.StartsWithin (p : Precision) (now : Moment) (ls : List DayLimit) (r : Record) : Prop :=
  ∀ span, r.span? p now = some span → ∀ l ∈ ls, l.Holds span.1

/-- **What takes time starts on one side of a moment.** -/
theorem Record.IsComplete.startsWithin_iff {now : Moment} {r : Record} (hc : r.IsComplete)
    (hkind : r.kind ≠ .project) (p : Precision) (day : Moment) :
    r.StartsWithin p now [⟨.after, day⟩] ↔ ¬ r.StartsWithin p now [⟨.before, day⟩] := by
  obtain ⟨span, hspan⟩ := hc.exists_span hkind p now
  unfold StartsWithin
  simp only [hspan, Option.some.injEq, forall_eq', List.mem_singleton, forall_eq]
  exact Nat.not_lt.symm

namespace Search

open Query

variable {p : Precision} {f : Panel} {ls ls' : List DayLimit}

/-! ## 2. What is asked -/

section Asked

variable {now : Moment} {r : Record}

/-- **What the panel asks** is asked by a query for days of the app or project and of the time. -/
theorem admits_iff_ofDays (s : Store) (ls : List DayLimit) (hkeyed : f.IsKeyed)
    (hc : r.IsComplete) :
    f.admits p now r = true ↔ IsOf s (ofDays ls) f r ∧
      ∀ span, r.span? p now = some span → f.inBounds span.1 span.2 = true := by
  cases r with
  | activity a =>
      obtain ⟨start, hstart⟩ := Option.isSome_iff_exists.mp hc.settled
      have hpanel : f.admits p now (.activity a) =
          ((activityCriteria (ofDays ls) f now).picks a &&
            f.inBounds start (Activity.secondsBetween p start (a.finish.getD now))) := by
        unfold Panel.admits ActivityCriteria.picks
        dsimp only
        rw [hstart]
        exact congrArg (· && _) (Bool.and_true _).symm
      rw [hpanel, Bool.and_eq_true, activity_picks_iff (s := s) hkeyed rfl hc,
        span?_activity hstart p now]
      simp only [Option.some.injEq, forall_eq']
  | timeEntry e =>
      have hpanel : f.admits p now (.timeEntry e) =
          ((timeEntryCriteria (ofDays ls) f now none).picks e &&
            f.inBounds e.start (e.seconds p)) := congrArg (· && _) (Bool.and_true _).symm
      rw [hpanel, Bool.and_eq_true,
        timeEntry_picks_iff (s := s) hkeyed rfl hc ⟨fun _ => Or.inl rfl, fun _ => rfl⟩]
      simp only [Record.span?, Option.some.injEq, forall_eq']
  | project r =>
      have hchosen := isChosen_labels hkeyed.projects (v := .str r.id) (Or.inr ⟨r.id, rfl⟩) rfl
      exact hchosen.trans ⟨fun h => ⟨⟨rfl, h, Or.inl rfl⟩, nofun⟩, fun h => h.1.2.1⟩

/-- **What a query for days asks of a record** is what the panel asks, and that the limits hold of
    its start. -/
theorem asked_ofDays_iff {s : Store} (hkeyed : f.IsKeyed) (hc : r.IsComplete) :
    Asked p now s (ofDays ls) f r ↔ f.admits p now r = true ∧ r.StartsWithin p now ls := by
  rw [admits_iff_ofDays s ls hkeyed hc]
  constructor
  · rintro ⟨hof, htime, -⟩
    refine ⟨⟨hof, ?_⟩, ?_⟩
    · intro span hspan
      exact (htime span hspan).1
    · intro span hspan
      exact (htime span hspan).2.1
  · rintro ⟨⟨hof, hbounds⟩, hlimits⟩
    have hworded : IsWorded (ofDays ls) r := by
      simp [IsWorded, textTerms, excludedTerms, ofDays, blank]
    have hlengths : ∀ l ∈ (ofDays ls).lengths, ∀ seconds, l.Holds p seconds := by
      simp [ofDays, blank]
    refine ⟨hof, ?_, hworded⟩
    intro span hspan
    exact ⟨hbounds span hspan, hlimits span hspan, fun l hl => hlengths l hl _⟩

end Asked

/-! ## 3. Limits that let the same pass -/

/-- Two lists of limits let the same moments pass, and come to a fault at the same ones. -/
def SamePass (ls ls' : List DayLimit) : Prop :=
  ∀ start, allPass (fun l => l.admits start) ls = allPass (fun l => l.admits start) ls'

section Congr

variable (hsame : SamePass ls ls')
include hsame

theorem time_ofDays_congr (now : Moment) :
    (timeCriteria (ofDays ls) f now).admits p = (timeCriteria (ofDays ls') f now).admits p := by
  funext start seconds
  unfold TimeCriteria.admits
  show (if _ then (allPass (fun l : DayLimit => l.admits start) ls >>= _) else _) = _
  rw [hsame start]
  rfl

theorem activity_ofDays_congr (now : Moment) :
    (activityCriteria (ofDays ls) f now).admits p =
      (activityCriteria (ofDays ls') f now).admits p := by
  funext a
  unfold ActivityCriteria.admits
  simp only [activityCriteria, time_ofDays_congr hsame]
  rfl

theorem timeEntry_ofDays_congr (now : Moment) (ids : Option (List Text)) :
    (timeEntryCriteria (ofDays ls) f now ids).admits p =
      (timeEntryCriteria (ofDays ls') f now ids).admits p := by
  funext e
  unfold TimeEntryCriteria.admits
  simp only [timeEntryCriteria, time_ofDays_congr hsame]
  rfl

/-- **A search over the store finds the same** for limits that let the same pass. -/
theorem full_ofDays_congr (src : Sources) {q q' : Text}
    (hread : Query.read p src.now q = .ok (ofDays ls))
    (hread' : Query.read p src.now q' = .ok (ofDays ls')) (f : Panel) :
    full p src q f = full p src q' f := by
  unfold full
  rw [hread, hread', ok_bind, ok_bind]
  unfold fullActivities fullOthers Store.activitiesMeeting Store.timeEntriesMeeting
  simp only [activity_ofDays_congr hsame, timeEntry_ofDays_congr hsame]
  rfl

end Congr

/-! ## 4. Answers -/

/-- The cost of a search depends on the query through the estimate by the query alone. -/
theorem complexity_congr {q q' : Text} (h : Plan.queryComplexity q = Plan.queryComplexity q')
    (f : Panel) (records : Int) : Plan.complexity q f records = Plan.complexity q' f records := by
  unfold Plan.complexity
  rw [h]

section Filters

variable {d : Desk} {s : Surroundings} {ts ts' : List Text} (hcache : d.cache = none)
  (h : List.Forall₂ (IsDayFilter s.now) ts ls) (hne : ts ≠ [])

include h hne in
/-- Filters for days are searched for over the store, at a middling cost. -/
theorem plan_dayFilters : normalize (Text.joinWith [' '] ts) ≠ [] ∧
    (∀ f, Plan.path (normalize (Text.joinWith [' '] ts)) f = .full) ∧
    Plan.queryComplexity (normalize (Text.joinWith [' '] ts)) = .medium := by
  have hoperators : Plan.hasOperators (Text.joinWith [' '] ts) = true := by
    obtain ⟨t, more, rfl⟩ := List.exists_cons_of_ne_nil hne
    obtain ⟨l, hl⟩ := exists_limit h List.mem_cons_self
    exact List.any_eq_true.mpr
      ⟨':', Text.mem_joinWith_of_mem hl.colon_mem List.mem_cons_self, by decide⟩
  have hnormal := (hasOperators_normalize _).trans hoperators
  have hplain : Plan.plainWords (normalize (Text.joinWith [' '] ts)) = [] := by
    unfold Plan.plainWords
    rw [words_dayFilters h, List.filter_eq_nil_iff]
    intro u hu
    obtain ⟨t, ht, rfl⟩ := List.mem_map.mp hu
    obtain ⟨l, hl⟩ := exists_limit h ht
    rw [hl.tidy_spec.2]
    exact Bool.false_ne_true
  refine ⟨normalize_ne_nil hoperators, path_of_operators hnormal, ?_⟩
  unfold Plan.queryComplexity
  rw [hplain, hnormal]
  rfl

include hcache

/-- **Filters for days are answered alike** if their limits let the same moments pass. -/
theorem execute_dayFilters_congr (h : List.Forall₂ (IsDayFilter s.now) ts ls) (hne : ts ≠ [])
    (h' : List.Forall₂ (IsDayFilter s.now) ts' ls') (hne' : ts' ≠ []) (hsame : SamePass ls ls')
    (f : Panel) : (d.execute p s (.str (Text.joinWith [' '] ts)) f).2 =
      (d.execute p s (.str (Text.joinWith [' '] ts')) f).2 := by
  obtain ⟨haccepted, hread⟩ := read_dayFilters (p := p) h hne
  obtain ⟨haccepted', hread'⟩ := read_dayFilters (p := p) h' hne'
  obtain ⟨hsome, hpath, hcost⟩ := plan_dayFilters h hne
  obtain ⟨hsome', hpath', hcost'⟩ := plan_dayFilters h' hne'
  rw [Desk.execute_of_accepted hcache (refusal_of_accepted haccepted) hsome,
    Desk.execute_of_accepted hcache (refusal_of_accepted haccepted') hsome']
  have hcomplexity := complexity_congr (hcost.trans hcost'.symm) f d.index.size.items
  refine Desk.search_of_alike _ _ none none rfl ((hpath f).trans (hpath' f).symm) hcomplexity ?_
  rw [hpath, hpath']
  exact full_ofDays_congr hsame (d.sources s) hread hread' f

include h hne

/-- **What is answered to filters for days** that are no whole days: what meets the panel and starts
    where the limits let it. -/
theorem answer_dayFilters (hflaw : d.flaw p s = none) (hs : s.store.IsSound)
    (ha : s.store.available = true) (hf : f.HasBounds) (hkeyed : f.IsKeyed)
    (hends : .on ∉ ls.map DayLimit.bound) :
    ∃ found, (d.execute p s (.str (Text.joinWith [' '] ts)) f).2 = .ok found ∧
      ∀ r, r ∈ found.records ↔
        r ∈ s.store.records ∧ f.admits p s.now r = true ∧ r.StartsWithin p s.now ls := by
  obtain ⟨haccepted, hread⟩ := read_dayFilters (p := p) h hne
  obtain ⟨hsome, hpath, -⟩ := plan_dayFilters h hne
  obtain ⟨found, hfound, ⟨hmem, -⟩ | ⟨-, r, -, -, span, -, -, hstalls⟩⟩ :=
    answer_over_store hcache hflaw hs ha hf (refusal_of_accepted haccepted) hkeyed (Or.inl hsome)
      (hpath f) hread
  · refine ⟨found, hfound, fun r => (hmem r).trans (and_congr_right fun hr => ?_)⟩
    exact asked_ofDays_iff hkeyed (hs.complete_of_mem hr)
  · exact absurd hstalls (not_stalls_of_ends hends)

end Filters

/-! ## 5. Days -/

section Days

variable {d : Desk} {s : Surroundings} {t : Text} {day next : Moment} {after before on : Text}
  (hcache : d.cache = none) (hblank : ∀ c ∈ t, Text.isBlank c = false) (hquote : '"' ∉ t)
  (hday : Day.read s.now t = .ok (some day))

include hblank hquote hday in
theorem forall₂_dayFilter {bound : DayBound} {k : Text} (hkey : Text.lower k ∈ dayKeys bound) :
    List.Forall₂ (IsDayFilter s.now) [k ++ ':' :: t] [⟨bound, day⟩] :=
  .cons ⟨hkey, hblank, hquote, hday⟩ .nil

include hcache hblank hquote hday

/-- **With each of its keys a filter is answered alike.** -/
theorem execute_dayKeys {bound : DayBound} {k k' : Text} (hk : Text.lower k ∈ dayKeys bound)
    (hk' : Text.lower k' ∈ dayKeys bound) (f : Panel) :
    (d.execute p s (.str (k ++ ':' :: t)) f).2 = (d.execute p s (.str (k' ++ ':' :: t)) f).2 :=
  execute_dayFilters_congr hcache (forall₂_dayFilter hblank hquote hday hk) (List.cons_ne_nil _ _)
    (forall₂_dayFilter hblank hquote hday hk') (List.cons_ne_nil _ _) (fun _ => rfl) f

variable (hflaw : d.flaw p s = none) (hs : s.store.IsSound) (ha : s.store.available = true)
  (hf : f.HasBounds) (hkeyed : f.IsKeyed) (hafter : Text.lower after ∈ dayKeys .after)
  (hbefore : Text.lower before ∈ dayKeys .before)
include hflaw hs ha hf hkeyed hafter hbefore

/-- **What starts on a day or later, and what starts before it**, share out what meets the panel. -/
theorem execute_sides : ∃ later earlier,
    (d.execute p s (.str (after ++ ':' :: t)) f).2 = .ok later ∧
    (d.execute p s (.str (before ++ ':' :: t)) f).2 = .ok earlier ∧
    ∀ r, r.kind ≠ .project → ¬(r ∈ later.records ∧ r ∈ earlier.records) ∧
      (r ∈ later.records ∨ r ∈ earlier.records ↔
        r ∈ s.store.records ∧ f.admits p s.now r = true) := by
  obtain ⟨later, hlater, hmem⟩ :=
    answer_dayFilters hcache (forall₂_dayFilter hblank hquote hday hafter) (List.cons_ne_nil _ _)
      hflaw hs ha hf hkeyed (show DayBound.on ∉ [DayBound.after] by decide)
  obtain ⟨earlier, hearlier, hmem'⟩ :=
    answer_dayFilters hcache (forall₂_dayFilter hblank hquote hday hbefore) (List.cons_ne_nil _ _)
      hflaw hs ha hf hkeyed (show DayBound.on ∉ [DayBound.before] by decide)
  refine ⟨later, earlier, hlater, hearlier, fun r hkind => ?_⟩
  have hsides : r ∈ s.store.records → (r.StartsWithin p s.now [⟨.after, day⟩] ↔
      ¬ r.StartsWithin p s.now [⟨.before, day⟩]) := by
    intro hr
    exact (hs.complete_of_mem hr).startsWithin_iff hkind p day
  rw [hmem, hmem']
  refine ⟨fun ⟨⟨hr, _, hlate⟩, _, _, hearly⟩ => (hsides hr).mp hlate hearly,
    fun h => h.elim (fun h => ⟨h.1, h.2.1⟩) fun h => ⟨h.1, h.2.1⟩, fun ⟨hr, hadmits⟩ => ?_⟩
  by_cases hearly : r.StartsWithin p s.now [⟨.before, day⟩]
  · exact Or.inr ⟨hr, hadmits, hearly⟩
  · exact Or.inl ⟨hr, hadmits, (hsides hr).mpr hearly⟩

/-- **What starts on a day** is what starts on it or later and before the next one. -/
theorem execute_whole (hnext : day.shiftDays 1 = .ok next) (hon : Text.lower on ∈ dayKeys .on) :
    ∃ within, (d.execute p s (.str (on ++ ':' :: t)) f).2 = .ok within ∧
      (d.execute p s (.str (after ++ ':' :: t ++ ' ' ::
        (before ++ ':' :: Moment.dateText next.date))) f).2 = .ok within := by
  have hmidnight : next.IsMidnight :=
    (Day.isMidnight_of_read hday).shiftDays (Moment.shiftDays?_of_ok hnext)
  have hboth : List.Forall₂ (IsDayFilter s.now)
      [after ++ ':' :: t, before ++ ':' :: Moment.dateText next.date]
      [⟨.after, day⟩, ⟨.before, next⟩] :=
    .cons ⟨hafter, hblank, hquote, hday⟩ (.cons (isDayFilter_dateText s.now hbefore hmidnight) .nil)
  have hjoin : after ++ ':' :: t ++ ' ' :: (before ++ ':' :: Moment.dateText next.date) =
      Text.joinWith [' '] [after ++ ':' :: t, before ++ ':' :: Moment.dateText next.date] :=
    List.append_cons _ _ _
  have hwhole : (d.execute p s (.str (on ++ ':' :: t)) f).2 = _ :=
    execute_dayFilters_congr hcache (forall₂_dayFilter hblank hquote hday hon)
      (List.cons_ne_nil _ _) hboth (List.cons_ne_nil _ _) (DayLimit.allPass_on hnext) f
  obtain ⟨within, hwithin, -⟩ := answer_dayFilters hcache hboth (List.cons_ne_nil _ _)
    hflaw hs ha hf hkeyed (show DayBound.on ∉ [DayBound.after, .before] by decide)
  exact ⟨within, hwhole.trans hwithin, hjoin ▸ hwithin⟩

end Days

/-- **A day divides what is found**, if another day follows it. What starts on the day or later and
    what starts before it have no activity and no time entry in common, and together they are those
    that meet the panel. What is found on the day is what is found from it up to the next one. Each
    filter has two keys, in any letter case, and with both it is answered alike. -/
theorem days_divide (p : Precision) {d : Desk} {s : Surroundings} (hcache : d.cache = none)
    (hflaw : d.flaw p s = none) (hs : s.store.IsSound) (ha : s.store.available = true) {f : Panel}
    (hf : f.HasBounds) (hkeyed : f.IsKeyed) {t : Text} (hblank : ∀ c ∈ t, Text.isBlank c = false)
    (hquote : '"' ∉ t) {day next : Moment} (hday : Day.read s.now t = .ok (some day))
    (hnext : day.shiftDays 1 = .ok next) {after before on : Text}
    (hafter : Text.lower after ∈ dayKeys .after) (hbefore : Text.lower before ∈ dayKeys .before)
    (hon : Text.lower on ∈ dayKeys .on) :
    (∃ later earlier, (d.execute p s (.str (after ++ ':' :: t)) f).2 = .ok later ∧
      (d.execute p s (.str (before ++ ':' :: t)) f).2 = .ok earlier ∧
      ∀ r, r.kind ≠ .project → ¬(r ∈ later.records ∧ r ∈ earlier.records) ∧
        (r ∈ later.records ∨ r ∈ earlier.records ↔
          r ∈ s.store.records ∧ f.admits p s.now r = true)) ∧
    (∃ within, (d.execute p s (.str (on ++ ':' :: t)) f).2 = .ok within ∧
      (d.execute p s (.str (after ++ ':' :: t ++ ' ' ::
        (before ++ ':' :: Moment.dateText next.date))) f).2 = .ok within) ∧
    ∀ bound k k', Text.lower k ∈ dayKeys bound → Text.lower k' ∈ dayKeys bound →
      (d.execute p s (.str (k ++ ':' :: t)) f).2 = (d.execute p s (.str (k' ++ ':' :: t)) f).2 :=
  ⟨execute_sides hcache hblank hquote hday hflaw hs ha hf hkeyed hafter hbefore,
    execute_whole hcache hblank hquote hday hflaw hs ha hf hkeyed hafter hbefore hnext hon,
    fun _ _ _ hk hk' => execute_dayKeys hcache hblank hquote hday hk hk' f⟩

/-- An hour of work in the morning of the twelfth of June 2024. -/
def morningInJune : TimeEntry :=
  ⟨"e1".toList, .str "Report".toList, Day.june, ⟨63853788600000000, by decide⟩, .null, .null,
    by decide⟩

/-- A store with that hour, at noon. -/
def noonInJune : Surroundings :=
  ⟨Store.empty.put (.timeEntry morningInJune), ⟨63853790400000000, by decide⟩, .finite 0, .ofRat 0⟩

/-- With the other keys, in some letter case, today divides the work of the day. -/
theorem days_divide_today : ∃ (d : Desk) (later earlier within : Results),
    (d.execute .double noonInJune (.str "SINCE:today".toList) .blank).2 = .ok later ∧
    (d.execute .double noonInJune (.str "Until:today".toList) .blank).2 = .ok earlier ∧
    (d.execute .double noonInJune (.str "Date:today".toList) .blank).2 = .ok within ∧
    (d.execute .double noonInJune (.str "SINCE:today Until:2024-06-13".toList) .blank).2 =
      .ok within ∧
    (.timeEntry morningInJune ∈ later.records ∨ .timeEntry morningInJune ∈ earlier.records) := by
  have hsound : noonInJune.store.IsSound :=
    Store.IsSound.empty.put (r := .timeEntry morningInJune) (by decide)
  have hflaw : (Session.newDesk {} default).flaw .double noonInJune = none := by decide +kernel
  have hday : Day.read noonInJune.now "today".toList =
      .ok (some ⟨63853747200000000, by decide⟩) := by decide +kernel
  have hnext : (⟨63853747200000000, by decide⟩ : Moment).shiftDays 1 =
      .ok ⟨63853833600000000, by decide⟩ := by decide +kernel
  have hwritten : Moment.dateText (Moment.date ⟨63853833600000000, by decide⟩) =
      "2024-06-13".toList := by decide +kernel
  obtain ⟨⟨later, earlier, hlater, hearlier, hshare⟩, ⟨within, hwithin, hwhole⟩, -⟩ :=
    days_divide .double (d := { Session.newDesk {} default with cache := none }) rfl
      ((Desk.flaw_congr rfl).trans hflaw) hsound rfl (f := .blank) (by decide) Panel.isKeyed_blank
      (Text.forall_mem_of_all (by decide)) (by decide) hday hnext
      (show Text.lower "SINCE".toList ∈ dayKeys .after by decide)
      (show Text.lower "Until".toList ∈ dayKeys .before by decide)
      (show Text.lower "Date".toList ∈ dayKeys .on by decide)
  rw [hwritten] at hwhole
  have hkind : (Record.timeEntry morningInJune).kind ≠ .project := nofun
  exact ⟨_, later, earlier, within, hlater, hearlier, hwithin, hwhole,
    (hshare _ hkind).2.mpr ⟨List.mem_cons_self, Panel.admits_blank _ _ _⟩⟩

end Search

end Worklog
