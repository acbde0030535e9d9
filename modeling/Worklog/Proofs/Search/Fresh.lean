import Worklog.Proofs.Panel
import Worklog.Search.Desk

/-!
# Kept results that still hold

Results are kept under a normalized query and the key of a panel. They still hold if a search for
that query, with any panel that has this key, comes to just them; a desk is fresh if all results
that it keeps still hold.

* `Search.run_eq`, **`Search.planned_eq`**: panels with the same key find the same;
* `Search.planned_of_run`, `Search.planned_of_failed`: what a search comes to on its path;
* `Cache.mem_get`, `Cache.mem_put`: what a cache keeps after it was used;
* `Metrics.IsMeasured.record`, `Desk.flaw_eq_none`: measured times are recorded without a fault;
* `Desk.search_of_alike`: queries that find the same on the same path, at the same cost, are
  answered alike;
* `Desk.execute_spec`: an answered query leaves the index as it is and keeps at most its own
  results anew;
* **`Desk.IsFresh.execute`**: so a fresh desk stays fresh;
* **`Desk.IsFresh.execute_eq`**: and it answers what it would answer without a cache.
-/

namespace Worklog

/-! ## 1. Panels with the same key find the same -/

namespace Search

variable {p : Precision} {f f' : Panel} {k : PanelKey}

theorem admitsLength_eq (h : f.Matches k) (h' : f'.Matches k) (q : Query) (now : Moment)
    (seconds : Rat) : (timeCriteria q f now).admitsLength p seconds =
      (timeCriteria q f' now).admitsLength p seconds := by
  have hleast : ∀ {g : Panel}, g.Matches k →
      keepsTo "<" (·.le (.ofRat seconds)) g.minSeconds =
        Panel.boundOf "<" (·.le (.ofRat seconds)) k.minSeconds := fun hg =>
    Panel.keepsTo_of_label hg.minSeconds "<" (Panel.le_congr_left _)
  have hgreatest : ∀ {g : Panel}, g.Matches k →
      keepsTo ">" (Amount.le (.ofRat seconds)) g.maxSeconds =
        Panel.boundOf ">" (Amount.le (.ofRat seconds)) k.maxSeconds := fun hg =>
    Panel.keepsTo_of_label hg.maxSeconds ">" (Panel.le_congr_right _)
  unfold TimeCriteria.admitsLength timeCriteria
  simp only [hleast h, hleast h', hgreatest h, hgreatest h']

theorem time_eq (h : f.Matches k) (h' : f'.Matches k) (q : Query) (now start : Moment)
    (seconds : Rat) : (timeCriteria q f now).admits p start seconds =
      (timeCriteria q f' now).admits p start seconds := by
  have hstart : (timeCriteria q f now).admitsStart start =
      (timeCriteria q f' now).admitsStart start := by
    unfold TimeCriteria.admitsStart timeCriteria
    rw [h.start, h.finish, h'.start, h'.finish]
  unfold TimeCriteria.admits
  rw [hstart, admitsLength_eq h h' q now seconds]
  rfl

theorem activity_eq (h : f.Matches k) (h' : f'.Matches k) (q : Query) (now : Moment) :
    (activityCriteria q f now).admits p = (activityCriteria q f' now).admits p := by
  funext a
  have happ : (activityCriteria q f now).admitsApp a = (activityCriteria q f' now).admitsApp a := by
    unfold ActivityCriteria.admitsApp activityCriteria
    rw [h.apps, h.excludeIdle, h'.apps, h'.excludeIdle]
  unfold ActivityCriteria.admits
  rw [happ]
  simp only [activityCriteria, time_eq h h']
  rfl

theorem timeEntry_eq (h : f.Matches k) (h' : f'.Matches k) (q : Query) (now : Moment)
    (ids : Option (List Text)) :
    (timeEntryCriteria q f now ids).admits p = (timeEntryCriteria q f' now ids).admits p := by
  funext e
  have hproject : (timeEntryCriteria q f now ids).admitsProject e =
      (timeEntryCriteria q f' now ids).admitsProject e := by
    unfold TimeEntryCriteria.admitsProject timeEntryCriteria
    rw [h.projects, h'.projects]
  unfold TimeEntryCriteria.admits
  rw [hproject]
  simp only [timeEntryCriteria, time_eq h h']

theorem project_eq (h : f.Matches k) (h' : f'.Matches k) (q : Query) :
    projectCriteria q f = projectCriteria q f' := by
  unfold projectCriteria
  rw [h.projects, h'.projects]

/-- Panels with the same key find the same on each path. -/
theorem run_eq (h : f.Matches k) (h' : f'.Matches k) (src : Sources) (q : Text)
    (path : SearchPath) : run p src q f path = run p src q f' path := by
  cases path with
  | fast =>
      show fast p src q f = fast p src q f'
      unfold fast
      rw [activity_eq h h', timeEntry_eq h h', project_eq h h']
  | full =>
      show full p src q f = full p src q f'
      unfold full fullActivities fullOthers Store.activitiesMeeting Store.timeEntriesMeeting
      simp only [activity_eq h h', timeEntry_eq h h', project_eq h h']

/-- **What a search comes to** that is planned and carried out, path and estimate included. -/
def planned (p : Precision) (src : Sources) (q : Text) (f : Panel) : Except Fault Results := do
  let path := Plan.path q f
  let r ← run p src q f path
  return { r with
    path := some path
    complexity := some (Plan.complexity q f src.index.size.items) }

/-- A search that finds something comes to that, with its path and its estimate. -/
theorem planned_of_run {src : Sources} {q : Text} {r : Results}
    (h : run p src q f (Plan.path q f) = .ok r) : planned p src q f = .ok { r with
      path := some (Plan.path q f)
      complexity := some (Plan.complexity q f src.index.size.items) } := by
  unfold planned
  dsimp only
  rw [h]
  rfl

/-- A search that comes to a fault comes to nothing else. -/
theorem planned_of_failed {src : Sources} {q : Text} {fault : Fault}
    (h : run p src q f (Plan.path q f) = .error fault) : planned p src q f = .error fault := by
  unfold planned
  dsimp only
  rw [h]
  rfl

/-- **Panels with the same key are answered in the same way.** -/
theorem planned_eq (h : f.Matches k) (h' : f'.Matches k) (src : Sources) (q : Text) :
    planned p src q f = planned p src q f' := by
  unfold planned
  dsimp only
  rw [h.path_eq h', h.complexity_eq h', run_eq h h']

/-- What is ranked is no failure, and does not come from the cache. -/
theorem rank_spec {text : Text} {now : Moment} {as : List Activity} {es : List TimeEntry}
    {ps : List Project} {r : Results} (h : rank p text now as es ps = .ok r) :
    r.fromCache = false ∧ r.failure = none := by
  obtain ⟨as', -, h⟩ := bind_eq_ok.mp h
  obtain ⟨es', -, h⟩ := bind_eq_ok.mp h
  obtain ⟨ps', -, h⟩ := bind_eq_ok.mp h
  cases h
  exact ⟨rfl, rfl⟩

/-- **What is searched for and found** is no failure, and does not come from the cache. -/
theorem planned_spec {src : Sources} {q : Text} {r : Results}
    (h : planned p src q f = .ok r) : r.fromCache = false ∧ r.failure = none := by
  obtain ⟨found, hfound, h⟩ := bind_eq_ok.mp h
  cases h
  show found.fromCache = false ∧ found.failure = none
  unfold run at hfound
  split at hfound
  · obtain ⟨as, -, hfound⟩ := bind_eq_ok.mp hfound
    obtain ⟨es, -, hfound⟩ := bind_eq_ok.mp hfound
    obtain ⟨ps, -, hfound⟩ := bind_eq_ok.mp hfound
    obtain ⟨as', -, hfound⟩ := bind_eq_ok.mp hfound
    obtain ⟨es', -, hfound⟩ := bind_eq_ok.mp hfound
    obtain ⟨ps', -, hfound⟩ := bind_eq_ok.mp hfound
    exact rank_spec hfound
  · obtain ⟨query, -, hfound⟩ := bind_eq_ok.mp hfound
    obtain ⟨as, -, hfound⟩ := bind_eq_ok.mp hfound
    obtain ⟨others, -, hfound⟩ := bind_eq_ok.mp hfound
    exact rank_spec hfound

end Search

/-- Results as a search without a cache gives them. -/
def Results.uncached (r : Results) : Results := { r with fromCache := false }

theorem Results.uncached_eq {r : Results} (h : r.fromCache = false) : r.uncached = r := by
  unfold uncached
  rw [← h]

/-! ## 2. Entries -/

/-- **Kept results still hold** if a search with their key comes to just them. -/
def CacheEntry.IsFresh (p : Precision) (src : Search.Sources) (e : CacheEntry) : Prop :=
  ∀ f : Panel, f.Matches e.key.panel → Search.planned p src e.key.query f = .ok e.results

/-- What was just found still holds. -/
theorem CacheEntry.isFresh_of_planned {p : Precision} {src : Search.Sources} {e : CacheEntry}
    {f : Panel} (hf : f.Matches e.key.panel)
    (h : Search.planned p src e.key.query f = .ok e.results) : e.IsFresh p src :=
  fun _ hg => (Search.planned_eq hg hf src e.key.query).trans h

namespace Cache

variable {p : Precision} {c : Cache} {clock : Quantity} {key : CacheKey} {e : CacheEntry}

/-- Looking results up adds nothing. -/
theorem mem_get (h : e ∈ (c.get p clock key).1.entries) : e ∈ c.entries := by
  unfold get at h
  split at h
  · split at h
    · exact (List.mem_filter.mp h).1
    · exact h
  · exact h

/-- Results that are looked up were kept under the key. -/
theorem exists_of_get {r : Results} (h : (c.get p clock key).2 = some r) :
    ∃ e ∈ c.entries, e.key = key ∧ e.results = r := by
  unfold get at h
  split at h
  next e he =>
    unfold find? at he
    have hmem : e ∈ c.entries := List.mem_of_find?_eq_some he
    have hkey := List.find?_some he
    split at h
    · cases h
    · cases h
      exact ⟨e, hmem, of_decide_eq_true hkey, rfl⟩
  next => cases h

/-- Making room adds nothing. -/
theorem mem_makeRoom (h : e ∈ (if (c.drop key).isFull then (c.drop key).cleanup p clock
    else c.drop key).makeRoom.entries) : e ∈ c.entries := by
  have hbefore := List.mem_of_mem_drop h
  split at hbefore
  · exact (List.mem_filter.mp (List.mem_filter.mp hbefore).1).1
  · exact (List.mem_filter.mp hbefore).1

/-- **A cache keeps what it kept before, and the new results.** -/
theorem mem_put {r : Results} (h : e ∈ (c.put p clock key r).entries) :
    e ∈ c.entries ∨ e.key = key ∧ e.results = r := by
  have hlast : ∀ room : Cache,
      e ∈ (if room.capacity ≤ 0 then room
        else { room with entries := room.entries ++ [⟨key, r, clock⟩] }).entries →
      e ∈ room.entries ∨ e.key = key ∧ e.results = r := fun room he => by
    split at he
    · exact Or.inl he
    · rcases List.mem_append.mp he with he | he
      · exact Or.inl he
      · cases List.mem_singleton.mp he
        exact Or.inr ⟨rfl, rfl⟩
  exact (hlast _ h).imp_left mem_makeRoom

theorem mem_cleanup (h : e ∈ (c.cleanup p clock).entries) : e ∈ c.entries :=
  (List.mem_filter.mp h).1

end Cache

/-! ## 3. The desk -/

/-- Whether the metrics take a search depends on its time only. -/
theorem Metrics.record_flaw (p : Precision) (m : Metrics) (q q' : Text) (n n' seconds : Amount)
    (hit hit' : Bool) : (m.record p q n seconds hit).2 = (m.record p q' n' seconds hit').2 := by
  have hmean : (m.withSearch hit).meanWith p seconds = (m.withSearch hit').meanWith p seconds :=
    rfl
  unfold record
  dsimp only
  rw [hmean]
  cases (m.withSearch hit').meanWith p seconds with
  | error f => rfl
  | ok mean =>
      dsimp only
      have hhistogram : ∀ (h : Bool) (n : Amount),
          ((m.withSearch h).withSample mean n seconds).histogram = m.histogram := fun _ _ => rfl
      rw [hhistogram, hhistogram]
      cases m.histogram.record p (seconds.scale p 1000) with
      | error f => rfl
      | ok histogram => rfl

namespace Metrics

/-- **Metrics that take measured times**: there are buckets, and the sum of the times so far is a
    quantity in the precision. -/
structure IsMeasured (p : Precision) (m : Metrics) : Prop where
  buckets : m.histogram.buckets ≠ []
  sum : ∃ x, m.histogram.sum.quantity p = .ok x

theorem isMeasured_start (slowSeconds : Amount) : (start slowSeconds).IsMeasured .double := by
  have hzero : Precision.double.quantity ((0 : Int) : Rat) = .finite 0 := by decide +kernel
  have hsum : Amount.quantityOf .double 0 = .ok (.finite 0) := by
    unfold Amount.quantityOf
    rw [hzero]
  exact ⟨List.cons_ne_nil _ _, .finite 0, hsum⟩

section Measured

variable {p : Precision} {m : Metrics} (h : m.IsMeasured p)
include h

/-- A measured time comes to no fault in the histogram. -/
theorem IsMeasured.histogram_record (x : Quantity) : ∃ bound y, m.histogram.record p (.real x) =
    .ok ⟨Histogram.countAt bound m.histogram.buckets, m.histogram.total + 1, .real y⟩ := by
  obtain ⟨sum, hsum⟩ := h.sum
  have hadd : m.histogram.sum.add p (.real x) = .ok (.real (p.plus sum x)) := by
    cases hm : m.histogram.sum with
    | whole n =>
        rw [hm] at hsum
        simp only [Amount.add, hsum]
        rfl
    | real y =>
        rw [hm] at hsum
        cases hsum
        rfl
  obtain ⟨bound, hbound⟩ : ∃ bound, m.histogram.boundFor? (.real x) = some bound := by
    unfold Histogram.boundFor?
    split
    · exact ⟨_, rfl⟩
    · exact ⟨_, congrArg _ (List.getLast?_eq_some_getLast h.buckets)⟩
  refine ⟨bound, p.plus sum x, ?_⟩
  unfold Histogram.record
  rw [hadd]
  simp only [bind, Except.bind, hbound]
  rfl

/-- **A measured time is recorded without a fault**, and so is the next one. -/
theorem IsMeasured.record (q : Text) (n : Amount) (x : Quantity) (hit : Bool) :
    (m.record p q n (.real x) hit).1.IsMeasured p ∧ (m.record p q n (.real x) hit).2 = none := by
  obtain ⟨bound, y, hrecord⟩ := h.histogram_record (p.times x (.ofNat 1000))
  have hmean : (m.withSearch hit).meanWith p (.real x) = .ok (p.plus m.meanSeconds
      (p.ratio (p.minus x m.meanSeconds) (m.searches + 1 : Nat))) := rfl
  unfold Metrics.record
  dsimp only
  rw [hmean]
  dsimp only
  have hsampled : ((m.withSearch hit).withSample (p.plus m.meanSeconds (p.ratio
      (p.minus x m.meanSeconds) (m.searches + 1 : Nat))) n (.real x)).histogram.record p
      ((Amount.real x).scale p 1000) = _ := hrecord
  rw [hsampled]
  refine ⟨⟨?_, y, rfl⟩, rfl⟩
  exact fun hnil => h.buckets (List.map_eq_nil_iff.mp hnil)

theorem IsMeasured.compact : m.compact.IsMeasured p := by
  unfold Metrics.compact
  split
  · exact ⟨h.buckets, h.sum⟩
  · exact h

end Measured

end Metrics

namespace Desk

variable {p : Precision} {d : Desk} {s : Surroundings} {asked : Json} {f : Panel}

/-- The results that a desk keeps. -/
def entries (d : Desk) : List CacheEntry := (d.cache.map (·.entries)).getD []

/-- **A desk is fresh** if all results that it keeps still hold. -/
def IsFresh (p : Precision) (d : Desk) (s : Surroundings) : Prop :=
  ∀ e ∈ d.entries, e.IsFresh p (d.sources s)

/-- Answering a query `q` leaves a desk with its index, its old entries and its own results. -/
structure Answered (p : Precision) (d : Desk) (s : Surroundings) (f : Panel) (d' : Desk) :
    Prop where
  index : d'.index = d.index
  entries : ∀ e ∈ d'.entries, e ∈ d.entries ∨ f.key = .ok e.key.panel ∧
    Search.planned p (d.sources s) e.key.query f = .ok e.results

theorem Answered.refl : Answered p d s f d := ⟨rfl, fun _ he => Or.inl he⟩

theorem mem_entries {c : Cache} (h : d.cache = some c) {e : CacheEntry} :
    e ∈ d.entries ↔ e ∈ c.entries := by
  unfold entries
  rw [h]
  rfl

theorem lookUp_spec (key : Option CacheKey) :
    (d.lookUp p s key).1.index = d.index ∧ (d.lookUp p s key).1.metrics = d.metrics ∧
      (∀ e ∈ (d.lookUp p s key).1.entries, e ∈ d.entries) ∧
      ∀ r, (d.lookUp p s key).2 = some r →
        ∃ e ∈ d.entries, some e.key = key ∧ e.results = r := by
  unfold lookUp
  split
  next c key hc =>
    refine ⟨rfl, rfl, fun e he => (mem_entries hc).mpr (Cache.mem_get he), fun r hr => ?_⟩
    obtain ⟨e, he, hkey, hres⟩ := Cache.exists_of_get hr
    exact ⟨e, (mem_entries hc).mpr he, congrArg some hkey, hres⟩
  next => exact ⟨rfl, rfl, fun _ he => he, fun _ hr => nomatch hr⟩

theorem mem_keep {key : Option CacheKey} {r : Results} {e : CacheEntry}
    (h : e ∈ (d.keep p s key r).entries) : e ∈ d.entries ∨ some e.key = key ∧ e.results = r := by
  cases key with
  | none => exact Or.inl h
  | some key =>
      cases hc : d.cache with
      | none =>
          unfold keep entries at h
          rw [hc] at h
          cases h
      | some c =>
          have hkept : (d.keep p s (some key) r).cache = some (c.put p s.clock key r) := by
            unfold keep
            rw [hc]
            rfl
          rw [mem_entries hkept] at h
          rw [mem_entries hc]
          exact (Cache.mem_put h).imp_right fun he => ⟨congrArg some he.1, he.2⟩

/-- The key under which results are kept, if there is a cache, is that of the panel. -/
theorem key_spec {q : Text} {key : Option CacheKey} (h : d.key q f = .ok key) {k : CacheKey}
    (hk : some k = key) : k.query = q ∧ f.key = .ok k.panel := by
  subst hk
  unfold Desk.key at h
  split at h
  · obtain ⟨panel, hpanel, h⟩ := bind_eq_ok.mp h
    cases h
    exact ⟨rfl, hpanel⟩
  · cases h

/-! ## 4. Answers -/

/-- **A planned search**, as the desk carries it out. -/
theorem search_eq (asked : Json) (q : Text) (key : Option CacheKey) :
    d.search p s asked q f key =
      match Search.planned p (d.sources s) q f with
      | .ok r => (d.keep p s key r).count p s q r false
      | .error fault =>
        let (d, r) := d.fail s asked (Plan.path q f) (Plan.complexity q f d.index.size.items) fault
        (d, .ok r) := by
  unfold search Search.planned
  dsimp only
  cases Search.run p (d.sources s) q f (Plan.path q f) with
  | ok r => rfl
  | error fault => rfl

theorem index_keep (key : Option CacheKey) (r : Results) : (d.keep p s key r).index = d.index := by
  cases key with
  | _ => rfl

/-- A search leaves the index as it is, and keeps what it found. -/
theorem search_spec (asked : Json) {q : Text} {key : Option CacheKey}
    (hkey : ∀ k, some k = key → k.query = q ∧ f.key = .ok k.panel) :
    Answered p d s f (d.search p s asked q f key).1 := by
  rw [search_eq]
  cases hplanned : Search.planned p (d.sources s) q f with
  | ok r =>
      refine ⟨index_keep key r, fun e he => ?_⟩
      rcases mem_keep he with he | ⟨hk, hres⟩
      · exact Or.inl he
      · obtain ⟨hq, hpanel⟩ := hkey _ hk
        refine Or.inr ⟨hpanel, ?_⟩
        rw [hq, hres]
        exact hplanned
  | error fault => exact ⟨rfl, fun _ he => Or.inl he⟩

/-- The fault to which the metrics come when a search is entered, if they come to one. -/
def flaw (p : Precision) (d : Desk) (s : Surroundings) : Option Fault :=
  (d.metrics.record p [] (.whole 0) s.elapsed false).2

/-- **Measured times come to no fault.** -/
theorem flaw_eq_none (h : d.metrics.IsMeasured p) {x : Quantity} (hx : s.elapsed = .real x) :
    d.flaw p s = none := by
  unfold flaw
  rw [hx]
  exact (h.record [] (.whole 0) x false).2

theorem flaw_congr {d' : Desk} (h : d'.metrics = d.metrics) : d'.flaw p s = d.flaw p s := by
  unfold flaw
  rw [h]

/-- What was found is answered, unless the metrics come to a fault. -/
theorem count_eq (q : Text) (r : Results) (hit : Bool) : (d.count p s q r hit).2 =
    match d.flaw p s with
    | none => .ok r
    | some f => .error f := by
  have hflaw : (d.metrics.record p q (.whole r.total) s.elapsed hit).2 = d.flaw p s :=
    Metrics.record_flaw p d.metrics q [] (.whole r.total) (.whole 0) s.elapsed hit false
  exact congrArg (fun flaw : Option Fault => match flaw with
    | none => Except.ok r
    | some f => .error f) hflaw

theorem search_of_planned {q : Text} {key : Option CacheKey} {r : Results}
    (h : Search.planned p (d.sources s) q f = .ok r) : (d.search p s asked q f key).2 =
      match d.flaw p s with
      | none => .ok r
      | some f => .error f := by
  have hmetrics : (d.keep p s key r).metrics = d.metrics := by
    cases key with
    | _ => rfl
  rw [search_eq, h]
  dsimp only
  rw [count_eq, flaw_congr hmetrics]

/-- **Searches that are planned alike and find the same are answered alike**, by whatever desk and
    however they are asked. -/
theorem search_of_alike {d' : Desk} {s' : Surroundings} {q q' : Text} (asked asked' : Json)
    (key key' : Option CacheKey) (hflaw : d.flaw p s = d'.flaw p s')
    (hpath : Plan.path q f = Plan.path q' f)
    (hcost : Plan.complexity q f d.index.size.items = Plan.complexity q' f d'.index.size.items)
    (hrun : Search.run p (d.sources s) q f (Plan.path q f) =
      Search.run p (d'.sources s') q' f (Plan.path q' f)) :
    (d.search p s asked q f key).2 = (d'.search p s' asked' q' f key').2 := by
  have hplanned : Search.planned p (d.sources s) q f = Search.planned p (d'.sources s') q' f := by
    unfold Search.planned
    dsimp only
    rw [hrun, hpath, show Plan.complexity q f (d.sources s).index.size.items = _ from hcost]
    rfl
  cases hfound : Search.planned p (d'.sources s') q' f with
  | ok r => rw [search_of_planned (hplanned.trans hfound), search_of_planned hfound, hflaw]
  | error fault =>
      rw [search_eq, search_eq, hplanned.trans hfound, hfound, hpath, hcost]
      rfl

/-- What is searched for does not come from the cache. -/
theorem uncached_search (q : Text) (key : Option CacheKey) :
    (d.search p s asked q f key).2.map Results.uncached = (d.search p s asked q f key).2 := by
  cases hplanned : Search.planned p (d.sources s) q f with
  | ok r =>
      rw [search_of_planned hplanned]
      cases d.flaw p s with
      | none => exact congrArg Except.ok (Results.uncached_eq (Search.planned_spec hplanned).1)
      | some fault => rfl
  | error fault =>
      rw [search_eq, hplanned]
      rfl

theorem sources_eq {d' : Desk} (h : d'.index = d.index) : d'.sources s = d.sources s := by
  unfold sources
  rw [h]

/-- It does not matter to a search what the cache keeps. -/
theorem search_congr {d' : Desk} (hindex : d'.index = d.index) (hmetrics : d'.metrics = d.metrics)
    (q : Text) (key key' : Option CacheKey) :
    (d'.search p s asked q f key).2 = (d.search p s asked q f key').2 :=
  search_of_alike asked asked key key' (flaw_congr hmetrics) rfl (by rw [hindex])
    (by rw [sources_eq hindex])

/-- An accepted query leaves the index as it is, and keeps at most what it found. -/
theorem answer_spec (query : Text) : Answered p d s f (d.answer p s asked query f).1 := by
  unfold answer
  dsimp only
  split
  · exact .refl
  · cases hkey : d.key (Query.normalize query) f with
    | error fault => exact .refl
    | ok key =>
        obtain ⟨hindex, -, hentries, -⟩ := lookUp_spec (p := p) (d := d) (s := s) key
        dsimp only
        cases hlook : d.lookUp p s key with
        | mk d' found =>
            rw [hlook] at hindex hentries
            cases found with
            | some r => exact ⟨hindex, fun e he => Or.inl (hentries e he)⟩
            | none =>
                obtain ⟨hsame, hkept⟩ := search_spec (p := p) (d := d') (s := s) asked
                  fun k hk => key_spec hkey hk
                refine ⟨hsame.trans hindex, fun e he => ?_⟩
                rw [← sources_eq hindex]
                exact (hkept e he).imp_left (hentries e)

/-- **An answered query** leaves the index as it is, and keeps at most what it found. -/
theorem execute_spec (p : Precision) (d : Desk) (s : Surroundings) (asked : Json) (f : Panel) :
    Answered p d s f (d.execute p s asked f).1 := by
  unfold execute
  split
  · exact .refl
  · split
    · exact .refl
    · exact .refl
    · exact answer_spec _

/-- **A fresh desk stays fresh** when it answers a query. -/
theorem IsFresh.execute (h : d.IsFresh p s) (hf : f.IsKeyed) (asked : Json) :
    (d.execute p s asked f).1.IsFresh p s := by
  obtain ⟨hindex, hentries⟩ := execute_spec p d s asked f
  intro e he
  rw [sources_eq hindex]
  rcases hentries e he with hold | ⟨hkey, hplanned⟩
  · exact h e hold
  · exact CacheEntry.isFresh_of_planned (hf.matches hkey) hplanned

theorem key_error {q : Text} {fault : Fault} (h : d.key q f = .error fault) :
    f.key = .error fault := by
  unfold Desk.key at h
  split at h
  · cases hkey : f.key with
    | ok panel =>
        rw [hkey] at h
        cases h
    | error fault' =>
        rw [hkey] at h
        cases h
        rfl
  · cases h

theorem answer_eq (h : d.IsFresh p s) (hf : f.IsKeyed) (query : Text) :
    (d.answer p s asked query f).2.map Results.uncached =
        ({ d with cache := none }.answer p s asked query f).2 ∨
      ∃ fault, f.key = .error fault ∧ (d.answer p s asked query f).2 = .error fault := by
  unfold answer
  dsimp only
  split
  · exact Or.inl rfl
  · cases hkey : d.key (Query.normalize query) f with
    | error fault => exact Or.inr ⟨fault, key_error hkey, rfl⟩
    | ok key =>
        refine Or.inl ?_
        show _ = ({ d with cache := none }.search p s asked (Query.normalize query) f none).2
        obtain ⟨hindex, hmetrics, -, hfound⟩ := lookUp_spec (p := p) (d := d) (s := s) key
        dsimp only
        cases hlook : d.lookUp p s key with
        | mk d' found =>
            rw [hlook] at hindex hmetrics hfound
            cases found with
            | none =>
                have hsame : (d'.search p s asked (Query.normalize query) f key).2 =
                    ({ d with cache := none }.search p s asked (Query.normalize query) f none).2 :=
                  search_congr (d := { d with cache := none }) hindex hmetrics _ key none
                exact (uncached_search _ key).trans hsame
            | some kept =>
                obtain ⟨e, he, hk, hres⟩ := hfound kept rfl
                obtain ⟨hq, hpanel⟩ := key_spec hkey hk
                have hplanned : Search.planned p (d.sources s) (Query.normalize query) f =
                    .ok kept := by
                  rw [← hres, ← hq]
                  exact h e he f (hf.matches hpanel)
                have hkept : kept.uncached = kept :=
                  Results.uncached_eq (Search.planned_spec hplanned).1
                have hflaw : d'.flaw p s = ({ d with cache := none } : Desk).flaw p s :=
                  flaw_congr hmetrics
                rw [search_of_planned (d := { d with cache := none }) hplanned]
                dsimp only
                rw [count_eq, hflaw]
                cases ({ d with cache := none } : Desk).flaw p s with
                | none => exact congrArg Except.ok hkept
                | some fault => rfl

/-- **A fresh cache makes no difference** to an answer, but that a panel without a key cannot be
    looked up in it. -/
theorem IsFresh.execute_eq (h : d.IsFresh p s) (hf : f.IsKeyed) (asked : Json) :
    (d.execute p s asked f).2.map Results.uncached =
        ({ d with cache := none }.execute p s asked f).2 ∨
      ∃ fault, f.key = .error fault ∧ (d.execute p s asked f).2 = .error fault := by
  unfold Desk.execute
  cases asked.searchable with
  | error fault => exact Or.inl rfl
  | ok query =>
      dsimp only
      cases refusal p s.now query with
      | error fault => exact Or.inl rfl
      | ok refused =>
          cases refused with
          | some r => exact Or.inl rfl
          | none => exact answer_eq h hf query

/-- **What a fresh desk answers** is what it would answer without a cache. -/
theorem IsFresh.execute_of_ok (h : d.IsFresh p s) (hf : f.IsKeyed) {asked : Json} {r : Results}
    (hr : (d.execute p s asked f).2 = .ok r) :
    ({ d with cache := none }.execute p s asked f).2 = .ok r.uncached := by
  rcases h.execute_eq hf asked with heq | ⟨fault, -, hfault⟩
  · rw [← heq, hr]
    rfl
  · rw [hr] at hfault
    cases hfault

/-! ## 5. Answers without a cache -/

/-- A refused query is answered with the reason. -/
theorem execute_of_refused {t : Text} {why : Query.Refusal}
    (h : refusal p s.now t = .ok (some why)) :
    (d.execute p s (.str t) f).2 = .ok (.failed why.message) := by
  unfold Desk.execute
  simp only [Json.searchable_str, h]

/-- A query that comes to nothing is answered with nothing, if nothing is set on the panel. -/
theorem execute_of_nothing {t : Text} (hok : refusal p s.now t = .ok none)
    (hq : Query.normalize t = []) (hf : f.isActive = false) :
    (d.execute p s (.str t) f).2 = .ok .empty := by
  have hnothing : ((Query.normalize t).isEmpty && !f.isActive) = true := by simp [hq, hf]
  unfold Desk.execute
  simp only [Json.searchable_str, hok]
  exact congrArg Prod.snd (if_pos hnothing)

/-- Without a cache an accepted query is searched for, if it comes to something or something is set
    on the panel. -/
theorem execute_of_going (hcache : d.cache = none) {t : Text} (hok : refusal p s.now t = .ok none)
    (hgoing : Query.normalize t ≠ [] ∨ f.isActive = true) :
    d.execute p s (.str t) f = d.search p s (.str t) (Query.normalize t) f none := by
  have hsome : ¬ ((Query.normalize t).isEmpty && !f.isActive) = true := by
    rw [Bool.and_eq_true, Bool.not_eq_true']
    rintro ⟨hempty, hinactive⟩
    rcases hgoing with hne | hactive
    · exact hne (List.isEmpty_iff.mp hempty)
    · rw [hinactive] at hactive
      cases hactive
  have hkey : d.key (Query.normalize t) f = .ok none := by
    unfold Desk.key
    rw [hcache]
    rfl
  have hlook : d.lookUp p s none = (d, none) := by
    unfold lookUp
    rw [hcache]
  unfold Desk.execute
  simp only [Json.searchable_str, hok]
  unfold answer
  dsimp only
  rw [if_neg hsome, hkey]
  dsimp only
  rw [hlook]

/-- Without a cache an accepted query that comes to something is searched for. -/
theorem execute_of_accepted (hcache : d.cache = none) {t : Text}
    (hok : refusal p s.now t = .ok none) (hq : Query.normalize t ≠ []) :
    d.execute p s (.str t) f = d.search p s (.str t) (Query.normalize t) f none :=
  execute_of_going hcache hok (Or.inl hq)

/-- **What is answered without a cache** is what a fresh desk answers, if its panel has a key. -/
theorem IsFresh.execute_of_plain (h : d.IsFresh p s) (hf : f.IsKeyed) {key : PanelKey}
    (hkey : f.key = .ok key) {r : Results}
    (hr : ({ d with cache := none }.execute p s asked f).2 = .ok r) :
    ∃ r', (d.execute p s asked f).2 = .ok r' ∧ r'.uncached = r := by
  rcases h.execute_eq hf asked with heq | ⟨fault, hnokey, -⟩
  · rw [hr] at heq
    cases hanswer : (d.execute p s asked f).2 with
    | ok r' =>
        rw [hanswer] at heq
        exact ⟨r', rfl, Except.ok.inj heq⟩
    | error fault =>
        rw [hanswer] at heq
        cases heq
  · rw [hkey] at hnokey
    cases hnokey

end Desk

end Worklog
