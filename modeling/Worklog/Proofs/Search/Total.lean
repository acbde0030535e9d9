import Worklog.Proofs.Query.Stray
import Worklog.Proofs.Search.Fresh
import Worklog.Proofs.Search.Verdict
import Worklog.Session.Basic

/-!
# Every search is answered

A search that goes wrong is answered with the reason: what is wrong with the query, or what the
store came to. A fault is the answer in one case only, where the query names a day outside the
calendar (`Query.strays`); the panel has to have numbers for its bounds, and the time that a search
takes has to be measured.

* `Panel.HasBounds.key`: a panel with numbers for its bounds has a key;
* `Desk.Outcome`, `Desk.answer_outcome`: what becomes of a query that was not refused;
* `Desk.search_ok`, `Desk.Outcome.answered`: in each case there are results;
* **`Desk.execute_total`**: every query is answered unless it strays; then it is a fault, and the
  desk is as before.
-/

namespace Worklog

/-! ## 1. Keys -/

/-- A number, or null, has a label. -/
theorem Json.exists_label_of_isBound {v : Json} (h : v.isBound = true) :
    ∃ l, v.label = .ok l := by
  cases v with
  | arr => cases h
  | obj => cases h
  | _ => exact ⟨_, rfl⟩

/-- **A panel with numbers for its bounds has a key.** -/
theorem Panel.HasBounds.key {f : Panel} (h : f.HasBounds) : ∃ key, f.key = .ok key := by
  obtain ⟨least, hleast⟩ := Json.exists_label_of_isBound h.1
  obtain ⟨greatest, hgreatest⟩ := Json.exists_label_of_isBound h.2
  unfold Panel.key
  rw [hleast, hgreatest]
  exact ⟨_, rfl⟩

namespace Desk

variable {p : Precision} {d : Desk} {s : Surroundings} {asked : Json} {f : Panel} {q : Text}

/-! ## 2. Outcomes -/

/-- **What becomes of a query in normal form** that was not refused: nothing is asked, the panel
    has no key, results are still kept, or the query is searched for. -/
inductive Outcome (p : Precision) (d : Desk) (s : Surroundings) (asked : Json) (q : Text)
    (f : Panel) : Desk × Except Fault Results → Prop where
  | nothing (hq : q = []) (hf : f.isActive = false) : Outcome p d s asked q f (d, .ok .empty)
  | unkeyed {fault : Fault} (hkey : f.key = .error fault) :
    Outcome p d s asked q f (d, .error fault)
  | kept {key : Option CacheKey} {r : Results} (hkey : d.key q f = .ok key)
      (hfound : (d.lookUp p s key).2 = some r) :
    Outcome p d s asked q f (((d.lookUp p s key).1.count p s q r true).1,
      ((d.lookUp p s key).1.count p s q r true).2.map fun r => { r with fromCache := true })
  | searched {key : Option CacheKey} (hkey : d.key q f = .ok key)
      (hfound : (d.lookUp p s key).2 = none) :
    Outcome p d s asked q f ((d.lookUp p s key).1.search p s asked q f key)

/-- **A query that was not refused** has one of these outcomes. -/
theorem answer_outcome (p : Precision) (d : Desk) (s : Surroundings) (asked : Json)
    (query : Text) (f : Panel) :
    Outcome p d s asked (Query.normalize query) f (d.answer p s asked query f) := by
  unfold answer
  dsimp only
  split
  next hnothing =>
    rw [Bool.and_eq_true, List.isEmpty_iff, Bool.not_eq_true'] at hnothing
    exact .nothing hnothing.1 hnothing.2
  next =>
    cases hkey : d.key (Query.normalize query) f with
    | error fault => exact .unkeyed (key_error hkey)
    | ok key =>
        dsimp only
        cases hlook : d.lookUp p s key with
        | mk d' found =>
            have hdesk : (d.lookUp p s key).1 = d' := congrArg Prod.fst hlook
            have hfound : (d.lookUp p s key).2 = found := congrArg Prod.snd hlook
            cases found with
            | some r =>
                have houtcome : Outcome p d s asked _ f _ := .kept hkey hfound
                rwa [hdesk] at houtcome
            | none =>
                have houtcome : Outcome p d s asked _ f _ := .searched hkey hfound
                rwa [hdesk] at houtcome

/-- The words for a search that came to a fault. -/
def failureWords (fault : Fault) : Text := "Search failed: ".toList ++ fault.message.getD []

/-- A failed search is answered with the words for it. -/
theorem search_of_failed {fault : Fault} (asked : Json) (key : Option CacheKey)
    (h : Search.planned p (d.sources s) q f = .error fault) :
    ∃ r, (d.search p s asked q f key).2 = .ok r ∧ r.failure = some (failureWords fault) := by
  rw [search_eq, h]
  exact ⟨_, rfl, rfl⟩

section Measured

variable (hmeasured : d.metrics.IsMeasured p) {x : Quantity} (hx : s.elapsed = .real x)
include hmeasured hx

/-- **A search is answered**, and in the case of a fault with the words for it. -/
theorem search_ok (asked : Json) (q : Text) (f : Panel) (key : Option CacheKey) :
    ∃ r, (d.search p s asked q f key).2 = .ok r ∧
      (∀ fault, Search.planned p (d.sources s) q f = .error fault →
        r.failure = some (failureWords fault)) := by
  cases hplanned : Search.planned p (d.sources s) q f with
  | ok r =>
      refine ⟨r, ?_, fun fault h => nomatch h⟩
      rw [search_of_planned hplanned, flaw_eq_none hmeasured hx]
  | error fault =>
      obtain ⟨r, hr, hwords⟩ := search_of_failed asked key hplanned
      refine ⟨r, hr, fun fault' h => ?_⟩
      cases h
      exact hwords

theorem count_ok (q : Text) (r : Results) (hit : Bool) : (d.count p s q r hit).2 = .ok r := by
  rw [count_eq, flaw_eq_none hmeasured hx]

theorem isMeasured_count (q : Text) (r : Results) (hit : Bool) :
    (d.count p s q r hit).1.metrics.IsMeasured p := by
  have hrecord := (hmeasured.record q (.whole r.total) x hit).1
  rw [← hx] at hrecord
  exact hrecord

/-- After a search the metrics take measured times, as before. -/
theorem isMeasured_search (asked : Json) (q : Text) (f : Panel) (key : Option CacheKey) :
    (d.search p s asked q f key).1.metrics.IsMeasured p := by
  rw [search_eq]
  cases Search.planned p (d.sources s) q f with
  | error fault => exact hmeasured
  | ok r =>
      have hkept : (d.keep p s key r).metrics = d.metrics := by
        cases key with
        | _ => rfl
      exact isMeasured_count (d := d.keep p s key r) (hkept ▸ hmeasured) hx q r false

/-- **Each outcome comes with results**, and one that is searched for with the words for its fault
    if it comes to one. -/
theorem Outcome.answered (hf : f.HasBounds) {a : Desk × Except Fault Results}
    (h : Outcome p d s asked q f a) :
    a.1.metrics.IsMeasured p ∧ ∃ r, a.2 = .ok r ∧
      ∀ fault, q ≠ [] ∨ f.isActive = true → r.fromCache = false →
        Search.planned p (d.sources s) q f = .error fault →
        r.failure = some (failureWords fault) := by
  cases h with
  | nothing hq hinactive =>
      refine ⟨hmeasured, _, rfl, fun fault hasks => ?_⟩
      rw [hinactive] at hasks
      exact absurd hq (hasks.resolve_right Bool.false_ne_true)
  | unkeyed hkey =>
      obtain ⟨key, hok⟩ := hf.key
      rw [hok] at hkey
      cases hkey
  | @kept key r hkey hfound =>
      obtain ⟨-, hmetrics, -, -⟩ := lookUp_spec (p := p) (d := d) (s := s) key
      have hmeasured' : (d.lookUp p s key).1.metrics.IsMeasured p := hmetrics ▸ hmeasured
      refine ⟨isMeasured_count hmeasured' hx q r true, { r with fromCache := true }, ?_,
        fun fault _ hfresh => nomatch hfresh⟩
      rw [count_ok hmeasured' hx]
      rfl
  | @searched key hkey hfound =>
      obtain ⟨hindex, hmetrics, -, -⟩ := lookUp_spec (p := p) (d := d) (s := s) key
      have hmeasured' : (d.lookUp p s key).1.metrics.IsMeasured p := hmetrics ▸ hmeasured
      obtain ⟨r, hr, hwords⟩ := search_ok hmeasured' hx asked q f key
      refine ⟨isMeasured_search hmeasured' hx asked q f key, r, hr, fun fault _ _ hfault => ?_⟩
      exact hwords fault (sources_eq hindex ▸ hfault)

end Measured

/-! ## 3. Every query -/

/-- A query is refused or not, unless it strays. -/
theorem refusal_cases (p : Precision) (now : Moment) (q : Text) :
    (Query.strays now q = false ∧ ∃ why, refusal p now q = .ok why) ∨
      (Query.strays now q = true ∧ refusal p now q = .error .dateOverflow) := by
  unfold refusal
  split
  next hblank =>
    refine Or.inl ⟨?_, _, rfl⟩
    rw [Query.strays, Query.tokens_of_isBlankText hblank]
    rfl
  next => exact Query.verdict_cases p now q

/-- **Every query is answered unless it strays.** A query that does not name a day outside the
    calendar can be read and gets a verdict, and the desk answers it with results: with the reason
    where it is refused, and with the words for the fault where a search came to one. A query that
    does is the fault `dateOverflow` throughout, and leaves the desk as it was. In both cases the
    metrics can take the next measured time. -/
theorem execute_total (p : Precision) (d : Desk) (s : Surroundings) (f : Panel) {x : Quantity}
    (hmeasured : d.metrics.IsMeasured p) (hx : s.elapsed = .real x) (hf : f.HasBounds) (q : Text) :
    (Query.strays s.now q = false →
      (∃ query, Query.read p s.now q = .ok query) ∧
      (∃ why, Query.verdict p s.now q = .ok why) ∧
      ∃ r, (d.execute p s (.str q) f).2 = .ok r ∧
        (∀ why, refusal p s.now q = .ok (some why) → r = .failed why.message) ∧
        ∀ fault, refusal p s.now q = .ok none →
          Query.normalize q ≠ [] ∨ f.isActive = true → r.fromCache = false →
          Search.planned p (d.sources s) (Query.normalize q) f = .error fault →
          r.failure = some (failureWords fault)) ∧
    (Query.strays s.now q = true →
      Query.read p s.now q = .error .dateOverflow ∧
      Query.verdict p s.now q = .error .dateOverflow ∧
      d.execute p s (.str q) f = (d, .error .dateOverflow)) ∧
    (d.execute p s (.str q) f).1.metrics.IsMeasured p := by
  have hread := Query.read_cases p s.now q
  have hverdict := Query.verdict_cases p s.now q
  rcases refusal_cases p s.now q with ⟨hin, why, hwhy⟩ | ⟨hout, herror⟩
  · rw [hin] at hread hverdict ⊢
    have hread' := hread.resolve_right fun h => Bool.false_ne_true h.1
    have hverdict' := hverdict.resolve_right fun h => Bool.false_ne_true h.1
    cases why with
    | some why =>
        have hexecute : d.execute p s (.str q) f = (d, .ok (.failed why.message)) := by
          unfold Desk.execute
          simp only [Json.searchable_str, hwhy]
        rw [hexecute]
        refine ⟨fun _ => ⟨hread'.2, hverdict'.2, _, rfl, fun why' h => ?_, fun _ h => ?_⟩,
          nofun, hmeasured⟩
        · rw [hwhy] at h
          cases h
          rfl
        · rw [hwhy] at h
          cases h
    | none =>
        have hexecute : d.execute p s (.str q) f = d.answer p s (.str q) q f := by
          unfold Desk.execute
          simp only [Json.searchable_str, hwhy]
        rw [hexecute]
        obtain ⟨hmeasured', r, hr, hwords⟩ :=
          (answer_outcome p d s (.str q) q f).answered hmeasured hx hf
        refine ⟨fun _ => ⟨hread'.2, hverdict'.2, r, hr, fun why' h => ?_,
          fun fault _ => hwords fault⟩, nofun, hmeasured'⟩
        rw [hwhy] at h
        cases h
  · rw [hout] at hread hverdict ⊢
    have hread' := hread.resolve_left fun h => Bool.false_ne_true h.1.symm
    have hverdict' := hverdict.resolve_left fun h => Bool.false_ne_true h.1.symm
    have hexecute : d.execute p s (.str q) f = (d, .error .dateOverflow) := by
      unfold Desk.execute
      simp only [Json.searchable_str, herror]
    rw [hexecute]
    exact ⟨nofun, fun _ => ⟨hread'.2, hverdict'.2, rfl⟩, hmeasured⟩

/-- An empty store and a clock; the search takes no time. -/
def emptyAt (now : Moment) : Surroundings := ⟨.empty, now, .finite 0, .real (.finite 0)⟩

/-- On the first day of the calendar an unreadable comparison is answered with what is wrong with
    it, and yesterday is a fault. -/
theorem execute_total_first_day :
    (∃ r, ((Session.newDesk {} default).execute .double (emptyAt default)
        (.str "dur>soon on:tomorrow".toList) .blank).2 = .ok r ∧
      r.failure = some "Invalid duration format in filter: dur>soon".toList) ∧
    ((Session.newDesk {} default).execute .double (emptyAt default)
      (.str "on:yesterday".toList) .blank).2 = .error .dateOverflow := by
  have hmeasured : (Session.newDesk {} default).metrics.IsMeasured .double :=
    Metrics.isMeasured_start _
  obtain ⟨hanswered, -, -⟩ := execute_total .double (Session.newDesk {} default)
    (emptyAt default) .blank hmeasured rfl (by decide) "dur>soon on:tomorrow".toList
  obtain ⟨-, hstrayed, -⟩ := execute_total .double (Session.newDesk {} default)
    (emptyAt default) .blank hmeasured rfl (by decide) "on:yesterday".toList
  obtain ⟨-, -, r, hr, hrefused, -⟩ := hanswered (by decide +kernel)
  refine ⟨⟨r, hr, ?_⟩, congrArg Prod.snd (hstrayed (by decide +kernel)).2.2⟩
  rw [hrefused (.problem (.noLength "dur>soon".toList)) (by decide +kernel)]
  decide

/-- On the last day of the calendar tomorrow is a fault. -/
theorem execute_fails_on_last_day :
    ¬ ∀ (d : Desk) (s : Surroundings) (f : Panel) (x : Quantity) (q : Text),
      d.metrics.IsMeasured .double → s.elapsed = .real x → f.HasBounds →
      ∃ r, (d.execute .double s (.str q) f).2 = .ok r := by
  intro h
  have hrefusal : refusal .double ⟨Moment.count - 43200000000, by decide⟩ "on:tomorrow".toList =
      .error .dateOverflow := by decide +kernel
  obtain ⟨r, hr⟩ := h (Session.newDesk {} default)
    (emptyAt ⟨Moment.count - 43200000000, by decide⟩) .blank (.finite 0) "on:tomorrow".toList
    (Metrics.isMeasured_start _) rfl (by decide)
  unfold Desk.execute at hr
  simp only [Json.searchable_str, emptyAt, hrefusal] at hr
  cases hr

end Desk

end Worklog
