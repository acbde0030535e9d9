import Worklog.Proofs.Session.Debounce

/-!
# What a session shows

A session shows the results of its last call, as soon as nothing waits any more. The search of that
call may have been carried out at once, or when its time came, or there was nothing to search for:

* `Session.Shows`: what a call shows in the end; a search that comes to a fault leaves the results
  as they are;
* `Session.answers_of_call`: what a session shows when nothing waits;
* `Session.IsDebounced`: how the searches of a session follow one another;
* **`Session.run_debounced`**: they do so in every state of every run.
-/

namespace Worklog.Session

variable {p : Precision} {s t e : Session} {env : Surroundings} {mid : List Deed}

/-! ## 1. What a call shows in the end -/

theorem receive_shows (r : Results) : (s.receive r).session.results = r ∧
    (s.receive r).session.query = s.query ∧ (s.receive r).session.panel = s.panel := by
  unfold receive remember
  dsimp only
  split
  · exact ⟨rfl, rfl, rfl⟩
  · split
    next h => rw [← (Prod.mk.inj h).1]; exact ⟨rfl, rfl, rfl⟩
    next h => rw [← (Prod.mk.inj h).1]; exact ⟨rfl, rfl, rfl⟩
  · exact ⟨rfl, rfl, rfl⟩

/-- A search that is carried out shows the answer to the query, if there is one. -/
theorem perform_shows (p : Precision) (s : Session) (env : Surroundings) :
    (s.perform p env).session.query = s.query ∧ (s.perform p env).session.panel = s.panel ∧
      ((∃ r, (s.desk.execute p env s.query s.panel).2 = .ok r ∧
          (s.perform p env).session.results = r) ∨
        ∃ f, (s.desk.execute p env s.query s.panel).2 = .error f ∧
          (s.perform p env).session.results = s.results) := by
  unfold perform
  cases s.desk.execute p env s.query s.panel with
  | mk desk answer =>
      cases answer with
      | ok r =>
          obtain ⟨hresults, hquery, hpanel⟩ := receive_shows (s := { s with desk }) r
          exact ⟨hquery, hpanel, Or.inl ⟨r, rfl, hresults⟩⟩
      | error f => exact ⟨rfl, rfl, Or.inr ⟨f, rfl, rfl⟩⟩

/-- **What a call shows in the end** that aims at a session, given when it searches and what
    surrounds the session meanwhile. -/
inductive Shows (p : Precision) (t : Session) (m : Manner) (envs : List Surroundings) :
    Results → Prop
  /-- There is nothing to search for. -/
  | nothing (h : m = .never ∨ t.hasCriteria = .ok false) : Shows p t m envs .empty
  /-- The query and the panel are answered. -/
  | answer {env : Surroundings} {r : Results} (hm : m ≠ .never)
      (hcriteria : t.hasCriteria = .ok true) (henv : env ∈ envs)
      (hr : (t.desk.execute p env t.query t.panel).2 = .ok r) : Shows p t m envs r
  /-- There is no answer: the results stay. -/
  | fault {env : Surroundings} {f : Fault} (hm : m ≠ .never)
      (hcriteria : t.hasCriteria = .ok true) (henv : env ∈ envs)
      (hf : (t.desk.execute p env t.query t.panel).2 = .error f) : Shows p t m envs t.results
  /-- The query is not a text: the results stay. -/
  | noText {f : Fault} (hm : m ≠ .never) (hcriteria : t.hasCriteria = .error f) :
      Shows p t m envs t.results
  /-- The delay is too long to be told in seconds: the results stay. -/
  | tooLong {f : Fault} (hm : m = .delayed) (hcriteria : t.hasCriteria = .ok true)
      (hdelay : t.delay p = .error f) : Shows p t m envs t.results

/-- A session shows in the end what a call aims at: its query, its panel, and the results. -/
structure Answers (p : Precision) (t : Session) (m : Manner) (envs : List Surroundings)
    (e : Session) : Prop where
  query_eq : e.query = t.query
  panel_eq : e.panel = t.panel
  shows : Shows p t m envs e.results

/-- A session that keeps what was shown shows the same. -/
theorem Answers.of_keeps {m : Manner} {envs : List Surroundings} (h : Answers p t m envs s)
    (hkeeps : Keeps s e) : Answers p t m envs e :=
  ⟨hkeeps.query.trans h.query_eq, hkeeps.panel.trans h.panel_eq, hkeeps.results ▸ h.shows⟩

/-- A search that is carried out answers what is in force. -/
theorem Answers.of_perform {m : Manner} {envs : List Surroundings} (hm : m ≠ .never)
    (hcriteria : t.hasCriteria = .ok true) (hkeeps : Keeps t s) (henv : env ∈ envs) :
    Answers p t m envs (s.perform p env).session := by
  obtain ⟨-, hdesk, hquery, hpanel, hresults⟩ := hkeeps
  obtain ⟨hquery', hpanel', hshows⟩ := perform_shows p s env
  rw [hdesk, hquery, hpanel] at hshows
  refine ⟨hquery'.trans hquery, hpanel'.trans hpanel, ?_⟩
  rcases hshows with ⟨r, hr, hshown⟩ | ⟨f, hf, hshown⟩
  · rw [hshown]
    exact .answer hm hcriteria henv hr
  · rw [hshown, hresults]
    exact .fault hm hcriteria henv hf

/-- What a refused call leaves. -/
theorem keeps_refused {c : Call} (h : c.aim? env.now e = none) :
    Keeps e (step p e (.call env c)).1 ∧ (step p e (.call env c)).1.due? = e.due? := by
  obtain ⟨history, hstep⟩ := step_refused (p := p) h
  have he : step p e (.call env c) = ({ e with history }, []) := hstep e.tickets
  rw [he]
  exact ⟨⟨rfl, rfl, rfl, rfl, rfl⟩, rfl⟩

/-- Where nothing waits, nothing changes until the next call that takes place. -/
theorem keeps_of_nothing (ds : List Deed) : ∀ {e : Session}, e.due? = none → IsQuiet p e ds →
    Keeps e (run p e ds).1 := by
  induction ds with
  | nil => exact fun {e} _ _ => .refl e
  | cons d ds ih =>
      intro e hnothing hquiet
      have hstep : Keeps e (step p e d).1 ∧ (step p e d).1.due? = none := by
        cases d with
        | pass env ms =>
            have hgist : (step p e (.pass env ms)).1.gist = e.idle :=
              congrArg Prod.fst (seen_pass_idle hnothing ms)
            exact ⟨keeps_of_gist hgist, due?_of_gist hgist⟩
        | call env c =>
            obtain ⟨hkeeps, hdue⟩ := keeps_refused (p := p) (hquiet.1 env c rfl)
            exact ⟨hkeeps, hdue.trans hnothing⟩
      exact hstep.1.trans (ih hstep.2 hquiet.2)

/-- **A search that waits** goes on waiting until it is carried out, and then nothing changes until
    the next call that takes place. -/
theorem waits_or_answers {m : Manner} {envs : List Surroundings} (hm : m ≠ .never)
    (hcriteria : t.hasCriteria = .ok true) (ds : List Deed) : ∀ {e : Session} {left : Rat},
    e.due? = some left → Keeps t e → IsQuiet p e ds → (∀ d ∈ ds, d.surroundings ∈ envs) →
    (run p e ds).1.due? ≠ none ∨ Answers p t m envs (run p e ds).1 := by
  induction ds with
  | nil =>
      intro e left hwaits _ _ _
      refine Or.inl fun hnone => ?_
      rw [show (run p e []).1.due? = e.due? from rfl, hwaits] at hnone
      cases hnone
  | cons d ds ih =>
      intro e left hwaits hkeeps hquiet henvs
      have hrest : ∀ d ∈ ds, d.surroundings ∈ envs := fun d hd =>
        henvs d (List.mem_cons_of_mem _ hd)
      cases d with
      | call env c =>
          obtain ⟨hstill, hdue⟩ := keeps_refused (p := p) (hquiet.1 env c rfl)
          exact ih (hdue.trans hwaits) (hkeeps.trans hstill) hquiet.2 hrest
      | pass env ms =>
          by_cases hms : left ≤ ms
          · have hgist : (step p e (.pass env ms)).1.gist = (e.idle.perform p env).session :=
              congrArg Prod.fst (seen_pass_due hwaits hms)
            have hnothing : (step p e (.pass env ms)).1.due? = none :=
              (due?_of_gist hgist).trans due?_perform
            have hidle : Keeps t e.idle := hkeeps.trans (keeps_of_idle rfl)
            have hanswers : Answers p t m envs (e.idle.perform p env).session :=
              .of_perform hm hcriteria hidle (henvs _ List.mem_cons_self)
            exact Or.inr (hanswers.of_keeps
              ((keeps_of_idle (idle_of_gist hgist)).trans (keeps_of_nothing ds hnothing hquiet.2)))
          · have hgist : (step p e (.pass env ms)).1.gist =
                e.withTickets [.waiting (left - ms)] :=
              congrArg Prod.fst (seen_pass_early hwaits (Rat.not_le.mp hms))
            exact ih (due?_of_gist hgist) (hkeeps.trans (keeps_of_gist hgist)) hquiet.2 hrest

/-- All that a call can leave: it shows what it aims at, or its search waits. -/
theorem launch_answers (m : Manner) {envs : List Surroundings} (henv : env ∈ envs) :
    ((launch p env t.idle m).1.due? = none ∧ Answers p t m envs (launch p env t.idle m).1) ∨
      m ≠ .never ∧ t.hasCriteria = .ok true ∧
        ∃ ms, (launch p env t.idle m).1 = t.withTickets [.waiting ms] := by
  cases h : t.hasCriteria with
  | error f =>
      by_cases hm : m = .never
      · rw [launch_nothing (Or.inl hm)]
        exact Or.inl ⟨rfl, rfl, rfl, .nothing (Or.inl hm)⟩
      · rw [launch_error (t := t.idle) hm h]
        exact Or.inl ⟨rfl, rfl, rfl, .noText hm h⟩
  | ok b =>
      cases b with
      | false =>
          rw [launch_nothing (t := t.idle) (Or.inr h)]
          exact Or.inl ⟨rfl, rfl, rfl, .nothing (Or.inr h)⟩
      | true =>
          cases m with
          | never =>
              rw [launch_nothing (Or.inl rfl)]
              exact Or.inl ⟨rfl, rfl, rfl, .nothing (Or.inl rfl)⟩
          | atOnce =>
              rw [launch_atOnce (t := t.idle) h]
              exact Or.inl ⟨due?_perform, .of_perform nofun h (keeps_of_idle rfl) henv⟩
          | delayed =>
              cases hdelay : t.delay p with
              | error f =>
                  rw [launch_tooLong (t := t.idle) h hdelay]
                  exact Or.inl ⟨rfl, rfl, rfl, .tooLong rfl h hdelay⟩
              | ok ms =>
                  rw [launch_delayed (t := t.idle) h hdelay]
                  exact Or.inr ⟨nofun, rfl, ms, rfl⟩

/-- **Whenever nothing waits, what is shown is what the last call aims at** that took place. -/
theorem answers_of_call {c : Call} (hc : c.aim? env.now s = some t)
    (hquiet : IsQuiet p (step p s (.call env c)).1 mid)
    (hnothing : (run p s (.call env c :: mid)).1.due? = none) :
    Answers p t c.manner ((Deed.call env c :: mid).map Deed.surroundings)
      (run p s (.call env c :: mid)).1 := by
  have hgist : (step p s (.call env c)).1.gist = (launch p env t.idle c.manner).1 :=
    congrArg Prod.fst (seen_call hc)
  have henvs : ∀ d ∈ mid, d.surroundings ∈ (Deed.call env c :: mid).map Deed.surroundings :=
    fun d hd => List.mem_map_of_mem (List.mem_cons_of_mem _ hd)
  rcases launch_answers (p := p) (t := t) c.manner (List.mem_map_of_mem List.mem_cons_self) with
    ⟨hdue, hanswers⟩ | ⟨hm, hcriteria, ms, hwaits⟩
  · exact hanswers.of_keeps ((keeps_of_idle (idle_of_gist hgist)).trans
      (keeps_of_nothing mid ((due?_of_gist hgist).trans hdue) hquiet))
  · have hleft : (step p s (.call env c)).1.gist = t.withTickets [.waiting ms] :=
      hgist.trans hwaits
    rcases waits_or_answers hm hcriteria mid (due?_of_gist hleft) (keeps_of_gist hleft) hquiet
      henvs with hstill | hanswers
    · exact absurd hnothing hstill
    · exact hanswers

/-! ## 2. All runs -/

/-- **How the searches of a session follow one another.** -/
structure IsDebounced (p : Precision) (s : Session) : Prop where
  /-- At most one search waits. -/
  pending_le : s.pending ≤ 1
  /-- A search that another call follows within its delay is never carried out. -/
  superseded : ∀ {query : Json} {delay : Rat} {env env' : Surroundings} {mid : List Deed}
    {c : Call} {t : Session}, Schedules p s query delay →
    IsQuiet p (step p s (.call env (.type query))).1 mid → IsWithin delay mid →
    c.aim? env'.now (run p s (.call env (.type query) :: mid)).1 = some t → ∀ after,
    trace p s (.call env (.type query) :: mid ++ .call env' c :: after) =
      trace p (s.aim query) (mid ++ .call env' c :: after)
  /-- A search that none follows within its delay is carried out once, with the query and the panel
      in force. -/
  carried : ∀ {query : Json} {delay : Rat} {env env' : Surroundings} {mid : List Deed} {ms : Rat},
    Schedules p s query delay → IsQuiet p (step p s (.call env (.type query))).1 mid →
    IsWithin delay mid → delay ≤ span mid + ms →
    Keeps (s.aim query) (run p (s.aim query) mid).1 ∧ ∀ after,
      trace p s (.call env (.type query) :: mid ++ .pass env' ms :: after) =
        goOn p ((run p (s.aim query) mid).1.idle.perform p env').effect after
  /-- So is a search at once. -/
  atOnce : ∀ {env : Surroundings} {c : Call} {t : Session}, c.aim? env.now s = some t →
    c.manner = .atOnce → t.hasCriteria = .ok true → ∀ after,
    trace p s (.call env c :: after) = goOn p (t.idle.perform p env).effect after
  /-- Whenever nothing waits, what is shown is what the last call aims at that took place. -/
  answers : ∀ {env : Surroundings} {c : Call} {t : Session} {mid : List Deed},
    c.aim? env.now s = some t → IsQuiet p (step p s (.call env c)).1 mid →
    (run p s (.call env c :: mid)).1.pending = 0 →
    Answers p t c.manner ((Deed.call env c :: mid).map Deed.surroundings)
      (run p s (.call env c :: mid)).1
  /-- A call that does not take place changes nothing but the history. -/
  refused : ∀ {env : Surroundings} {c : Call}, c.aim? env.now s = none →
    ∃ history, step p s (.call env c) = ({ s with history }, [])

/-- **Searches follow one another as they should** in every state of every run. -/
theorem run_debounced (p : Precision) {s : Session} (h : s.pending ≤ 1) (before : List Deed) :
    IsDebounced p (run p s before).1 where
  pending_le := pending_run before h
  superseded hsearch hquiet hwithin hc after := hsearch.superseded hquiet hwithin hc after
  carried hsearch hquiet hwithin hms :=
    ⟨(hsearch.shadows_run hquiet hwithin).2.1, hsearch.carried hquiet hwithin hms⟩
  atOnce hc hmanner hcriteria after := carried_atOnce hc hmanner hcriteria after
  answers hc hquiet hnothing := answers_of_call hc hquiet (due?_eq_none_iff.mpr hnothing)
  refused hc := by
    obtain ⟨history, hstep⟩ := step_refused (p := p) hc
    exact ⟨history, hstep _⟩

/-- A session that has not been asked anything yet. -/
def unasked : Session :=
  ⟨{}, newDesk {} default, .empty History.defaultLimit .unused, .str [], .blank, .empty, []⟩

/-- A store with one project, at a moment. -/
def oneProjectAt (now : Moment) : Surroundings :=
  ⟨Store.empty.put (.project ⟨"p1".toList, .str "QA".toList, .null⟩), now, .finite 0, .ofRat 0⟩

theorem delay_unasked : unasked.delay .double = .ok 300 := by
  have h : (unasked.delay .double).toOption = some 300 := by decide +kernel
  cases hdelay : unasked.delay .double with
  | ok delay =>
      rw [hdelay] at h
      exact congrArg Except.ok (Option.some.inj h)
  | error f =>
      rw [hdelay] at h
      cases h

/-- A tenth of a second after a query was typed, another one is searched for. -/
def quickDeeds : List Deed :=
  [.pass (oneProjectAt default) 100,
    .call (oneProjectAt default) (.search (.str "proj:qa".toList))]

/-- The query that was typed is never searched for, and the other one finds a project. -/
theorem run_debounced_typing :
    trace .double unasked
        (.call (oneProjectAt default) (.type (.str "proj:b".toList)) :: quickDeeds) =
      trace .double (unasked.aim (.str "proj:b".toList)) quickDeeds ∧
    (trace .double (unasked.aim (.str "proj:b".toList)) quickDeeds).1.results.total = 1 := by
  have hall : IsDebounced .double unasked := run_debounced .double (s := unasked) (Nat.zero_le 1) []
  have hsearch : Schedules .double unasked (.str "proj:b".toList) 300 := ⟨rfl, delay_unasked⟩
  have hwithin : IsWithin 300 [.pass (oneProjectAt default) 100] :=
    isWithin_of_span (by decide +kernel) (by decide +kernel)
  exact ⟨hall.superseded hsearch (isQuiet_pass _ _) hwithin rfl [], by decide +kernel⟩

/-- Noon on the last day of the calendar. -/
def lastNoon : Surroundings := oneProjectAt ⟨Moment.count - 43200000000, by decide⟩

/-- A session that shows a project. -/
def foundSession : Session :=
  (run .double unasked [.call lastNoon (.search (.str "proj:qa".toList))]).1

/-- The same session, after something was searched for on a day that the calendar does not have. -/
def lastSession : Session :=
  (run .double foundSession [.call lastNoon (.search (.str "on:tomorrow".toList))]).1

/-- Nothing waits, the query has no answer, and the project is still shown. -/
theorem shows_answer_before :
    lastSession.query = .str "on:tomorrow".toList ∧ lastSession.pending = 0 ∧
      lastSession.results.total = 1 ∧
      ¬ ∃ r, (lastSession.desk.execute .double lastNoon lastSession.query
        lastSession.panel).2 = .ok r := by
  have hnothing : ∀ s : Session, (run .double s
      [.call lastNoon (.search (.str "on:tomorrow".toList))]).1.pending = 0 := fun _ =>
    pending_searchNow _
  have hpending : lastSession.pending = 0 := hnothing foundSession
  have hquiet : IsQuiet .double
      (step .double foundSession (.call lastNoon (.search (.str "on:tomorrow".toList)))).1 [] :=
    trivial
  have hanswers : Answers .double (foundSession.aim (.str "on:tomorrow".toList)) .atOnce [lastNoon]
      lastSession :=
    answers_of_call rfl hquiet (due?_eq_none_iff.mpr hpending)
  have hquery : lastSession.query = .str "on:tomorrow".toList := hanswers.query_eq
  have hverdict : (Desk.refusal .double lastNoon.now "on:tomorrow".toList).toOption.isSome =
    false := by decide +kernel
  refine ⟨hquery, hpending, by decide +kernel, ?_⟩
  rintro ⟨r, hr⟩
  rw [hquery] at hr
  cases h : Desk.refusal .double lastNoon.now "on:tomorrow".toList with
  | ok verdict =>
      rw [h] at hverdict
      cases hverdict
  | error f =>
      dsimp only [Desk.execute, Json.searchable] at hr
      rw [h] at hr
      cases hr

end Worklog.Session
