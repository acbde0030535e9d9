import Worklog.Proofs.Session.Run

/-!
# Delayed searches and what takes their place

A search that was scheduled waits for its time to come. A call in the meantime takes its place, and
then it might as well not have been asked for:

* `Session.pending_run`: at most one search waits at any time;
* `Session.Shadows`: two sessions that are alike but that a search waits in the first; this holds
  as long as the time of the search has not come (`Shadows.over_run`);
* **`Session.Schedules.superseded`**: a search that another call follows in time is never carried
  out;
* **`Session.Schedules.carried`**: a search that no call follows in time is carried out;
* `Session.seen_race`: of searches in the same moment, all but the last are superseded.
-/

namespace Worklog.Session

variable {p : Precision} {s t a b e : Session} {env : Surroundings} {delay : Rat}

/-! ## 1. The searches that wait -/

/-- How many searches wait. -/
def pending (s : Session) : Nat := s.tickets.countP fun t => t.left?.isSome

theorem due?_eq_none_iff : s.due? = none ↔ s.pending = 0 := by
  unfold due? pending
  rw [List.findSome?_eq_none_iff, List.countP_eq_zero]
  refine forall₂_congr fun t _ => ?_
  cases t.left? with
  | none => exact ⟨fun _ => nofun, fun _ => rfl⟩
  | some left => exact ⟨nofun, fun h => absurd rfl h⟩

theorem pending_of_map {f : Ticket → Ticket} (h : ∀ t, (f t).left? = none) (ts : List Ticket) :
    (s.withTickets (ts.map f)).pending = 0 := by
  unfold pending withTickets
  rw [List.countP_map, List.countP_eq_zero]
  intro t _ ht
  rw [Function.comp_apply, h] at ht
  cases ht

theorem pending_map_of_same {f : Ticket → Ticket}
    (h : ∀ t, (f t).left?.isSome = t.left?.isSome) (ts : List Ticket) :
    (s.withTickets (ts.map f)).pending = (s.withTickets ts).pending := by
  unfold pending withTickets
  rw [List.countP_map]
  exact congrArg (List.countP · ts) (funext h)

theorem pending_supersede (s : Session) : s.supersede.pending = 0 :=
  pending_of_map Ticket.left?_supersede s.tickets

theorem pending_perform : (s.perform p env).session.pending = s.pending := by
  unfold pending
  rw [tickets_perform]

/-- A search at once leaves nothing waiting. -/
theorem pending_searchNow (query : Json) : (s.searchNow p env query).session.pending = 0 := by
  have haim : (s.aim query).pending = 0 := pending_supersede s
  unfold searchNow
  dsimp only
  split
  · refine pending_perform.trans (Eq.trans ?_ haim)
    exact pending_map_of_same (s := s.aim query)
      (fun t => congrArg Option.isSome t.left?_settle) (s.aim query).tickets
  · exact haim
  · exact haim

theorem pending_schedule (query : Json) : (s.schedule p query).1.pending ≤ 1 := by
  have haim : (s.aim query).pending = 0 := pending_supersede s
  unfold schedule
  dsimp only
  split
  · split
    · show List.countP _ ((s.aim query).tickets ++ [_]) ≤ 1
      rw [List.countP_append]
      have : List.countP (fun t : Ticket => t.left?.isSome) (s.aim query).tickets = 0 := haim
      rw [this]
      exact Nat.le_refl 1
    · exact haim ▸ Nat.zero_le 1
  · exact haim ▸ Nat.zero_le 1
  · exact haim ▸ Nat.zero_le 1

/-- **A step leaves no more than one search waiting**, unless more were waiting. -/
theorem pending_step (d : Deed) : (step p s d).1.pending ≤ max 1 s.pending := by
  cases d with
  | pass env ms =>
      have hsettle : s.settle.pending = s.pending :=
        pending_map_of_same (fun t => congrArg Option.isSome t.left?_settle) s.tickets
      show (s.elapse p env ms).1.pending ≤ _
      unfold elapse
      dsimp only
      split
      · exact hsettle ▸ Nat.le_max_right 1 _
      · split
        · show ((s.settle.withTickets _).perform p env).session.pending ≤ _
          rw [pending_perform, pending_of_map Ticket.left?_finish]
          exact Nat.zero_le _
        · show (s.settle.withTickets _).pending ≤ _
          rw [pending_map_of_same fun t => by cases t <;> rfl]
          exact hsettle ▸ Nat.le_max_right 1 _
  | call env c =>
      cases c with
      | type q => exact Nat.le_trans (pending_schedule q) (Nat.le_max_left 1 _)
      | search q => exact Nat.le_trans (Nat.le_of_eq (pending_searchNow q)) (Nat.zero_le _)
      | applyPanel f => exact Nat.le_trans (Nat.le_of_eq (pending_searchNow .null)) (Nat.zero_le _)
      | clearPanel => exact Nat.le_trans (Nat.le_of_eq (pending_searchNow .null)) (Nat.zero_le _)
      | clear => exact Nat.le_trans (Nat.le_of_eq (pending_supersede s)) (Nat.zero_le _)
      | restore position =>
          show (s.restore p env position).session.pending ≤ _
          rcases restore_cases p s env position with ⟨u, -, hsearch⟩ | ⟨-, history, f, hrefused⟩
          · rw [hsearch, pending_searchNow]
            exact Nat.zero_le _
          · have hs : s.restore p env position = ⟨{ s with history }, [], .error f⟩ :=
              hrefused s.tickets
            rw [hs]
            exact Nat.le_max_right 1 _

/-- **At most one search waits** throughout a run. -/
theorem pending_run (ds : List Deed) : ∀ {s : Session}, s.pending ≤ 1 →
    (run p s ds).1.pending ≤ 1 := by
  induction ds with
  | nil => exact fun h => h
  | cons d ds ih =>
      exact fun h => ih (Nat.le_trans (pending_step d) (Nat.max_le.mpr ⟨Nat.le_refl 1, h⟩))

/-! ## 2. Time between two calls -/

/-- What surrounds a session when something happens to it. -/
def Deed.surroundings : Deed → Surroundings
  | .call env _ => env
  | .pass env _ => env

/-- The milliseconds that pass. -/
def Deed.ms : Deed → Rat
  | .call _ _ => 0
  | .pass _ ms => ms

/-- The milliseconds that pass during a run. -/
def span : List Deed → Rat
  | [] => 0
  | d :: ds => d.ms + span ds

/-- **Within a delay**: whenever time has passed, it is less than the delay in all. -/
def IsWithin (delay : Rat) (ds : List Deed) : Prop :=
  ∀ done env ms rest, ds = done ++ .pass env ms :: rest → span done + ms < delay

/-- Nothing takes place but time passing: all calls are refused. -/
def IsQuiet (p : Precision) : Session → List Deed → Prop
  | _, [] => True
  | s, d :: ds =>
    (∀ env c, d = .call env c → c.aim? env.now s = none) ∧ IsQuiet p (step p s d).1 ds

theorem IsWithin.tail {d : Deed} {ds : List Deed} (h : IsWithin delay (d :: ds)) :
    IsWithin (delay - d.ms) ds := by
  rintro done env ms rest rfl
  have hall := h (d :: done) env ms rest rfl
  rw [span] at hall
  grind

theorem span_append (ds es : List Deed) : span (ds ++ es) = span ds + span es := by
  induction ds with
  | nil => exact (Rat.zero_add _).symm
  | cons d ds ih => rw [List.cons_append, span, span, ih, Rat.add_assoc]

theorem span_nonneg {ds : List Deed} (h : ∀ d ∈ ds, 0 ≤ d.ms) : 0 ≤ span ds := by
  induction ds with
  | nil => exact Rat.le_refl
  | cons d ds ih =>
      have hd := h d List.mem_cons_self
      have hds := ih fun e he => h e (List.mem_cons_of_mem d he)
      rw [span]
      grind

/-- Time that only goes forward stays within a delay if it does so in all. -/
theorem isWithin_of_span {ds : List Deed} (h : ∀ d ∈ ds, 0 ≤ d.ms) (hspan : span ds < delay) :
    IsWithin delay ds := by
  rintro done env ms rest rfl
  have hrest : 0 ≤ span rest := span_nonneg fun d hd =>
    h d (List.mem_append_right _ (List.mem_cons_of_mem _ hd))
  have hsplit : span (done ++ .pass env ms :: rest) = span done + (ms + span rest) :=
    span_append _ _
  grind

/-- **A session is as another one was**, but for the history and for what was scheduled. -/
structure Keeps (s e : Session) : Prop where
  settings : e.settings = s.settings
  desk : e.desk = s.desk
  query : e.query = s.query
  panel : e.panel = s.panel
  results : e.results = s.results

theorem Keeps.refl (s : Session) : Keeps s s := ⟨rfl, rfl, rfl, rfl, rfl⟩

theorem Keeps.trans (h : Keeps s t) (h' : Keeps t e) : Keeps s e :=
  ⟨h'.settings.trans h.settings, h'.desk.trans h.desk, h'.query.trans h.query,
    h'.panel.trans h.panel, h'.results.trans h.results⟩

/-- A session that agrees with another one but for tickets is that one with tickets. -/
theorem eq_withTickets (h : a.idle = b.idle) : b = a.withTickets b.tickets := by
  show b.idle.withTickets b.tickets = a.idle.withTickets b.tickets
  rw [h]

theorem keeps_of_idle (h : e.idle = s.idle) : Keeps s e := by
  rw [eq_withTickets h.symm]
  exact ⟨rfl, rfl, rfl, rfl, rfl⟩

theorem idle_of_gist (h : e.gist = s) : e.idle = s.idle := h ▸ rfl

theorem keeps_of_gist {ts : List Ticket} (h : e.gist = s.withTickets ts) : Keeps s e := by
  have hidle : e.idle = (s.withTickets ts).idle := idle_of_gist h
  exact keeps_of_idle hidle

theorem due?_of_gist (h : e.gist = s) : e.due? = s.due? := by
  rw [← h, due?_gist]

theorem isQuiet_pass (env : Surroundings) (ms : Rat) : IsQuiet p s [.pass env ms] :=
  ⟨fun _ _ h => (nomatch h), trivial⟩

/-- **Two sessions that are alike but that a search waits in the first.** -/
structure Shadows (left : Rat) (a b : Session) : Prop where
  alike : a.idle = b.idle
  waits : a.due? = some left
  nothing : b.due? = none

/-- Before its time has come, the search that waits makes no difference. -/
theorem Shadows.over_step {left : Rat} (h : Shadows left a b) {d : Deed}
    (hquiet : ∀ env c, d = .call env c → c.aim? env.now a = none)
    (hearly : ∀ env ms, d = .pass env ms → ms < left) :
    Shadows (left - d.ms) (step p a d).1 (step p b d).1 ∧ Keeps b (step p b d).1 ∧
      (step p a d).2 = [] ∧ (step p b d).2 = [] := by
  obtain ⟨halike, hwaits, hnothing⟩ := h
  cases d with
  | pass env ms =>
      have ha : seen (step p a (.pass env ms)) = (a.withTickets [.waiting (left - ms)], []) :=
        seen_pass_early hwaits (hearly env ms rfl)
      have hb : seen (step p b (.pass env ms)) = (b.idle, []) := seen_pass_idle hnothing ms
      have hgist_a : (step p a (.pass env ms)).1.gist = a.withTickets [.waiting (left - ms)] :=
        congrArg Prod.fst ha
      have hgist_b : (step p b (.pass env ms)).1.gist = b.idle := congrArg Prod.fst hb
      exact ⟨⟨(idle_of_gist hgist_a).trans (halike.trans (idle_of_gist hgist_b).symm),
        due?_of_gist hgist_a, due?_of_gist hgist_b⟩, keeps_of_gist hgist_b,
        congrArg Prod.snd ha, congrArg Prod.snd hb⟩
  | call env c =>
      obtain ⟨history, hstep⟩ := step_refused (p := p) (hquiet env c rfl)
      have ha : step p a (.call env c) = ({ a with history }, []) := hstep a.tickets
      have hb : step p b (.call env c) = ({ b with history }, []) := by
        rw [eq_withTickets halike]
        exact hstep b.tickets
      rw [ha, hb]
      refine ⟨⟨?_, ?_, hnothing⟩, ⟨rfl, rfl, rfl, rfl, rfl⟩, rfl, rfl⟩
      · show ({ a.idle with history } : Session) = { b.idle with history }
        rw [halike]
      · show a.due? = some (left - 0)
        rw [hwaits]
        exact congrArg some (by grind)

/-- **Within its delay, a search that waits makes no difference.** -/
theorem Shadows.over_run (ds : List Deed) : ∀ {left : Rat} {a b : Session}, Shadows left a b →
    IsQuiet p a ds → IsWithin left ds →
    Shadows (left - span ds) (run p a ds).1 (run p b ds).1 ∧ Keeps b (run p b ds).1 ∧
      (run p a ds).2 = [] ∧ (run p b ds).2 = [] := by
  induction ds with
  | nil =>
      intro left a b h _ _
      have hspan : left - span [] = left := by
        show left - 0 = left
        grind
      exact ⟨hspan.symm ▸ h, .refl b, rfl, rfl⟩
  | cons d ds ih =>
      intro left a b h hquiet hwithin
      have hearly : ∀ env ms, d = .pass env ms → ms < left := by
        rintro env ms rfl
        have := hwithin [] env ms ds rfl
        have hspan : span [] = 0 := rfl
        grind
      obtain ⟨hstep, hkeeps, hsilent_a, hsilent_b⟩ := h.over_step (p := p) hquiet.1 hearly
      obtain ⟨hrun, hkeeps', hsilent_a', hsilent_b'⟩ := ih hstep hquiet.2 hwithin.tail
      have hspan : left - span (d :: ds) = left - d.ms - span ds := by
        rw [span]
        grind
      refine ⟨hspan ▸ hrun, hkeeps.trans hkeeps', ?_, ?_⟩
      · show (step p a d).2 ++ (run p (step p a d).1 ds).2 = []
        rw [hsilent_a, hsilent_a']
        rfl
      · show (step p b d).2 ++ (run p (step p b d).1 ds).2 = []
        rw [hsilent_b, hsilent_b']
        rfl

/-! ## 3. A search whose place is taken, and one whose time comes -/

/-- A run in which nothing was published goes on from the session it left. -/
theorem trace_of_silent {ds : List Deed} (h : (run p s ds).2 = []) (es : List Deed) :
    trace p s (ds ++ es) = trace p (run p s ds).1 es := by
  rw [trace_append]
  unfold goOn trace seen
  dsimp only
  rw [h, List.nil_append]
  exact trace_gist es (run p s ds).1

theorem trace_call {c : Call} (h : c.aim? env.now s = some t) (after : List Deed) :
    trace p s (.call env c :: after) = goOn p (launch p env t.idle c.manner) after := by
  rw [trace_cons, seen_call h]

/-- What a call comes to does not depend on what was scheduled. -/
theorem trace_call_congr (h : a.idle = b.idle) {c : Call} (hc : c.aim? env.now a = some t)
    (after : List Deed) : trace p a (.call env c :: after) = trace p b (.call env c :: after) := by
  have haims : (c.aim? env.now b).map idle = (c.aim? env.now a).map idle := by
    rw [eq_withTickets h]
    exact aim?_withTickets env.now b.tickets c
  rw [hc] at haims
  obtain ⟨t', haim', hidle⟩ := Option.map_eq_some_iff.mp haims
  rw [trace_call hc, trace_call haim', hidle]

/-- A delayed search is asked for, and there is something to search for. -/
structure Schedules (p : Precision) (s : Session) (query : Json) (delay : Rat) : Prop where
  criteria : (s.aim query).hasCriteria = .ok true
  delay_eq : s.delay p = .ok delay

variable {query : Json} {env' : Surroundings} {mid : List Deed}

/-- A search that was scheduled waits; otherwise only its query was taken over. -/
theorem Schedules.shadows (h : Schedules p s query delay) :
    Shadows delay (step p s (.call env (.type query))).1 (s.aim query) := by
  have hseen : seen (step p s (.call env (.type query))) =
      ((s.aim query).idle.withTickets [.waiting delay], []) := by
    rw [seen_call (t := s.aim query) rfl]
    exact launch_delayed h.criteria h.delay_eq
  refine ⟨?_, ?_, due?_aim s query⟩
  · show (seen (step p s (.call env (.type query)))).1.idle = _
    rw [hseen]
    rfl
  · rw [← due?_gist]
    exact congrArg (fun a => a.1.due?) hseen

/-- Within its delay, a search that was scheduled makes no difference. -/
theorem Schedules.shadows_run (h : Schedules p s query delay)
    (hquiet : IsQuiet p (step p s (.call env (.type query))).1 mid)
    (hwithin : IsWithin delay mid) :
    Shadows (delay - span mid) (run p s (.call env (.type query) :: mid)).1
        (run p (s.aim query) mid).1 ∧
      Keeps (s.aim query) (run p (s.aim query) mid).1 ∧
      (run p s (.call env (.type query) :: mid)).2 = [] ∧ (run p (s.aim query) mid).2 = [] :=
  h.shadows.over_run mid hquiet hwithin

/-- **A search whose place is taken in time is never carried out**: the run comes to what it comes
    to without it, but that its query was taken over. -/
theorem Schedules.superseded (h : Schedules p s query delay)
    (hquiet : IsQuiet p (step p s (.call env (.type query))).1 mid)
    (hwithin : IsWithin delay mid) {c : Call}
    (hc : c.aim? env'.now (run p s (.call env (.type query) :: mid)).1 = some t)
    (after : List Deed) :
    trace p s (.call env (.type query) :: mid ++ .call env' c :: after) =
      trace p (s.aim query) (mid ++ .call env' c :: after) := by
  obtain ⟨⟨halike, -, -⟩, -, hsilent, hsilent'⟩ := h.shadows_run hquiet hwithin
  rw [trace_of_silent hsilent, trace_of_silent hsilent', trace_call_congr halike hc]

/-- **A search whose time comes is carried out**, with the query and the panel in force, and
    nothing waits any more. -/
theorem Schedules.carried (h : Schedules p s query delay)
    (hquiet : IsQuiet p (step p s (.call env (.type query))).1 mid)
    (hwithin : IsWithin delay mid) {ms : Rat} (hms : delay ≤ span mid + ms) (after : List Deed) :
    trace p s (.call env (.type query) :: mid ++ .pass env' ms :: after) =
      goOn p ((run p (s.aim query) mid).1.idle.perform p env').effect after := by
  obtain ⟨⟨halike, hwaits, -⟩, -, hsilent, -⟩ := h.shadows_run hquiet hwithin
  have hdue : delay - span mid ≤ ms := by grind
  rw [trace_of_silent hsilent, trace_cons, seen_pass_due hwaits hdue, halike]

/-- A search at once is carried out, and nothing waits any more. -/
theorem carried_atOnce {c : Call} (hc : c.aim? env.now s = some t) (hmanner : c.manner = .atOnce)
    (hcriteria : t.hasCriteria = .ok true) (after : List Deed) :
    trace p s (.call env c :: after) = goOn p (t.idle.perform p env).effect after := by
  rw [trace_call hc, hmanner, launch_atOnce (t := t.idle) hcriteria]

/-! ## 4. Searches in the same moment -/

/-- A search that another one overtakes at once leaves what a delayed search leaves, but that it
    does not wait. -/
theorem overtaken_eq : (launch p env (s.aim query).idle .delayed).1.idle =
    (s.overtaken query).1.idle ∧ (launch p env (s.aim query).idle .delayed).2 = [] := by
  unfold overtaken
  dsimp only
  cases h : (s.aim query).hasCriteria with
  | error f =>
      rw [launch_error (t := (s.aim query).idle) (m := .delayed) nofun h]
      exact ⟨rfl, rfl⟩
  | ok b =>
      cases b with
      | false =>
          rw [launch_nothing (t := (s.aim query).idle) (Or.inr h)]
          exact ⟨rfl, rfl⟩
      | true =>
          cases hdelay : (s.aim query).delay p with
          | ok ms =>
              rw [launch_delayed (t := (s.aim query).idle) h hdelay]
              exact ⟨rfl, rfl⟩
          | error f =>
              rw [launch_tooLong (t := (s.aim query).idle) h hdelay]
              exact ⟨rfl, rfl⟩

theorem race_cons (query : Json) {queries : List Json} (h : queries ≠ []) :
    (s.race p env (query :: queries)).effect =
      ((s.overtaken query).1.race p env queries).effect := by
  cases queries with
  | nil => exact absurd rfl h
  | cons q qs => rfl

/-- The deeds of searches of which all but the last are delayed. -/
def typed (env : Surroundings) (queries : List Json) (last : Json) : List Deed :=
  queries.map (fun q => .call env (.type q)) ++ [.call env (.search last)]

theorem trace_typed_idle (s : Session) (queries : List Json) (last : Json) :
    trace p s.idle (typed env queries last) = trace p s (typed env queries last) := by
  cases queries with
  | nil =>
      exact trace_call_congr (a := s.idle) (b := s) (t := s.idle.aim last) (c := .search last)
        rfl rfl []
  | cons q qs =>
      exact trace_call_congr (a := s.idle) (b := s) (t := s.idle.aim q) (c := .type q) rfl rfl _

/-- **Searches in the same moment** come to what delayed searches come to that others follow in
    time: only the last one is carried out. -/
theorem seen_race (env : Surroundings) (queries : List Json) (last : Json) : ∀ s : Session,
    seen (s.race p env (queries ++ [last])).effect = trace p s (typed env queries last) := by
  induction queries with
  | nil =>
      intro s
      have hsettle : (s.searchNow p env last).session.settle.gist =
        (s.searchNow p env last).session.gist := gist_withTickets (due?_settle _)
      have hnotices : (run p s [.call env (.search last)]).2 = (s.searchNow p env last).notices :=
        List.append_nil _
      show ((s.searchNow p env last).session.settle.gist, (s.searchNow p env last).notices) =
        ((s.searchNow p env last).session.gist, (run p s [.call env (.search last)]).2)
      rw [hsettle, hnotices]
  | cons q queries ih =>
      intro s
      obtain ⟨hidle, hsilent⟩ : (launch p env (s.aim q).idle .delayed).1.idle =
        (s.overtaken q).1.idle ∧ (launch p env (s.aim q).idle .delayed).2 = [] := overtaken_eq
      have hcons : typed env (q :: queries) last =
        .call env (.type q) :: typed env queries last := rfl
      have hne : queries ++ [last] ≠ [] := List.append_ne_nil_of_right_ne_nil _ nofun
      rw [List.cons_append, race_cons q hne, ih, ← trace_typed_idle, ← hidle, trace_typed_idle,
        hcons, trace_call (t := s.aim q) rfl]
      show _ = ((trace p (launch p env (s.aim q).idle .delayed).1 (typed env queries last)).1,
        (launch p env (s.aim q).idle .delayed).2 ++ _)
      rw [hsilent]
      rfl

end Worklog.Session
