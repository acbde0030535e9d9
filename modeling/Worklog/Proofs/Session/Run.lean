import Worklog.Session.Schedule

/-!
# Runs of a session

A session is called again and again, and time passes between the calls. What a run comes to is a
matter of the session it starts from; which searches were scheduled long ago is not. All that counts
of them is the one that still waits:

* `Session.Call`, `Session.Deed`, `Session.run`: calls, passing time, and runs of both;
* `Session.gist`: a session without the searches that no longer wait;
* `Session.seen_pass_idle`, `seen_pass_early`, `seen_pass_due`: all that passing time can do;
* `Session.seen_call`, `step_refused`: all that a call can do, depending on what it aims at;
* **`Session.trace_gist`**: what a run comes to depends on the gist of a session.
-/

namespace Worklog

/-- A store, and clocks that stand still. -/
def Surroundings.still (store : Store) : Surroundings := ⟨store, default, .finite 0, .whole 0⟩

/-- What a call leaves and publishes, without its answer. -/
def Reply.effect {α : Type} (r : Reply α) : Session × List Notice := (r.session, r.notices)

namespace Session

/-! ## 1. Calls and runs -/

/-- **What may be asked of a session.** -/
inductive Call where
  /-- A search for a query that is being typed. -/
  | type (query : Json)
  /-- A search at once. -/
  | search (query : Json)
  | applyPanel (f : Panel)
  | clearPanel
  /-- Going back to the saved search at a position. -/
  | restore (position : Int)
  | clear

/-- When a call searches. -/
inductive Manner where
  | delayed
  | atOnce
  | never
  deriving DecidableEq

namespace Call

/-- When a call searches. -/
def manner : Call → Manner
  | type _ => .delayed
  | clear => .never
  | _ => .atOnce

/-- **The session at which a call aims**: the call has put its query and panel in force, and
    nothing waits. Going back to a saved search that is not there, or whose use cannot be written
    to the state file, aims at none: that call does not take place. -/
def aim? (now : Moment) (s : Session) : Call → Option Session
  | type q => some (s.aim q)
  | search q => some (s.aim q)
  | applyPanel f => some ({ s with panel := f }.aim .null)
  | clearPanel => some ({ s with panel := .blank }.aim .null)
  | restore position =>
    match s.history.touch now position with
    | .error _ => none
    | .ok (history, saved) =>
      match history.objection with
      | some _ => none
      | none => some ({ s with history, query := saved.query, panel := saved.panel }.aim .null)
  | clear => some (s.aim (.str []))

/-- What a call leaves and publishes. -/
def apply (p : Precision) (env : Surroundings) (s : Session) : Call → Session × List Notice
  | type q => ((s.schedule p q).1, [])
  | search q => (s.searchNow p env q).effect
  | applyPanel f => (s.applyPanel p env f).effect
  | clearPanel => (s.clearPanel p env).effect
  | restore position => (s.restore p env position).effect
  | clear => (s.clear, [])

end Call

/-- One thing that happens to a session: a call, or milliseconds that pass. -/
inductive Deed where
  | call (env : Surroundings) (c : Call)
  | pass (env : Surroundings) (ms : Rat)

/-- What one thing that happens leaves and publishes. -/
def step (p : Precision) (s : Session) : Deed → Session × List Notice
  | .call env c => c.apply p env s
  | .pass env ms => s.elapse p env ms

/-- **A run of a session**: the session after it, and all that was published. -/
def run (p : Precision) (s : Session) : List Deed → Session × List Notice
  | [] => (s, [])
  | d :: ds => ((run p (step p s d).1 ds).1, (step p s d).2 ++ (run p (step p s d).1 ds).2)

/-- A new session with the settings unless set otherwise. -/
def plain : Session :=
  ⟨{}, newDesk {} default, .empty 20 .unused, .str [], .blank, .empty, []⟩

theorem start_plain : Session.start {} .unused default = .ok plain := rfl

variable {p : Precision} {s t : Session} {env : Surroundings}

theorem run_append (ds es : List Deed) : ∀ s : Session, run p s (ds ++ es) =
    ((run p (run p s ds).1 es).1, (run p s ds).2 ++ (run p (run p s ds).1 es).2) := by
  induction ds with
  | nil => exact fun _ => rfl
  | cons d ds ih =>
      intro s
      rw [List.cons_append, run, ih, run, List.append_assoc]

/-! ## 2. What counts of a session -/

/-- The session with other tickets. -/
def withTickets (s : Session) (ts : List Ticket) : Session := { s with tickets := ts }

/-- A session in which nothing waits. -/
def idle (s : Session) : Session := s.withTickets []

/-- **What counts of a session**: all of it but the searches that no longer wait. -/
def gist (s : Session) : Session := s.withTickets (s.due?.toList.map .waiting)

@[simp] theorem due?_withTickets (ts : List Ticket) :
    (s.withTickets ts).due? = ts.findSome? Ticket.left? := rfl

theorem due?_supersede (s : Session) : s.supersede.due? = none := by
  unfold due? supersede
  rw [List.findSome?_map, List.findSome?_eq_none_iff]
  exact fun t _ => t.left?_supersede

theorem due?_aim (s : Session) (query : Json) : (s.aim query).due? = none := due?_supersede s

theorem due?_settle (s : Session) : s.settle.due? = s.due? := by
  unfold due? settle
  rw [List.findSome?_map]
  exact congrArg (List.findSome? · s.tickets) (funext Ticket.left?_settle)

theorem due?_finish (ts : List Ticket) : (ts.map Ticket.finish).findSome? Ticket.left? = none := by
  rw [List.findSome?_map, List.findSome?_eq_none_iff]
  exact fun t _ => t.left?_finish

theorem due?_wait (ts : List Ticket) (ms : Rat) : (ts.map (Ticket.wait ms)).findSome? Ticket.left? =
    (ts.findSome? Ticket.left?).map (· - ms) := by
  induction ts with
  | nil => rfl
  | cons t ts ih =>
      cases t with
      | waiting left => rfl
      | _ => exact ih

theorem gist_of_none (h : s.due? = none) : s.gist = s.idle := by
  unfold gist
  rw [h]
  rfl

theorem gist_of_some {left : Rat} (h : s.due? = some left) :
    s.gist = s.withTickets [.waiting left] := by
  unfold gist
  rw [h]
  rfl

@[simp] theorem due?_gist (s : Session) : s.gist.due? = s.due? := by
  cases h : s.due? with
  | none =>
      rw [gist_of_none h]
      rfl
  | some left =>
      rw [gist_of_some h]
      rfl

/-- The gist of a session with other tickets, of which the same search waits. -/
theorem gist_withTickets {ts : List Ticket} (h : ts.findSome? Ticket.left? = s.due?) :
    (s.withTickets ts).gist = s.gist := by
  unfold gist
  rw [due?_withTickets, h]
  rfl

@[simp] theorem gist_gist (s : Session) : s.gist.gist = s.gist := gist_withTickets (due?_gist s)

/-! ## 3. Searches do not look at tickets -/

theorem receive_withTickets (ts : List Ticket) (r : Results) :
    ((s.withTickets ts).receive r).effect =
      ((s.receive r).session.withTickets ts, (s.receive r).notices) := by
  unfold receive withTickets
  cases r.failure with
  | some reason => rfl
  | none =>
      cases hq : s.query with
      | str q =>
          dsimp only [remember]
          cases History.objectionTo _ q with
          | none => rfl
          | some f => rfl
      | _ => rfl

/-- A search comes to the same whatever was scheduled. -/
theorem perform_withTickets (ts : List Ticket) :
    ((s.withTickets ts).perform p env).effect =
      ((s.perform p env).session.withTickets ts, (s.perform p env).notices) := by
  unfold perform
  cases hanswer : s.desk.execute p env s.query s.panel with
  | mk desk answer =>
      have hsame : (s.withTickets ts).desk.execute p env (s.withTickets ts).query
        (s.withTickets ts).panel = (desk, answer) := hanswer
      rw [hsame]
      cases answer with
      | ok r => exact receive_withTickets (s := { s with desk }) ts r
      | error f => rfl

/-- A search leaves all tickets as they are. -/
theorem tickets_perform : (s.perform p env).session.tickets = s.tickets := by
  have heffect : (s.perform p env).effect =
      ((s.perform p env).session.withTickets s.tickets, (s.perform p env).notices) :=
    perform_withTickets s.tickets
  have h : (s.perform p env).session = (s.perform p env).session.withTickets s.tickets :=
    congrArg Prod.fst heffect
  rw [h]
  rfl

theorem due?_perform : (s.perform p env).session.due? = s.due? := by
  unfold due?
  rw [tickets_perform]

/-! ## 4. What is seen of a step -/

/-- What is seen of a step or a run: what counts of the session, and what was published. -/
def seen (a : Session × List Notice) : Session × List Notice := (a.1.gist, a.2)

/-- Where nothing waits, time passes without effect. -/
theorem seen_pass_idle (h : s.due? = none) (ms : Rat) :
    seen (step p s (.pass env ms)) = (s.idle, []) := by
  have hstep : step p s (.pass env ms) = (s.settle, []) := by
    unfold step elapse
    dsimp only
    rw [due?_settle, h]
  rw [hstep, seen, gist_of_none ((due?_settle s).trans h)]
  rfl

/-- Before its time has come, a search only waits. -/
theorem seen_pass_early {left ms : Rat} (h : s.due? = some left) (hms : ms < left) :
    seen (step p s (.pass env ms)) = (s.withTickets [.waiting (left - ms)], []) := by
  have hstep : step p s (.pass env ms) =
      (s.withTickets (s.settle.tickets.map (Ticket.wait ms)), []) := by
    unfold step elapse
    dsimp only
    rw [due?_settle, h]
    dsimp only
    rw [if_neg (Rat.not_le.mpr hms)]
    rfl
  have hdue : (s.settle.tickets.map (Ticket.wait ms)).findSome? Ticket.left? =
      some (left - ms) := by
    rw [due?_wait]
    show s.settle.due?.map _ = _
    rw [due?_settle, h]
    rfl
  rw [hstep, seen, gist_of_some (s := s.withTickets _) hdue]
  rfl

/-- When its time has come, a search is carried out, and nothing waits any more. -/
theorem seen_pass_due {left ms : Rat} (h : s.due? = some left) (hms : left ≤ ms) :
    seen (step p s (.pass env ms)) = (s.idle.perform p env).effect := by
  have hstep : step p s (.pass env ms) =
      ((s.withTickets (s.settle.tickets.map Ticket.finish)).perform p env).effect := by
    unfold step elapse
    dsimp only
    rw [due?_settle, h]
    dsimp only
    rw [if_pos hms]
    rfl
  rw [hstep, idle, perform_withTickets, perform_withTickets, seen,
    gist_of_none (s := (s.perform p env).session.withTickets _) (due?_finish _)]
  rfl

/-- **What a call comes to** that aims at a session, depending on when it searches. -/
def launch (p : Precision) (env : Surroundings) (t : Session) (m : Manner) :
    Session × List Notice :=
  match m, t.hasCriteria with
  | .never, _ => (t.clearResults, [])
  | _, .error _ => (t, [])
  | _, .ok false => (t.clearResults, [])
  | .atOnce, .ok true => (t.perform p env).effect
  | .delayed, .ok true =>
    match t.delay p with
    | .ok ms => (t.withTickets [.waiting ms], [])
    | .error _ => (t, [])

theorem launch_error {m : Manner} {f : Fault} (hm : m ≠ .never)
    (h : t.hasCriteria = .error f) : launch p env t m = (t, []) := by
  unfold launch
  rw [h]
  cases m with
  | never => exact absurd rfl hm
  | _ => rfl

theorem launch_nothing {m : Manner} (h : m = .never ∨ t.hasCriteria = .ok false) :
    launch p env t m = (t.clearResults, []) := by
  unfold launch
  rcases h with rfl | h
  · rfl
  · rw [h]
    cases m with
    | _ => rfl

theorem launch_atOnce (h : t.hasCriteria = .ok true) :
    launch p env t .atOnce = (t.perform p env).effect := by
  unfold launch
  rw [h]

theorem launch_delayed {delay : Rat} (h : t.hasCriteria = .ok true)
    (hdelay : t.delay p = .ok delay) :
    launch p env t .delayed = (t.withTickets [.waiting delay], []) := by
  unfold launch
  rw [h]
  dsimp only
  rw [hdelay]

theorem launch_tooLong {f : Fault} (h : t.hasCriteria = .ok true) (hdelay : t.delay p = .error f) :
    launch p env t .delayed = (t, []) := by
  unfold launch
  rw [h]
  dsimp only
  rw [hdelay]

/-- A search at once where nothing waits. -/
theorem seen_perform (h : s.due? = none) :
    seen (s.perform p env).effect = (s.idle.perform p env).effect := by
  rw [idle, perform_withTickets, seen, Reply.effect, gist_of_none (due?_perform.trans h)]
  rfl

/-- A session in which nothing waits, as it is seen. -/
theorem seen_of_none (h : s.due? = none) (ns : List Notice) : seen (s, ns) = (s.idle, ns) := by
  rw [seen, gist_of_none h]

theorem seen_searchNow (query : Json) :
    seen (s.searchNow p env query).effect = launch p env (s.aim query).idle .atOnce := by
  have hdue : (s.aim query).due? = none := due?_aim s query
  unfold searchNow
  dsimp only
  cases h : (s.aim query).hasCriteria with
  | error f =>
      rw [launch_error (t := (s.aim query).idle) (m := .atOnce) nofun h]
      exact seen_of_none hdue []
  | ok b =>
      cases b with
      | true =>
          rw [launch_atOnce (t := (s.aim query).idle) h]
          exact seen_perform ((due?_settle _).trans hdue)
      | false =>
          rw [launch_nothing (t := (s.aim query).idle) (Or.inr h)]
          exact seen_of_none (s := (s.aim query).clearResults) hdue []

theorem seen_schedule (query : Json) :
    seen ((s.schedule p query).1, []) = launch p env (s.aim query).idle .delayed := by
  have hdue : (s.aim query).due? = none := due?_aim s query
  unfold schedule
  dsimp only
  cases h : (s.aim query).hasCriteria with
  | error f =>
      rw [launch_error (t := (s.aim query).idle) (m := .delayed) nofun h]
      exact seen_of_none hdue []
  | ok b =>
      cases b with
      | true =>
          dsimp only
          cases hdelay : (s.aim query).delay p with
          | error f =>
              rw [launch_tooLong (t := (s.aim query).idle) h hdelay]
              exact seen_of_none hdue []
          | ok ms =>
              have hwaits : ((s.aim query).tickets ++ [Ticket.waiting ms]).findSome? Ticket.left? =
                  some ms := by
                rw [List.findSome?_append]
                show (s.aim query).due?.or _ = _
                rw [hdue]
                rfl
              rw [launch_delayed (t := (s.aim query).idle) h hdelay]
              show (((s.aim query).withTickets _).gist, _) = _
              rw [gist_of_some (s := (s.aim query).withTickets _) hwaits]
              rfl
      | false =>
          rw [launch_nothing (t := (s.aim query).idle) (Or.inr h)]
          exact seen_of_none (s := (s.aim query).clearResults) hdue []

/-- Going back to a saved search is a search at once, or it is refused and can change the history,
    whatever was scheduled. -/
theorem restore_cases (p : Precision) (s : Session) (env : Surroundings) (position : Int) :
    (∃ u : Session, (Call.restore position).aim? env.now s = some (u.aim .null) ∧
      s.restore p env position = u.searchNow p env .null) ∨
    (Call.restore position).aim? env.now s = none ∧ ∃ history f, ∀ ts : List Ticket,
      (s.withTickets ts).restore p env position =
        ⟨{ s.withTickets ts with history }, [], .error f⟩ := by
  have hsame : ∀ ts, (s.withTickets ts).history.touch env.now position =
    s.history.touch env.now position := fun _ => rfl
  dsimp only [Call.aim?]
  unfold restore
  cases htouch : s.history.touch env.now position with
  | error f =>
      refine Or.inr ⟨rfl, s.history, f, fun ts => ?_⟩
      rw [hsame, htouch]
      rfl
  | ok found =>
      obtain ⟨history, saved⟩ := found
      dsimp only
      cases hobjection : history.objection with
      | none => exact Or.inl ⟨_, rfl, rfl⟩
      | some f =>
          refine Or.inr ⟨rfl, history, f, fun ts => ?_⟩
          rw [hsame, htouch]
          dsimp only
          rw [hobjection]

/-- **A call that takes place** comes to what it aims at. -/
theorem seen_call {c : Call} {t : Session} (h : c.aim? env.now s = some t) :
    seen (step p s (.call env c)) = launch p env t.idle c.manner := by
  cases c with
  | type q =>
      cases h
      exact seen_schedule q
  | search q =>
      cases h
      exact seen_searchNow q
  | applyPanel f =>
      cases h
      exact seen_searchNow (s := { s with panel := f }) .null
  | clearPanel =>
      cases h
      exact seen_searchNow (s := { s with panel := .blank }) .null
  | restore position =>
      rcases restore_cases p s env position with ⟨u, haim, hsearch⟩ | ⟨haim, -⟩
      · rw [haim] at h
        cases h
        show seen (s.restore p env position).effect = _
        rw [hsearch]
        exact seen_searchNow .null
      · rw [haim] at h
        cases h
  | clear =>
      cases h
      exact seen_of_none (s := s.clear) (due?_aim s (.str [])) []

/-- **A call that does not take place** can change the history; that is all. What waits goes on
    waiting. -/
theorem step_refused {c : Call} (h : c.aim? env.now s = none) : ∃ history, ∀ ts : List Ticket,
    step p (s.withTickets ts) (.call env c) = ({ s.withTickets ts with history }, []) := by
  cases c with
  | restore position =>
      rcases restore_cases p s env position with ⟨u, haim, -⟩ | ⟨-, history, f, hrefused⟩
      · rw [haim] at h
        cases h
      · exact ⟨history, fun ts => congrArg Reply.effect (hrefused ts)⟩
  | _ => cases h

/-! ## 5. Traces -/

/-- **What is seen of a run**. -/
def trace (p : Precision) (s : Session) (ds : List Deed) : Session × List Notice :=
  seen (run p s ds)

/-- A run that goes on. -/
def goOn (p : Precision) (a : Session × List Notice) (ds : List Deed) : Session × List Notice :=
  ((trace p a.1 ds).1, a.2 ++ (trace p a.1 ds).2)

/-- A call aims at the same whatever was scheduled. -/
theorem aim?_withTickets (now : Moment) (ts : List Ticket) (c : Call) :
    (c.aim? now (s.withTickets ts)).map idle = (c.aim? now s).map idle := by
  cases c with
  | restore position =>
      dsimp only [Call.aim?]
      have hsame : (s.withTickets ts).history.touch now position =
        s.history.touch now position := rfl
      rw [hsame]
      cases s.history.touch now position with
      | error f => rfl
      | ok found =>
          dsimp only
          cases found.1.objection with
          | some f => rfl
          | none => rfl
  | _ => rfl

/-- What is seen of a step is a matter of what counts of the session. -/
theorem seen_step_gist (d : Deed) : seen (step p s.gist d) = seen (step p s d) := by
  cases d with
  | pass env ms =>
      cases hdue : s.due? with
      | none =>
          rw [seen_pass_idle hdue, seen_pass_idle ((due?_gist s).trans hdue)]
          rfl
      | some left =>
          have hgist : s.gist.due? = some left := (due?_gist s).trans hdue
          by_cases hms : left ≤ ms
          · rw [seen_pass_due hdue hms, seen_pass_due hgist hms]
            rfl
          · have hms : ms < left := Rat.not_le.mp hms
            rw [seen_pass_early hdue hms, seen_pass_early hgist hms]
            rfl
  | call env c =>
      have haims : (c.aim? env.now s.gist).map idle = (c.aim? env.now s).map idle :=
        aim?_withTickets env.now _ c
      cases haim : c.aim? env.now s with
      | some t =>
          rw [haim] at haims
          obtain ⟨t', haim', hidle⟩ := Option.map_eq_some_iff.mp haims
          rw [seen_call haim, seen_call haim', hidle]
      | none =>
          obtain ⟨history, hstep⟩ := step_refused (p := p) haim
          have hs : step p s (.call env c) = ({ s with history }, []) := hstep s.tickets
          have hgist : step p s.gist (.call env c) = ({ s.gist with history }, []) := hstep _
          rw [hs, hgist]
          show ((({ s with history } : Session).gist).gist, _) = _
          rw [gist_gist]
          rfl

/-- **What is seen of a run** is a matter of what counts of the session. -/
theorem trace_gist : ∀ (ds : List Deed) (s : Session), trace p s.gist ds = trace p s ds
  | [], s => by
      show (s.gist.gist, _) = _
      rw [gist_gist]
      rfl
  | d :: ds, s => by
      have hcons : ∀ s : Session, trace p s (d :: ds) = goOn p (seen (step p s d)) ds := fun s => by
        show ((trace p (step p s d).1 ds).1, _ ++ (trace p (step p s d).1 ds).2) = _
        rw [← trace_gist ds (step p s d).1]
        rfl
      rw [hcons, hcons, seen_step_gist]

/-- A run is a step after which it goes on. -/
theorem trace_cons (d : Deed) (ds : List Deed) :
    trace p s (d :: ds) = goOn p (seen (step p s d)) ds := by
  show ((trace p (step p s d).1 ds).1, _ ++ (trace p (step p s d).1 ds).2) = _
  rw [← trace_gist ds (step p s d).1]
  rfl

theorem trace_append (ds es : List Deed) :
    trace p s (ds ++ es) = goOn p (trace p s ds) es := by
  show seen (run p s (ds ++ es)) = _
  rw [run_append]
  show ((trace p (run p s ds).1 es).1, _ ++ (trace p (run p s ds).1 es).2) = _
  rw [← trace_gist es (run p s ds).1]
  rfl

end Session

end Worklog
