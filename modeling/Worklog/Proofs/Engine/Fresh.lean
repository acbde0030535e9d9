import Worklog.Proofs.Engine.Feed
import Worklog.Proofs.Session.Desk

/-!
# Kept results of a running engine

Results may be kept while the index lags behind the store, and then they are wrong from the start.
They do not stay: whatever repairs the index forgets all kept results. The invariant is that the
desk is fresh unless a change of a record still waits.

* `Engine.Deed`: what may happen, searches included, one thing at a time;
* `Site.receive_entries`: the change feed forgets all results with each change;
* `Engine.current_apply`: **each deed keeps the invariant**;
* **`Engine.answer_agrees`**: whenever no change waits, an answer from the cache is what a search
  without a cache comes to.

The wall clock enters the scores, so it has to stand still meanwhile.
-/

namespace Worklog

/-! ## 1. What becomes of kept results -/

namespace Desk

variable {p : Precision} {d d' : Desk} {s : Surroundings}

theorem isFresh_of_nil (h : d.entries = []) : d.IsFresh p s := fun e he => by
  rw [h] at he
  cases he

/-- A desk that keeps no more with the same index stays fresh. -/
theorem IsFresh.of_subset (h : d.IsFresh p s) (hindex : d'.index = d.index)
    (hentries : ∀ e ∈ d'.entries, e ∈ d.entries) : d'.IsFresh p s := fun e he => by
  rw [sources_eq hindex]
  exact h e (hentries e he)

/-- Freshness is a matter of the store and of the wall clock. -/
theorem IsFresh.of_sources (h : d.IsFresh p s) {s' : Surroundings} (hstore : s'.store = s.store)
    (hnow : s'.now = s.now) : d.IsFresh p s' := by
  unfold IsFresh sources at h ⊢
  rw [hstore, hnow]
  exact h

end Desk

namespace Site

/-- The change feed forgets all results with each change; nothing else touches the desk. -/
theorem receive_entries (l : Listener) (e : Event Notice) (w : Site) :
    (receive l e w).world.session.desk.entries = [] ∨
      (receive l e w).world.session.desk = w.session.desk ∧ taken l e = none := by
  cases l with
  | changeFeed =>
      show (w.feed e).world.session.desk.entries = [] ∨ (w.feed e).world.session.desk = _ ∧ _
      unfold feed taken Event.change?
      cases e.data with
      | recordChanged c => exact Or.inl (Session.follow_entries w.session w.env c)
      | foreign topic data =>
          cases data with
          | _ => exact Or.inr ⟨rfl, rfl⟩
      | _ => exact Or.inr ⟨rfl, rfl⟩
  | _ => exact Or.inr ⟨rfl, rfl⟩

end Site

namespace Session

variable {p : Precision} {s : Session} {env : Surroundings}

/-- A fresh desk that was asked for a query stays fresh. -/
theorem Asks.fresh {f : Panel} {d d' : Desk} (hd : Asks p env f d d') (h : d.IsFresh p env)
    (hf : f.IsKeyed) : d'.IsFresh p env := by
  rcases hd with rfl | ⟨asked, rfl⟩
  · exact h
  · exact h.execute hf asked

/-- Dropping what has expired leaves a fresh desk. -/
theorem fresh_cleanup (h : s.desk.IsFresh p env) : (s.cleanup p env).1.desk.IsFresh p env :=
  h.of_subset rfl fun _ => entries_cleanup

end Session

/-! ## 2. Deeds -/

namespace Engine

/-- **What may happen to an engine that is asked**, one thing at a time. -/
inductive Deed where
  | move (m : Move)
  /-- A query is answered by the desk. -/
  | execute (asked : Json) (f : Panel)
  /-- A query is turned to and searched for by the session. -/
  | search (query : Json) (f : Panel)
  /-- Milliseconds pass for the search that waits. -/
  | elapse (ms : Rat)
  /-- Expired results are dropped. -/
  | cleanup

namespace Deed

/-- The engine after a deed. -/
def apply (p : Precision) (e : Engine) : Deed → Engine
  | move m => m.apply e
  | execute asked f =>
    e.withSession { e.session with desk := (e.session.desk.execute p e.env asked f).1 }
  | search query f => (e.act fun s env => { s with panel := f }.searchNow p env query).1
  | elapse ms => e.elapse p ms
  | cleanup => e.withSession (e.session.cleanup p e.env).1

/-- The wall clock stands still, the store stays available, and what is selected on a panel can be
    a member of a set. -/
def IsAllowed (e : Engine) : Deed → Prop
  | move (.wait available now _ _) => available = e.env.store.available ∧ now = e.env.now
  | move _ => True
  | execute _ f | search _ f => f.IsKeyed
  | elapse _ => e.session.panel.IsKeyed
  | cleanup => True

end Deed

/-- The engine after some deeds. -/
def afterDeeds (p : Precision) (e : Engine) (deeds : List Deed) : Engine :=
  deeds.foldl (Deed.apply p) e

/-- All of some deeds are allowed when their turn comes. -/
def AllowsDeeds (p : Precision) (e : Engine) : List Deed → Prop
  | [] => True
  | d :: deeds => d.IsAllowed e ∧ (d.apply p e).AllowsDeeds p deeds

/-- **Kept results still hold unless a change waits.** -/
structure IsCurrent (p : Precision) (e : Engine) : Prop where
  notices : ∀ ev ∈ e.bus.queue, ∃ n : Notice, ev = n.event
  fresh : (∀ ev ∈ e.bus.queue, ev.change? = none) → e.session.desk.IsFresh p e.env

variable {p : Precision} {e : Engine}

/-! ## 3. Every deed keeps the invariant -/

/-- Publishing makes no difference: what waited before still waits. -/
theorem IsCurrent.publish (h : e.IsCurrent p) (ns : List Notice) : (e.publish ns).IsCurrent p := by
  obtain ⟨hstay, hnew⟩ := Bus.mem_queue_emitAll (ns.map Notice.event) (b := e.bus)
  refine ⟨fun ev hev => ?_, fun hquiet => h.fresh fun ev hev => hquiet ev (hstay ev hev)⟩
  rcases hnew ev hev with hev | hev
  · exact h.notices ev hev
  · obtain ⟨n, -, rfl⟩ := List.mem_map.mp hev
    exact ⟨n, rfl⟩

theorem IsCurrent.withSession (h : e.IsCurrent p) {s : Session}
    (hs : e.session.desk.IsFresh p e.env → s.desk.IsFresh p e.env) :
    (e.withSession s).IsCurrent p := ⟨h.notices, fun hquiet => hs (h.fresh hquiet)⟩

/-- After a write a change waits, if it is not dropped. -/
theorem current_announce (hfed : e.IsFed) (h : e.IsCurrent p) {store : Store} {c : Change}
    (hd : ((e.withStore store).announce c).bus.counts.dropped = e.bus.counts.dropped) :
    ((e.withStore store).announce c).IsCurrent p := by
  have hannounce : (e.withStore store).announce c =
      (e.withStore store).publish [.recordChanged c] := if_pos hfed.linked
  rw [hannounce] at hd ⊢
  have hqueue : ((e.withStore store).publish [.recordChanged c]).bus.queue =
      e.bus.queue ++ [(Notice.recordChanged c).event] :=
    Bus.queue_emitAll [(Notice.recordChanged c).event] hd
  refine ⟨fun ev hev => ?_, fun hquiet => ?_⟩
  · rw [hqueue] at hev
    rcases List.mem_append.mp hev with hev | hev
    · exact h.notices ev hev
    · exact ⟨_, List.mem_singleton.mp hev⟩
  · rw [hqueue] at hquiet
    have hwaits := hquiet _ (List.mem_append_right _ (List.mem_singleton_self _))
    cases hwaits

/-- A listener leaves a fresh desk fresh, and the change feed makes it so with each change. -/
theorem fresh_give {env : Surroundings} {ev : Event Notice} {l : Listener}
    {s : Site × Bus Listener Notice}
    (h : s.1.session.desk.IsFresh p env ∨ (Site.taken l ev).isSome = true) :
    (Bus.give Site.audience ev s l).1.session.desk.IsFresh p env := by
  show (Site.receive l ev s.1).world.session.desk.IsFresh p env
  rcases Site.receive_entries l ev s.1 with hnil | ⟨hdesk, hnone⟩
  · exact Desk.isFresh_of_nil hnil
  · rw [hdesk]
    rw [hnone] at h
    exact h.resolve_right Bool.false_ne_true

/-- While an event is handed out, surroundings stay as they are and the queue only grows. -/
structure Growing (env : Surroundings) (rest : List (Event Notice))
    (s : Site × Bus Listener Notice) : Prop where
  env_eq : s.1.env = env
  stay : ∀ ev ∈ rest, ev ∈ s.2.queue
  notices : ∀ ev ∈ s.2.queue, ∃ n : Notice, ev = n.event

theorem growing_give {env : Surroundings} {rest : List (Event Notice)} (ev : Event Notice)
    {s : Site × Bus Listener Notice} (h : Growing env rest s) (l : Listener) :
    Growing env rest (Bus.give Site.audience ev s l) := by
  obtain ⟨henv, -, hquiet⟩ := Site.receive_spec l ev s.1
  obtain ⟨hstay, hnew⟩ := Bus.mem_queue_emitAll (Site.receive l ev s.1).emitted (b := s.2)
  refine ⟨henv.trans h.env_eq, fun ev' hev => hstay ev' (h.stay ev' hev), fun ev' hev => ?_⟩
  rcases hnew ev' hev with hev | hev
  · exact h.notices ev' hev
  · exact (hquiet ev' hev).2

/-- **A step of the bus keeps the invariant.** -/
theorem current_dispatch (hfed : e.IsFed) (h : e.IsCurrent p) :
    (Move.dispatch.apply e).IsCurrent p := by
  cases hq : e.bus.queue with
  | nil =>
      have hstep := Bus.step_nil (a := Site.audience) (w := e.site) hq
      have happly : Move.dispatch.apply e = e := by
        unfold Move.apply
        rw [hstep]
      rw [happly]
      exact h
  | cons ev rest =>
      have hmem : ∀ ev' ∈ rest, ev' ∈ e.bus.queue := fun ev' hev =>
        hq ▸ List.mem_cons_of_mem ev hev
      obtain ⟨n, rfl⟩ := h.notices ev (hq ▸ List.mem_cons_self)
      have hstep := Bus.step_eq Site.attends_audience (w := e.site) hq
        (e.bus.clashes_some n.topic)
      have hstart : Growing e.env rest (e.site, { e.bus with queue := rest }) :=
        ⟨rfl, fun _ hev => hev, fun ev' hev => h.notices ev' (hmem ev' hev)⟩
      have hend := Bus.foldl_give (P := Growing e.env rest)
        (fun _ l hs => growing_give n.event hs l)
        (Bus.inTurn Site.audience e.site (e.bus.listeners n.topic)) hstart
      unfold Move.apply
      rw [hstep]
      refine ⟨hend.notices, fun hquiet => ?_⟩
      have hfresh : ((Bus.inTurn Site.audience e.site (e.bus.listeners n.topic)).foldl
          (Bus.give Site.audience n.event)
          (e.site, { e.bus with queue := rest })).1.session.desk.IsFresh p e.env := by
        have hkeeps : ∀ (s : Site × Bus Listener Notice) (l : Listener),
            s.1.session.desk.IsFresh p e.env →
            (Bus.give Site.audience n.event s l).1.session.desk.IsFresh p e.env := fun _ _ hs =>
          fresh_give (Or.inl hs)
        cases hc : n.event.change? with
        | none =>
            have hbefore : ∀ ev' ∈ e.bus.queue, ev'.change? = none := by
              rw [hq]
              intro ev' hev
              rcases List.mem_cons.mp hev with rfl | hev
              · exact hc
              · exact hquiet ev' (hend.stay ev' hev)
            exact Bus.foldl_give hkeeps _ (h.fresh hbefore)
        | some c =>
            have htaken : (Site.taken .changeFeed n.event).isSome = true := by
              show n.event.change?.isSome = true
              rw [hc]
              rfl
            exact Bus.foldl_give_of_mem (P := fun _ => True) (fun _ _ _ => trivial)
              (fun s l _ => hkeeps s l) (fun _ _ => fresh_give (Or.inr htaken))
              (changeFeed_mem hfed hc) trivial
      rw [← hend.env_eq] at hfresh
      exact hfresh

/-- A rebuilt index leaves nothing that could be out of date. -/
theorem current_rebuild (h : ∀ ev ∈ e.bus.queue, ∃ n : Notice, ev = n.event)
    (hfresh : (e.session.rebuild e.env).answer = .ok true ∨ e.IsCurrent p) :
    (Move.rebuild.apply e).IsCurrent p := by
  have hrebuilt : (e.withSession (e.session.rebuild e.env).session).IsCurrent p := by
    refine ⟨h, fun hquiet => ?_⟩
    rcases e.session.rebuild_entries e.env with hnil | ⟨hfailed, hindex, hentries⟩
    · exact Desk.isFresh_of_nil hnil
    · have hbefore := (hfresh.resolve_left hfailed).fresh hquiet
      exact hbefore.of_subset hindex fun ev hev => hentries ▸ hev
  exact hrebuilt.publish _

/-- Each move keeps the invariant, if no event is dropped. -/
theorem current_move (hfed : e.IsFed) (h : e.IsCurrent p) {m : Move}
    (hm : Deed.IsAllowed e (.move m))
    (hd : (m.apply e).bus.counts.dropped = e.bus.counts.dropped) : (m.apply e).IsCurrent p := by
  cases m with
  | upsert r =>
      rw [upsert_eq] at hd ⊢
      exact current_announce hfed h hd
  | delete kind id =>
      rw [delete_eq] at hd ⊢
      split at hd
      next hholds =>
        rw [if_pos hholds]
        exact current_announce hfed h hd
      next hholds =>
        rw [if_neg hholds]
        exact h
  | rebuild => exact current_rebuild h.notices (Or.inr h)
  | dispatch => exact current_dispatch hfed h
  | wait available now clock elapsed =>
      obtain ⟨rfl, rfl⟩ := hm
      exact ⟨h.notices, fun hquiet => (h.fresh hquiet).of_sources rfl rfl⟩

/-- **Each deed keeps the invariant**, if no event is dropped. -/
theorem current_apply (hfed : e.IsFed) (h : e.IsCurrent p) {d : Deed} (hallowed : d.IsAllowed e)
    (hd : (d.apply p e).bus.counts.dropped = e.bus.counts.dropped) :
    (d.apply p e).IsCurrent p := by
  cases d with
  | move m => exact current_move hfed h hallowed hd
  | execute asked f => exact h.withSession fun hs => hs.execute hallowed asked
  | search query f =>
      have hsearched : (e.withSession
          ({ e.session with panel := f }.searchNow p e.env query).session).IsCurrent p :=
        h.withSession fun hs =>
          (Session.asks_searchNow { e.session with panel := f } query).fresh hs hallowed
      exact hsearched.publish _
  | elapse ms =>
      have hsearched : (e.withSession (e.session.elapse p e.env ms).1).IsCurrent p :=
        h.withSession fun hs => (Session.asks_elapse e.session ms).fresh hs hallowed
      exact hsearched.publish _
  | cleanup => exact h.withSession fun hs => Session.fresh_cleanup hs

/-! ## 4. Runs -/

/-- No deed changes who listens, or forgets what was dropped. -/
theorem grows_deed (p : Precision) (e : Engine) (d : Deed) :
    Grows e.bus (d.apply p e).bus ∧ (d.apply p e).linked = e.linked := by
  cases d with
  | move m => exact grows_apply e m
  | execute asked f => exact ⟨⟨rfl, Nat.le_refl _⟩, rfl⟩
  | search query f => exact ⟨.emitAll _ _, rfl⟩
  | elapse ms => exact ⟨.emitAll _ _, rfl⟩
  | cleanup => exact ⟨⟨rfl, Nat.le_refl _⟩, rfl⟩

theorem dropped_le_afterDeeds (p : Precision) : ∀ (deeds : List Deed) (e : Engine),
    e.bus.counts.dropped ≤ (e.afterDeeds p deeds).bus.counts.dropped
  | [], _ => Nat.le_refl _
  | d :: deeds, e => Nat.le_trans (grows_deed p e d).1.dropped
      (dropped_le_afterDeeds p deeds (d.apply p e))

/-- **A run keeps the invariant**, if no event is dropped. -/
theorem current_after : ∀ (deeds : List Deed) {e : Engine}, e.IsFed → e.IsCurrent p →
    e.AllowsDeeds p deeds →
    (e.afterDeeds p deeds).bus.counts.dropped = e.bus.counts.dropped →
    (e.afterDeeds p deeds).IsCurrent p
  | [], _, _, h, _, _ => h
  | d :: deeds, e, hfed, h, hall, hd => by
      obtain ⟨hgrows, hlinked⟩ := grows_deed p e d
      have hrest : (d.apply p e).bus.counts.dropped ≤
          (e.afterDeeds p (d :: deeds)).bus.counts.dropped :=
        dropped_le_afterDeeds p deeds (d.apply p e)
      have hfirst := hgrows.dropped
      have hstep : (d.apply p e).bus.counts.dropped = e.bus.counts.dropped := by omega
      have hstays : (d.apply p e).IsFed :=
        ⟨hlinked.trans hfed.linked, hgrows.subscribers ▸ hfed.listens⟩
      exact current_after deeds hstays (current_apply hfed h hall.1 hstep) hall.2
        (hd.trans hstep.symm)

/-- **No answer is out of date.** Start with a rebuilt index and an empty queue, and let the store
    be written, the index be rebuilt, the bus hand out its events, queries be answered and results
    expire, in any order, while no event is dropped and the wall clock stands still. Whenever no
    change of a record waits in the queue, the desk answers what it would answer without a cache,
    whether the answer comes from the cache or not. -/
theorem answer_agrees (p : Precision) {start e : Engine} (hfed : start.IsFed)
    (hidle : start.bus.queue = []) (hrebuilt : start.act Session.rebuild = (e, .ok true))
    (deeds : List Deed) (hdeeds : e.AllowsDeeds p deeds)
    (hdropped : (e.afterDeeds p deeds).bus.counts.dropped = start.bus.counts.dropped)
    (hquiet : ∀ ev ∈ (e.afterDeeds p deeds).bus.queue, ev.change? = none)
    {asked : Json} {f : Panel} (hf : f.IsKeyed) {r : Results}
    (hr : ((e.afterDeeds p deeds).session.desk.execute p (e.afterDeeds p deeds).env asked f).2 =
      .ok r) :
    ({ (e.afterDeeds p deeds).session.desk with cache := none }.execute p
      (e.afterDeeds p deeds).env asked f).2 = .ok { r with fromCache := false } := by
  obtain rfl : Move.rebuild.apply start = e := congrArg Prod.fst hrebuilt
  have hanswer : (start.session.rebuild start.env).answer = .ok true :=
    congrArg Prod.snd hrebuilt
  have hstart : (Move.rebuild.apply start).IsCurrent p :=
    current_rebuild (fun ev hev => absurd (hidle ▸ hev) List.not_mem_nil) (Or.inl hanswer)
  have hfirst : start.bus.counts.dropped ≤ (Move.rebuild.apply start).bus.counts.dropped :=
    (grows_apply start .rebuild).1.dropped
  have hrest := dropped_le_afterDeeds p deeds (Move.rebuild.apply start)
  have hsame : ((Move.rebuild.apply start).afterDeeds p deeds).bus.counts.dropped =
      (Move.rebuild.apply start).bus.counts.dropped := by omega
  have hend := current_after deeds (hfed.apply .rebuild) hstart hdeeds hsame
  exact (hend.fresh hquiet).execute_of_ok hf hr

/-- A project is asked for before its insertion has reached the index, and again afterwards. -/
def lateDeeds : List Deed :=
  [.move (.upsert (.project ⟨"p1".toList, .str "QA".toList, .null⟩)),
   .execute (.str "qa".toList) .blank, .move .dispatch, .move .dispatch,
   .execute (.str "qa".toList) .blank]

/-- A small engine after this. -/
def late : Engine :=
  (bare.publish [.indexRebuilt (Session.newIndex {} default).size]).afterDeeds .double lateDeeds

/-- The cache gives what was found afterwards. -/
theorem answer_agrees_late : ∃ r,
    (late.session.desk.execute .double late.env (.str "qa".toList) .blank).2 = .ok r ∧
      (r.fromCache, r.total) = (true, 1) ∧
      ({ late.session.desk with cache := none }.execute .double late.env (.str "qa".toList)
        .blank).2 = .ok { r with fromCache := false } := by
  have hview : ((late.session.desk.execute .double late.env (.str "qa".toList) .blank).2.map
      fun r => (r.fromCache, r.total)).toOption = some (true, 1) := by decide +kernel
  have hdeeds : (bare.publish [.indexRebuilt (Session.newIndex {} default).size]).AllowsDeeds
      .double lateDeeds :=
    ⟨trivial, Panel.isKeyed_blank, trivial, trivial, Panel.isKeyed_blank, trivial⟩
  cases hr : (late.session.desk.execute .double late.env (.str "qa".toList) .blank).2 with
  | error f =>
      rw [hr] at hview
      cases hview
  | ok r =>
      rw [hr] at hview
      have hhit : (r.fromCache, r.total) = (true, 1) := Option.some.inj hview
      exact ⟨r, rfl, hhit, answer_agrees .double isFed_bare rfl act_rebuild_bare lateDeeds hdeeds
        (by decide +kernel) (by decide +kernel) Panel.isKeyed_blank hr⟩

end Engine

end Worklog
