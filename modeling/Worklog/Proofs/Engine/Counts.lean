import Worklog.Proofs.Bus.Run
import Worklog.Proofs.Engine.Feed
import Worklog.Proofs.Session.Run

/-!
# What an engine counts

Each start of an engine subscribes its change feed and its counters once more, and a stop takes no
subscription back. So an engine that was started twice counts every event twice, and takes every
change of a record over twice:

* `Engine.Act`, `Life`: what may happen to an engine, and what is written down of it;
* `Site.counts_hear`, `Site.index_hear`: what the listeners make of one event, depending on how
  often each of them hears it;
* `Engine.Tells.apply`: **each act keeps the counts in agreement with what was written down**;
* **`Engine.counts_of_starts`**: the counts are those of the events that were handed out, each of
  them as often as the engine had been started. Of an engine that was started once, they are the
  numbers of events.
-/

namespace Worklog

/-! ## 1. Notices of the engine's own -/

namespace Notice

/-- Whether the session or the store published a notice. -/
def IsOwn : Notice → Prop
  | .foreign _ _ => False
  | _ => True

end Notice

/-- Whether an event tells of a notice of the session or of the store. -/
def Event.IsOwn (e : Event Notice) : Prop := ∃ n : Notice, e = n.event ∧ n.IsOwn

/-- Notices of the engine's own are events of its own. -/
theorem Event.isOwn_of_notices {ns : List Notice} (h : ∀ n ∈ ns, n.IsOwn) :
    ∀ e ∈ ns.map Notice.event, e.IsOwn := fun e he => by
  obtain ⟨n, hn, rfl⟩ := List.mem_map.mp he
  exact ⟨n, rfl, h n hn⟩

namespace Session

variable {p : Precision} {env : Surroundings}

theorem isOwn_receive (s : Session) (r : Results) : ∀ n ∈ (s.receive r).notices, n.IsOwn := by
  unfold receive
  dsimp only
  split
  · exact List.forall_mem_singleton.mpr trivial
  · split
    · exact List.forall_mem_singleton.mpr trivial
    · exact List.forall_mem_nil _
  · exact List.forall_mem_nil _

theorem isOwn_perform (s : Session) : ∀ n ∈ (s.perform p env).notices, n.IsOwn := by
  unfold perform
  dsimp only
  split
  · exact isOwn_receive _ _
  · exact List.forall_mem_nil _

theorem isOwn_searchNow (s : Session) (query : Json) :
    ∀ n ∈ (s.searchNow p env query).notices, n.IsOwn := by
  unfold searchNow
  dsimp only
  split
  · exact isOwn_perform _
  · exact List.forall_mem_nil _
  · exact List.forall_mem_nil _

theorem isOwn_elapse (s : Session) (ms : Rat) : ∀ n ∈ (s.elapse p env ms).2, n.IsOwn := by
  unfold elapse
  dsimp only
  split
  · exact List.forall_mem_nil _
  · split
    · exact isOwn_perform _
    · exact List.forall_mem_nil _

theorem isOwn_race : ∀ (queries : List Json) (s : Session),
    ∀ n ∈ (s.race p env queries).notices, n.IsOwn
  | [], _ => List.forall_mem_nil _
  | [q], s => isOwn_searchNow s q
  | q :: q' :: rest, s => isOwn_race (q' :: rest) (s.overtaken q).1

theorem isOwn_rebuild (s : Session) : ∀ n ∈ (s.rebuild env).notices, n.IsOwn := by
  unfold rebuild
  split
  · split
    · exact List.forall_mem_singleton.mpr trivial
    · exact List.forall_mem_nil _
  · exact List.forall_mem_nil _

theorem isOwn_follow (s : Session) (c : Change) : ∀ n ∈ (s.follow env c).notices, n.IsOwn := by
  unfold follow
  dsimp only
  split
  · exact List.forall_mem_singleton.mpr trivial
  · exact List.forall_mem_nil _

/-- **No call of the session publishes for others.** -/
theorem isOwn_call (s : Session) (c : Call) : ∀ n ∈ (c.apply p env s).2, n.IsOwn := by
  cases c with
  | type q => exact List.forall_mem_nil _
  | search q => exact isOwn_searchNow s q
  | applyPanel f => exact isOwn_searchNow _ _
  | clearPanel => exact isOwn_searchNow _ _
  | restore position =>
      rcases restore_cases p s env position with ⟨u, -, hsearch⟩ | ⟨-, history, f, hrefused⟩
      · show ∀ n ∈ (s.restore p env position).notices, n.IsOwn
        rw [hsearch]
        exact isOwn_searchNow u .null
      · show ∀ n ∈ (s.restore p env position).notices, n.IsOwn
        have hsame : s.restore p env position = ⟨{ s with history }, [], .error f⟩ :=
          hrefused s.tickets
        rw [hsame]
        exact List.forall_mem_nil _
  | clear => exact List.forall_mem_nil _

end Session

/-! ## 2. What the listeners make of an event -/

namespace Listener

/-- The pattern to which a start of the engine subscribes a listener. -/
def pattern? : Listener → Option Text
  | .changeFeed => some "record.*".toList
  | .searchCounter => some "search.*".toList
  | .updateCounter => some "index.updated".toList
  | .observer => none

/-- Whether a start of the engine subscribes a listener to a topic. -/
def hears (x : Listener) (topic : Text) : Bool := x.pattern?.any fun t => Topic.isMatch t topic

/-- The three subscriptions of a start give each listener one to its own pattern. -/
theorem hears_of_subscriptions (x : Listener) (topic : Text) :
    (if Topic.isMatch "record.*".toList topic = true ∧ changeFeed = x then 1 else 0) +
      ((if Topic.isMatch "search.*".toList topic = true ∧ searchCounter = x then 1 else 0) +
        if Topic.isMatch "index.updated".toList topic = true ∧ updateCounter = x then 1 else 0) =
      if x.hears topic then 1 else 0 := by
  cases x with
  | _ =>
      simp only [reduceCtorEq, and_false, and_true, if_false, Nat.add_zero, Nat.zero_add]
      rfl

end Listener

/-- A failed search and an answered one are all that the engine publishes about searches. -/
theorem Notice.hears_searchCounter {n : Notice} (h : n.IsOwn) :
    Listener.searchCounter.hears n.topic =
      decide (n.topic = "search.results_changed".toList ∨ n.topic = "search.failed".toList) := by
  cases n with
  | recordChanged c =>
      obtain ⟨kind, id, operation⟩ := c
      cases kind with
      | _ =>
          cases operation with
          | _ => rfl
  | foreign topic data => exact h.elim
  | _ => rfl

theorem Listener.hears_updateCounter (topic : Text) :
    Listener.updateCounter.hears topic = decide (topic = "index.updated".toList) := by
  show (topic == "index.updated".toList) = _
  exact Bool.eq_iff_iff.mpr (by rw [beq_iff_eq, decide_eq_true_iff])

namespace Site

theorem inTurn_audience (w : Site) (ls : List Listener) : Bus.inTurn audience w ls = ls := by
  have hall : ls.filter (fun _ => true) = ls := List.filter_eq_self.mpr fun _ _ => rfl
  have hnone : ls.filter (fun _ => false) = [] := List.filter_eq_nil_iff.mpr fun _ _ => nofun
  show ls.filter (fun _ => true) ++ ls.filter (fun _ => false) = ls
  rw [hall, hnone, List.append_nil]

/-- The change feed counts nothing. -/
theorem counts_feed (w : Site) (e : Event Notice) : (w.feed e).world.counts = w.counts := by
  unfold feed
  cases e.data with
  | foreign topic data =>
      cases data with
      | _ => rfl
  | _ => rfl

/-- What a listener that receives an event counts. -/
theorem counts_receive (l : Listener) (e : Event Notice) (w : Site) :
    (receive l e w).world.counts =
      ⟨w.counts.searches + if e.topic = some "search.failed".toList then 0 else
          if l = .searchCounter then 1 else 0,
        w.counts.failures + if e.topic = some "search.failed".toList then
          if l = .searchCounter then 1 else 0 else 0,
        w.counts.updates + if l = .updateCounter then 1 else 0⟩ := by
  cases l with
  | changeFeed =>
      show (w.feed e).world.counts = _
      rw [counts_feed]
      split
      · rfl
      · rfl
  | searchCounter =>
      unfold receive countSearch
      dsimp only
      split
      · rfl
      · rfl
  | updateCounter =>
      split
      · rfl
      · rfl
  | observer =>
      split
      · rfl
      · rfl

/-- **What the counters make of an event**: each of them counts it as often as it hears it. -/
theorem counts_hear (e : Event Notice) : ∀ (ls : List Listener) (w : Site),
    (Bus.hear audience e ls w).1.counts =
      ⟨w.counts.searches +
          if e.topic = some "search.failed".toList then 0 else ls.count .searchCounter,
        w.counts.failures +
          if e.topic = some "search.failed".toList then ls.count .searchCounter else 0,
        w.counts.updates + ls.count .updateCounter⟩
  | [], w => by
      show w.counts = _
      split
      · rfl
      · rfl
  | l :: ls, w => by
      have hcount : ∀ x, (l :: ls).count x = (if l = x then 1 else 0) + ls.count x := fun x => by
        rw [List.count_cons, Nat.add_comm]
        simp only [beq_iff_eq]
      show (Bus.hear audience e ls (receive l e w).world).1.counts = _
      rw [counts_hear e ls, counts_receive, hcount, hcount]
      dsimp only
      split
      · simp only [Nat.add_assoc, Nat.zero_add]
      · simp only [Nat.add_assoc, Nat.zero_add]

/-- **What the change feed makes of a change**: it takes it over as often as it hears of it. -/
theorem index_hear {e : Event Notice} {c : Change} (hc : e.change? = some c) :
    ∀ (ls : List Listener) (w : Site), (Bus.hear audience e ls w).1.session.desk.index =
      (fun i => (Session.indexAfter i w.env c).1)^[ls.count .changeFeed] w.session.desk.index
  | [], _ => rfl
  | l :: ls, w => by
      obtain ⟨henv, hindex, -⟩ := receive_spec l e w
      have ih := index_hear hc ls (receive l e w).world
      show (Bus.hear audience e ls (receive l e w).world).1.session.desk.index = _
      rw [ih, henv, hindex]
      cases l with
      | changeFeed =>
          have htaken : indexAfter .changeFeed e w =
              (Session.indexAfter w.session.desk.index w.env c).1 := by
            unfold indexAfter taken
            rw [hc]
          rw [htaken, List.count_cons_self, Function.iterate_succ_apply]
      | _ => rfl

/-- Listeners publish notices of the engine's own. -/
theorem isOwn_receive (l : Listener) (e : Event Notice) (w : Site) :
    ∀ e' ∈ (receive l e w).emitted, e'.IsOwn := by
  cases l with
  | changeFeed =>
      show ∀ e' ∈ (w.feed e).emitted, e'.IsOwn
      unfold feed
      cases e.data with
      | recordChanged c => exact Event.isOwn_of_notices (Session.isOwn_follow w.session c)
      | foreign topic data =>
          cases data with
          | _ => exact List.forall_mem_nil _
      | _ => exact List.forall_mem_nil _
  | _ => exact List.forall_mem_nil _

theorem isOwn_published (e : Event Notice) : ∀ (ls : List Listener) (w : Site),
    ∀ e' ∈ Bus.published (Bus.hear audience e ls w).2, e'.IsOwn
  | [], _ => List.forall_mem_nil _
  | l :: ls, w => by
      show ∀ e' ∈ List.flatMap Receipt.emitted (_ :: _), Event.IsOwn e'
      rw [List.flatMap_cons]
      exact List.forall_mem_append.mpr
        ⟨isOwn_receive l e w, isOwn_published e ls (receive l e w).world⟩

end Site

/-! ## 3. What happens to an engine -/

/-- **What is written down of an engine**: how often it was started, and which events were handed
    out, each of them with the number of starts before it. -/
structure Life where
  starts : Nat
  handed : List (Nat × Event Notice)

namespace Life

/-- Nothing has happened. -/
def blank : Life := ⟨0, []⟩

/-- Writes down that the next event is handed out, if one waits. -/
def handOut (l : Life) (queue : List (Event Notice)) : Life :=
  { l with handed := l.handed ++ queue.head?.toList.map (l.starts, ·) }

/-- What was handed out on a topic. -/
def on (l : Life) (topic : String) : List (Nat × Event Notice) :=
  l.handed.filter fun x => decide (x.2.topic = some topic.toList)

/-- **How many events on a topic were handed out.** -/
def number (l : Life) (topic : String) : Nat := (l.on topic).length

/-- **Each event on a topic, as often as the engine had been started** when it was handed out. -/
def total (l : Life) (topic : String) : Nat :=
  ((l.on topic).flatMap fun x => List.replicate x.1 x.2).length

/-- The counts of an engine of which this was written down. -/
def counts (l : Life) : EngineCounts :=
  ⟨l.total "search.results_changed", l.total "search.failed", l.total "index.updated"⟩

theorem total_handOut_cons (l : Life) (e : Event Notice) (rest : List (Event Notice))
    (topic : String) : (l.handOut (e :: rest)).total topic =
      l.total topic + if e.topic = some topic.toList then l.starts else 0 := by
  unfold total on handOut
  rw [List.filter_append, List.flatMap_append, List.length_append]
  refine congrArg (List.length _ + ·) ?_
  by_cases ht : e.topic = some topic.toList
  · simp [ht]
  · simp [ht]

theorem handOut_nil (l : Life) : l.handOut [] = l := by
  unfold handOut
  simp

/-- Of an engine that was started once, every event was handed out behind one start. -/
theorem total_eq_number {l : Life} (h : ∀ x ∈ l.handed, 1 ≤ x.1 ∧ x.1 ≤ l.starts)
    (hone : l.starts ≤ 1) (topic : String) : l.total topic = l.number topic := by
  have hones : ((l.on topic).flatMap fun x => List.replicate x.1 x.2) =
      (l.on topic).flatMap fun x => [x.2] := by
    refine List.flatMap_congr fun x hx => ?_
    obtain ⟨hlow, hhigh⟩ := h x (List.mem_of_mem_filter hx)
    have hx1 : x.1 = 1 := by omega
    rw [hx1]
    rfl
  rw [total, number, hones, ← List.map_eq_flatMap, List.length_map]

end Life

namespace Engine

/-- **What may happen to an engine**: it is started and stopped, asked and written to, and its bus
    hands out an event now and then. -/
inductive Act where
  | start
  | stop
  /-- The engine is stopped while its bus, if it runs, hands the next event out. -/
  | interrupt
  /-- The bus hands the next event out if it runs, and waits for another. -/
  | turn
  | call (c : Session.Call)
  /-- Several searches are asked for in the same moment. -/
  | race (queries : List Json)
  /-- Milliseconds pass for the search that waits. -/
  | elapse (ms : Rat)
  | rebuild
  /-- Something is done with the session of which nothing is published. -/
  | change (f : Session → Session)
  | upsert (r : Record)
  | delete (kind : RecordKind) (id : Text)
  /-- Clocks go on, and something becomes of the store that is not published. -/
  | wait (env : Surroundings)
  /-- An observer subscribes. -/
  | observe (pattern : Text)

/-- An engine after a call of its session whose notices are published. -/
def publishing (e : Engine) (r : Session × List Notice) : Engine :=
  (e.withSession r.1).publish r.2

/-- An engine whose bus takes a step. -/
def step (e : Engine) : Engine :=
  let (site, bus) := Bus.step Site.audience (e.site, e.bus)
  { e with site, bus }

namespace Act

/-- The engine after an act. -/
def apply (p : Precision) (e : Engine) : Act → Engine
  | start => e.start.1
  | stop => e.stop
  | interrupt =>
    if e.bus.running then
      let e := (e.withSession e.session.clear).step
      { e with bus := e.bus.halt }
    else e.stop
  | turn =>
    if e.bus.running then
      let e := e.step
      { e with bus := e.bus.settle }
    else e
  | call c => e.publishing (c.apply p e.env e.session)
  | race queries => e.publishing (e.session.race p e.env queries).effect
  | elapse ms => e.publishing (e.session.elapse p e.env ms)
  | rebuild => e.publishing (e.session.rebuild e.env).effect
  | change f => e.withSession (f e.session)
  | upsert r => (e.upsert r).1
  | delete kind id => (e.delete kind id).1
  | wait env => e.withEnv env
  | observe pattern => { e with bus := e.bus.subscribe pattern .observer }

/-- What is written down of an act. -/
def note (e : Engine) (l : Life) : Act → Life
  | start => { l with starts := l.starts + 1 }
  | stop => if e.bus.processor = .waiting then l.handOut e.bus.queue else l
  | interrupt =>
    if e.bus.running ∨ e.bus.processor = .waiting then l.handOut e.bus.queue else l
  | turn => if e.bus.running then l.handOut e.bus.queue else l
  | _ => l

end Act

/-- The engine after some acts. -/
def afterActs (p : Precision) (e : Engine) (acts : List Act) : Engine :=
  acts.foldl (Act.apply p) e

/-- What is written down of some acts, behind what was written down before. -/
def life (p : Precision) : Engine → Life → List Act → Life
  | _, l, [] => l
  | e, l, a :: acts => life p (a.apply p e) (a.note e l) acts

/-! ## 4. Every act is told of -/

/-- **An engine tells of its life**: it counted what was handed out, and each of its listeners is
    subscribed as often as the engine was started. -/
structure Tells (w : Site) (b : Bus Listener Notice) (l : Life) : Prop where
  nodup : b.subscribers.keys.Nodup
  subscribed : ∀ (x : Listener) (topic : Text), x ≠ .observer →
    (b.listeners topic).count x = if x.hears topic then l.starts else 0
  own : ∀ ev ∈ b.queue, ev.IsOwn
  counts : w.counts = l.counts
  /-- Before the first start nothing is handed out. -/
  asleep : l.starts = 0 → b.running = false ∧ b.processor ≠ .waiting
  handed : ∀ x ∈ l.handed, 1 ≤ x.1 ∧ x.1 ≤ l.starts

namespace Tells

variable {p : Precision} {w w' : Site} {b b' : Bus Listener Notice} {l : Life} {e : Engine}

/-- What has no share in the counts is not told of. -/
theorem congr (h : Tells w b l) (hw : w'.counts = w.counts)
    (hs : b'.subscribers = b.subscribers) (hq : ∀ ev ∈ b'.queue, ev.IsOwn)
    (hrun : l.starts = 0 → b'.running = false ∧ b'.processor ≠ .waiting) : Tells w' b' l where
  nodup := hs ▸ h.nodup
  subscribed x topic hx := by
    rw [← h.subscribed x topic hx]
    unfold Bus.listeners
    rw [hs]
  own := hq
  counts := hw.trans h.counts
  asleep := hrun
  handed := h.handed

/-- Publishing notices of the engine's own is not told of. -/
theorem emitAll (h : Tells w b l) {es : List (Event Notice)} (hes : ∀ ev ∈ es, ev.IsOwn) :
    Tells w (b.emitAll es) l := by
  have hall : b.emitAll es = { b with queue := _, counts := _ } := Bus.emitAll_eq es b
  refine h.congr rfl (Bus.subscribers_emitAll es b) (fun ev hev => ?_) fun h0 => ?_
  · rcases (Bus.mem_queue_emitAll es).2 ev hev with hev | hev
    · exact h.own ev hev
    · exact hes ev hev
  · rw [hall]
    exact h.asleep h0

theorem publishing (h : Tells e.site e.bus l) {r : Session × List Notice}
    (hr : ∀ n ∈ r.2, n.IsOwn) : Tells (e.publishing r).site (e.publishing r).bus l := by
  have hafter : Tells (e.withSession r.1).site e.bus l := h.congr rfl rfl h.own h.asleep
  exact hafter.emitAll (Event.isOwn_of_notices hr)

/-- What is counted of an event is what is written down of it. -/
theorem counts_hear (h : Tells w b l) {n : Notice} (hn : n.IsOwn) (rest : List (Event Notice)) :
    (Bus.hear Site.audience n.event (b.listeners n.topic) w).1.counts =
      (l.handOut (n.event :: rest)).counts := by
  have hsearch := h.subscribed .searchCounter n.topic nofun
  have hupdate := h.subscribed .updateCounter n.topic nofun
  have htopic : n.event.topic = some n.topic := rfl
  have hne : "search.results_changed".toList ≠ "search.failed".toList := by decide
  rw [n.hears_searchCounter hn] at hsearch
  rw [Listener.hears_updateCounter] at hupdate
  rw [Site.counts_hear, h.counts, hsearch, hupdate]
  unfold Life.counts
  simp only [l.total_handOut_cons, htopic, decide_eq_true_eq, Option.some.injEq]
  by_cases hfailed : n.topic = "search.failed".toList
  · have hother : ¬ n.topic = "search.results_changed".toList :=
      fun h => hne (h.symm.trans hfailed)
    rw [if_pos hfailed, if_pos hfailed, if_pos (Or.inr hfailed), if_pos hfailed, if_neg hother]
  · rw [if_neg hfailed, if_neg hfailed, if_neg hfailed]
    simp only [or_iff_left hfailed]

/-- **A step of the bus is told of**, once the engine was started. -/
theorem step (h : Tells w b l) (hstarts : 1 ≤ l.starts) :
    Tells (Bus.step Site.audience (w, b)).1 (Bus.step Site.audience (w, b)).2
      (l.handOut b.queue) := by
  cases hq : b.queue with
  | nil =>
      rw [Bus.step_nil hq, l.handOut_nil]
      exact h
  | cons ev rest =>
      have hown : ∀ ev' ∈ rest, ev'.IsOwn := fun ev' hev' =>
        h.own ev' (hq ▸ List.mem_cons_of_mem ev hev')
      obtain ⟨n, rfl, hn⟩ := h.own ev (hq ▸ List.mem_cons_self)
      have hrest : Tells w { b with queue := rest } l := h.congr rfl rfl hown h.asleep
      have hpublished := hrest.emitAll
        (Site.isOwn_published n.event (b.listeners n.event.topic) w)
      rw [Bus.step_cons hq (Bus.calls_eq Site.attends_audience w (b.clashes_some n.topic)),
        Site.inTurn_audience, Bus.forget_eq Site.attends_audience]
      refine ⟨hpublished.nodup, hpublished.subscribed, hpublished.own, h.counts_hear hn rest,
        fun hnone => absurd hstarts (Nat.not_le.mpr (Nat.lt_one_iff.mpr hnone)), fun x hx => ?_⟩
      rcases List.mem_append.mp hx with hx | hx
      · exact h.handed x hx
      · rw [List.mem_singleton.mp hx]
        exact ⟨hstarts, Nat.le_refl _⟩

/-- At first there is nothing to tell. -/
theorem around (session : Session) (env : Surroundings) :
    Tells (Engine.around session env).site (Engine.around session env).bus .blank where
  nodup := List.nodup_nil
  subscribed _ _ _ := (ite_self 0).symm
  own := List.forall_mem_nil _
  counts := rfl
  asleep _ := ⟨rfl, nofun⟩
  handed := List.forall_mem_nil _

/-- An observer that subscribes is not told of. -/
theorem observe (h : Tells w b l) (pattern : Text) :
    Tells w (b.subscribe pattern .observer) l where
  nodup := Table.nodup_keys_put h.nodup
  subscribed x topic hx := by
    rw [Bus.count_listeners_subscribe h.nodup, if_neg fun hc => hx hc.2.symm]
    exact h.subscribed x topic hx
  own := h.own
  counts := h.counts
  asleep := h.asleep
  handed := h.handed

/-- **A start subscribes every listener once more.** -/
theorem start (h : Tells e.site e.bus l) :
    Tells e.start.1.site e.start.1.bus { l with starts := l.starts + 1 } := by
  let b1 := e.bus.start
  let b2 := b1.subscribe "record.*".toList .changeFeed
  let b3 := b2.subscribe "search.*".toList .searchCounter
  let b4 := b3.subscribe "index.updated".toList .updateCounter
  have hstart : b1.subscribers = e.bus.subscribers ∧ b1.queue = e.bus.queue := by
    show (e.bus.start).subscribers = _ ∧ (e.bus.start).queue = _
    unfold Bus.start
    split
    · exact ⟨rfl, rfl⟩
    · exact ⟨rfl, rfl⟩
  have h1 : b1.subscribers.keys.Nodup := hstart.1 ▸ h.nodup
  have h2 : b2.subscribers.keys.Nodup := Table.nodup_keys_put h1
  have h3 : b3.subscribers.keys.Nodup := Table.nodup_keys_put h2
  have hlisten : ∀ topic, b1.listeners topic = e.bus.listeners topic := fun topic => by
    unfold Bus.listeners
    rw [hstart.1]
  have hsubscribed : Tells e.site b4 { l with starts := l.starts + 1 } := by
    refine ⟨Table.nodup_keys_put h3, fun x topic hx => ?_, ?_, h.counts, nofun, fun y hy => ?_⟩
    · have hbefore := h.subscribed x topic hx
      rw [Bus.count_listeners_subscribe h3, Bus.count_listeners_subscribe h2,
        Bus.count_listeners_subscribe h1, hlisten, hbefore]
      rw [Nat.add_assoc, Nat.add_assoc, x.hears_of_subscriptions topic]
      split
      · rfl
      · rfl
    · show ∀ ev ∈ b1.queue, ev.IsOwn
      rw [hstart.2]
      exact h.own
    · exact ⟨(h.handed y hy).1, Nat.le_succ_of_le (h.handed y hy).2⟩
  exact hsubscribed.publishing (e := { e with linked := true, bus := b4 })
    (r := (e.session.rebuild e.env).effect) (Session.isOwn_rebuild e.session)

/-- An engine that was started before its bus handed anything out. -/
theorem started (h : Tells w b l) (hb : b.running = true ∨ b.processor = .waiting) :
    1 ≤ l.starts := by
  refine Nat.one_le_iff_ne_zero.mpr fun hnone => ?_
  obtain ⟨hrunning, hprocessor⟩ := h.asleep hnone
  rcases hb with hb | hb
  · rw [hrunning] at hb
    cases hb
  · exact hprocessor hb

/-- A bus that does not run is as good as one that does, as far as it is told of. -/
theorem halt (h : Tells w b l) : Tells w b.halt l :=
  h.congr rfl rfl h.own fun _ => ⟨rfl, nofun⟩

theorem stop (h : Tells e.site e.bus l) :
    Tells e.stop.site e.stop.bus (Act.note e l .stop) := by
  let w := { e.site with
    session := if e.bus.running then e.session.clear.settle else e.session.clear }
  have hcleared : Tells w e.bus.halt l := h.halt.congr rfl rfl h.own fun _ => ⟨rfl, nofun⟩
  have hstop : (e.stop.site, e.stop.bus) = Bus.stop Site.audience (w, e.bus) := rfl
  rw [Bus.stop_eq] at hstop
  unfold Act.note
  dsimp only at hstop ⊢
  split at hstop
  next hwaiting =>
    rw [if_pos hwaiting]
    have hstep := hcleared.step (h.started (Or.inr hwaiting))
    rw [← hstop] at hstep
    exact hstep
  next hwaiting =>
    rw [if_neg hwaiting]
    obtain ⟨hsite, hbus⟩ := Prod.mk.inj hstop
    rw [hsite, hbus]
    exact hcleared

theorem announce (h : Tells e.site e.bus l) (store : Store) (c : Change) :
    Tells ((e.withStore store).announce c).site ((e.withStore store).announce c).bus l := by
  have hstored : Tells (e.withStore store).site (e.withStore store).bus l :=
    h.congr rfl rfl h.own h.asleep
  unfold Engine.announce
  split
  · exact hstored.emitAll (Event.isOwn_of_notices (List.forall_mem_singleton.mpr trivial))
  · exact hstored

/-- **Every act is told of.** -/
theorem apply (h : Tells e.site e.bus l) (a : Act) :
    Tells (a.apply p e).site (a.apply p e).bus (a.note e l) := by
  cases a with
  | start => exact h.start
  | stop => exact h.stop
  | interrupt =>
      unfold Act.apply
      dsimp only
      split
      next hrunning =>
        have hcleared : Tells (e.withSession e.session.clear).site e.bus l :=
          h.congr rfl rfl h.own h.asleep
        have hnote : Act.note e l .interrupt = l.handOut e.bus.queue := if_pos (Or.inl hrunning)
        rw [hnote]
        exact (hcleared.step (h.started (Or.inl hrunning))).halt
      next hrunning =>
        have hnote : Act.note e l .interrupt = Act.note e l .stop := by
          unfold Act.note
          simp only [or_iff_right hrunning]
        rw [hnote]
        exact h.stop
  | turn =>
      unfold Act.apply Act.note
      dsimp only
      split
      next hrunning =>
        have hstarts := h.started (Or.inl hrunning)
        have hstep := h.step hstarts
        refine hstep.congr rfl ?_ ?_ fun hnone => absurd hnone (Nat.one_le_iff_ne_zero.mp hstarts)
        · unfold Bus.settle
          split
          · rfl
          · rfl
        · unfold Bus.settle
          split
          · exact hstep.own
          · exact hstep.own
      next => exact h
  | call c => exact h.publishing (Session.isOwn_call e.session c)
  | race queries => exact h.publishing (Session.isOwn_race queries e.session)
  | elapse ms => exact h.publishing (Session.isOwn_elapse e.session ms)
  | rebuild => exact h.publishing (Session.isOwn_rebuild e.session)
  | change f => exact h.congr rfl rfl h.own h.asleep
  | upsert r => exact h.announce _ _
  | delete kind id =>
      show Tells ((Move.delete kind id).apply e).site ((Move.delete kind id).apply e).bus l
      rw [delete_eq]
      split
      · exact h.announce _ _
      · exact h
  | wait env => exact h.congr rfl rfl h.own h.asleep
  | observe pattern => exact h.observe pattern

/-- **Every run is told of.** -/
theorem afterActs : ∀ (acts : List Act) {e : Engine} {l : Life}, Tells e.site e.bus l →
    Tells (e.afterActs p acts).site (e.afterActs p acts).bus (life p e l acts)
  | [], _, _, h => h
  | a :: acts, _, _, h => afterActs acts (h.apply a)

/-- **A change that is handed out** reaches the index as often as the engine was started. -/
theorem index_step (h : Tells w b l) {ev : Event Notice} {rest : List (Event Notice)} {c : Change}
    (hq : b.queue = ev :: rest) (hc : ev.change? = some c) :
    (Bus.step Site.audience (w, b)).1.session.desk.index =
      (fun i => (Session.indexAfter i w.env c).1)^[l.starts] w.session.desk.index := by
  obtain ⟨n, rfl, hn⟩ := h.own ev (hq ▸ List.mem_cons_self)
  have hfeed : (b.listeners n.topic).count .changeFeed = l.starts := by
    have hhears : Listener.changeFeed.hears n.topic = true := by
      cases n with
      | recordChanged c' => exact Site.isMatch_changeTopic c'
      | _ => cases hc
    rw [h.subscribed .changeFeed _ nofun, if_pos hhears]
  have hcalls : Bus.calls Site.audience w b n.event = (b.listeners n.topic, true) :=
    Bus.calls_eq Site.attends_audience w (b.clashes_some n.topic)
  rw [Bus.step_cons hq hcalls, Site.inTurn_audience]
  dsimp only
  rw [Site.index_hear hc, hfeed]

end Tells

/-! ## 5. Runs -/

/-- **An engine counts each event once for each start.** Whatever happens to a new engine: each of
    its counts is the number of the events on its topic that were handed out, each of them counted
    as often as the engine had been started by then; and a change of a record that is handed out
    next will be taken over into the index as often as the engine was started. Of an engine that was
    started once only, the counts are the numbers of events, and each change is taken over once. -/
theorem counts_of_starts (p : Precision) (session : Session) (env : Surroundings)
    (acts : List Act) :
    let e := (around session env).afterActs p acts
    let l := life p (around session env) .blank acts
    e.site.counts =
        ⟨l.total "search.results_changed", l.total "search.failed", l.total "index.updated"⟩ ∧
      (∀ ev rest c, e.bus.queue = ev :: rest → ev.change? = some c →
        e.step.session.desk.index =
          (fun i => (Session.indexAfter i e.env c).1)^[l.starts] e.session.desk.index) ∧
      (l.starts ≤ 1 → e.site.counts =
        ⟨l.number "search.results_changed", l.number "search.failed",
          l.number "index.updated"⟩) := by
  intro e l
  have htells : Tells e.site e.bus l := Tells.afterActs acts (.around session env)
  refine ⟨htells.counts, fun ev rest c hq hc => htells.index_step hq hc, fun hone => ?_⟩
  have hnumber := Life.total_eq_number htells.handed hone
  rw [htells.counts]
  unfold Life.counts
  rw [hnumber, hnumber, hnumber]

/-- A query is refused before the engine is started for the first time. It is counted then, once. -/
theorem counts_of_one_start :
    ((around .plain (.still .empty)).afterActs .double
      [.stop, .call (.search (.str "app:".toList)), .start, .turn, .turn]).site.counts =
      ⟨0, 1, 0⟩ := by
  obtain ⟨-, -, hone⟩ := counts_of_starts .double .plain (.still .empty)
    [.stop, .call (.search (.str "app:".toList)), .start, .turn, .turn]
  exact (hone (by decide +kernel)).trans (by decide +kernel)

/-- **An engine that was stopped and started again counts one failed search twice.** -/
theorem counted_twice :
    ¬ ∀ (session : Session) (env : Surroundings) (acts : List Act),
      ((around session env).afterActs .double acts).site.counts =
        ⟨(life .double (around session env) .blank acts).number "search.results_changed",
          (life .double (around session env) .blank acts).number "search.failed",
          (life .double (around session env) .blank acts).number "index.updated"⟩ := by
  intro h
  have hcounts := h .plain (.still .empty)
    [.start, .turn, .stop, .start, .call (.search (.str "app:".toList)), .turn, .turn]
  revert hcounts
  decide +kernel

end Engine

end Worklog
