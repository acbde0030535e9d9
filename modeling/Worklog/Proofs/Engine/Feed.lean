import Worklog.Proofs.Bus.Delivery
import Worklog.Proofs.Engine.Synced

/-!
# The change feed converges

The store is written, the index is rebuilt, and the bus hands its events out, in any order. An
engine whose change feed listens (`Engine.IsFed`) keeps its index in step with its store, as long
as no event finds the queue full:

* `Engine.Move`: what may happen, one thing at a time;
* `Engine.synced_apply`: **each move keeps the index in step**;
* **`Engine.converges`**: whenever no change waits in the queue, the index answers like one that is
  built of the store.

A store that is not available takes writes, but nothing can be handed out or rebuilt meanwhile.
-/

namespace Worklog

/-! ## 1. Listeners -/

namespace Site

/-- The change that a listener takes over from an event. -/
def taken (l : Listener) (e : Event Notice) : Option Change :=
  match l with
  | .changeFeed => e.change?
  | _ => none

/-- The index after a listener received an event. -/
def indexAfter (l : Listener) (e : Event Notice) (w : Site) : Index :=
  match taken l e with
  | some c => (Session.indexAfter w.session.desk.index w.env c).1
  | none => w.session.desk.index

/-- **What a listener does**: the change feed takes a change over, and nothing else touches the
    index. No listener touches the store, or publishes a change of a record. -/
theorem receive_spec (l : Listener) (e : Event Notice) (w : Site) :
    (receive l e w).world.env = w.env ∧
      (receive l e w).world.session.desk.index = indexAfter l e w ∧
      ∀ e' ∈ (receive l e w).emitted, e'.change? = none ∧ ∃ n : Notice, e' = n.event := by
  cases l with
  | searchCounter => exact ⟨rfl, rfl, fun _ h => absurd h List.not_mem_nil⟩
  | updateCounter => exact ⟨rfl, rfl, fun _ h => absurd h List.not_mem_nil⟩
  | observer => exact ⟨rfl, rfl, fun _ h => absurd h List.not_mem_nil⟩
  | changeFeed =>
      show (w.feed e).world.env = w.env ∧ (w.feed e).world.session.desk.index = _ ∧
        ∀ e' ∈ (w.feed e).emitted, _
      unfold feed indexAfter taken Event.change?
      cases e.data with
      | recordChanged c =>
          obtain ⟨hindex, hnotices⟩ := Session.follow_eq w.session w.env c
          refine ⟨rfl, hindex, fun e' he' => ?_⟩
          obtain ⟨n, hn, rfl⟩ := List.mem_map.mp he'
          refine ⟨?_, n, rfl⟩
          cases n with
          | recordChanged c' => exact absurd rfl (hnotices _ hn c')
          | _ => rfl
      | foreign topic data =>
          cases data with
          | _ => exact ⟨rfl, rfl, fun _ h => absurd h List.not_mem_nil⟩
      | _ => exact ⟨rfl, rfl, fun _ h => absurd h List.not_mem_nil⟩

/-- The topic of a change is one to which the change feed listens. -/
theorem isMatch_changeTopic (c : Change) :
    Topic.isMatch "record.*".toList (Notice.changeTopic c) = true := by
  obtain ⟨kind, id, operation⟩ := c
  cases kind with
  | _ =>
      cases operation with
      | _ => rfl

theorem attends_audience : audience.Attends := ⟨fun _ _ => rfl, fun _ _ _ => rfl⟩

variable {env : Surroundings} {e : Event Notice} {queue : List (Event Notice)}

/-- **Each listener keeps index and store in step** while the first event still counts as waiting;
    once the change feed has received it, it need not. -/
theorem synced_indexAfter (ha : env.store.available = true) {w : Site} (hw : w.env = env)
    (h : Synced w.session.desk.index env.store (e :: queue)) (l : Listener) :
    Synced (indexAfter l e w) env.store (e :: queue) ∧
      (l = .changeFeed ∨ Synced w.session.desk.index env.store queue →
        Synced (indexAfter l e w) env.store queue) := by
  subst hw
  unfold indexAfter
  cases htaken : taken l e with
  | none =>
      refine ⟨h, fun hl => ?_⟩
      rcases hl with rfl | hl
      · exact h.skip htaken
      · exact hl
  | some c =>
      have hc : e.change? = some c := by
        cases l with
        | changeFeed => exact htaken
        | _ => cases htaken
      obtain ⟨hstill, hgone⟩ := h.follow ha hc
      exact ⟨hstill, fun _ => hgone⟩

/-- While an event is handed out it still counts as waiting: index and store are in step, if no
    event was dropped since `dropped` were. -/
structure Handing (env : Surroundings) (e : Event Notice) (dropped : Nat)
    (s : Site × Bus Listener Notice) : Prop where
  env_eq : s.1.env = env
  le_dropped : dropped ≤ s.2.counts.dropped
  synced : s.2.counts.dropped = dropped →
    Synced s.1.session.desk.index env.store (e :: s.2.queue)

/-- The event need not count as waiting any more. -/
def Handed (env : Surroundings) (dropped : Nat) (s : Site × Bus Listener Notice) : Prop :=
  s.2.counts.dropped = dropped → Synced s.1.session.desk.index env.store s.2.queue

variable {dropped : Nat} {s : Site × Bus Listener Notice}

theorem dropped_le_give (l : Listener) :
    s.2.counts.dropped ≤ (Bus.give audience e s l).2.counts.dropped :=
  Bus.dropped_le_emitAll _ _

/-- If a listener causes no event to be dropped, what it publishes is queued. -/
theorem queue_give {l : Listener}
    (h : (Bus.give audience e s l).2.counts.dropped = s.2.counts.dropped) :
    (Bus.give audience e s l).2.queue = s.2.queue ++ (receive l e s.1).emitted :=
  Bus.queue_emitAll _ h

theorem handing_give (ha : env.store.available = true) (h : Handing env e dropped s)
    (l : Listener) : Handing env e dropped (Bus.give audience e s l) := by
  obtain ⟨henv, hindex, hquiet⟩ := receive_spec l e s.1
  have hle : s.2.counts.dropped ≤ (Bus.give audience e s l).2.counts.dropped := dropped_le_give l
  have hlow := h.le_dropped
  refine ⟨henv.trans h.env_eq, Nat.le_trans hlow hle, fun hd => ?_⟩
  have hbefore : s.2.counts.dropped = dropped := by omega
  have hstill := (synced_indexAfter ha h.env_eq (h.synced hbefore) l).1
  rw [queue_give (hd.trans hbefore.symm)]
  show Synced (receive l e s.1).world.session.desk.index _ _
  rw [hindex]
  exact hstill.append hquiet

theorem handed_give (ha : env.store.available = true) (h : Handing env e dropped s) {l : Listener}
    (hl : l = .changeFeed ∨ Handed env dropped s) :
    Handed env dropped (Bus.give audience e s l) := by
  obtain ⟨-, hindex, hquiet⟩ := receive_spec l e s.1
  have hle : s.2.counts.dropped ≤ (Bus.give audience e s l).2.counts.dropped := dropped_le_give l
  have hlow := h.le_dropped
  intro hd
  have hbefore : s.2.counts.dropped = dropped := by omega
  have hgone := (synced_indexAfter ha h.env_eq (h.synced hbefore) l).2
    (hl.imp_right fun hs => hs hbefore)
  rw [queue_give (hd.trans hbefore.symm)]
  show Synced (receive l e s.1).world.session.desk.index _ _
  rw [hindex]
  exact hgone.append hquiet

theorem handing_foldl (ha : env.store.available = true) (ls : List Listener)
    (h : Handing env e dropped s) : Handing env e dropped (ls.foldl (Bus.give audience e) s) :=
  Bus.foldl_give (P := Handing env e dropped) (fun _ l hs => handing_give ha hs l) ls h

/-- **An event that is handed out to its listeners is taken over**, if the change feed is among
    them or the event tells of no change. -/
theorem handed_foldl (ha : env.store.available = true) {ls : List Listener}
    (h : Handing env e dropped s) (hfeed : e.change? = none ∨ .changeFeed ∈ ls) :
    Handed env dropped (ls.foldl (Bus.give audience e) s) := by
  rcases hfeed with hnone | hfeed
  · exact fun hd => ((handing_foldl ha ls h).synced hd).skip hnone
  · have hkeeps : ∀ s l, Handing env e dropped s →
        Handing env e dropped (Bus.give audience e s l) := fun _ l hs => handing_give ha hs l
    have hstays : ∀ s l, Handing env e dropped s → Handed env dropped s →
        Handed env dropped (Bus.give audience e s l) := fun _ _ hs hq =>
      handed_give ha hs (Or.inr hq)
    have hreached : ∀ s, Handing env e dropped s →
        Handed env dropped (Bus.give audience e s .changeFeed) := fun _ hs =>
      handed_give ha hs (Or.inl rfl)
    exact Bus.foldl_give_of_mem hkeeps hstays hreached hfeed h

end Site

/-! ## 2. Moves -/

namespace Engine

/-- **What may happen to an engine**, one thing at a time. -/
inductive Move where
  | upsert (r : Record)
  | delete (kind : RecordKind) (id : Text)
  | rebuild
  /-- The bus hands out its next event. -/
  | dispatch
  /-- Clocks go on, and the store becomes available or stops being so. -/
  | wait (available : Bool) (now : Moment) (clock : Quantity) (elapsed : Amount)

namespace Move

/-- The engine after a move. -/
def apply (e : Engine) : Move → Engine
  | upsert r => (e.upsert r).1
  | delete kind id => (e.delete kind id).1
  | rebuild => (e.act Session.rebuild).1
  | dispatch =>
    let (site, bus) := Bus.step Site.audience (e.site, e.bus)
    { e with site, bus }
  | wait available now clock elapsed =>
    e.withEnv ⟨{ e.env.store with available }, now, clock, elapsed⟩

/-- Complete records are written, and an index is rebuilt and an event handed out while the store
    is available. -/
def IsAllowed (e : Engine) : Move → Prop
  | upsert r => r.IsComplete
  | rebuild | dispatch => e.env.store.available = true
  | delete _ _ | wait _ _ _ _ => True

instance (e : Engine) : DecidablePred (IsAllowed e)
  | upsert r => inferInstanceAs (Decidable r.IsComplete)
  | rebuild => inferInstanceAs (Decidable (e.env.store.available = true))
  | dispatch => inferInstanceAs (Decidable (e.env.store.available = true))
  | delete _ _ => isTrue trivial
  | wait _ _ _ _ => isTrue trivial

end Move

/-- The engine after some moves. -/
def after (e : Engine) (moves : List Move) : Engine := moves.foldl Move.apply e

/-- All of some moves are allowed when their turn comes. -/
def Allows (e : Engine) : List Move → Prop
  | [] => True
  | m :: moves => m.IsAllowed e ∧ (m.apply e).Allows moves

/-- The store publishes its changes, and the change feed listens to them. -/
structure IsFed (e : Engine) : Prop where
  linked : e.linked = true
  listens : .changeFeed ∈ e.bus.subscribers.getD "record.*".toList []

/-- The index is in step with the store but for the changes that wait. -/
def IsSynced (e : Engine) : Prop :=
  Synced e.session.desk.index e.env.store e.bus.queue

/-! ## 3. What no move changes -/

variable {e : Engine}

/-- Nobody subscribes or leaves, and what was dropped stays counted. -/
structure Grows (b b' : Bus Listener Notice) : Prop where
  subscribers : b'.subscribers = b.subscribers
  dropped : b.counts.dropped ≤ b'.counts.dropped

theorem Grows.emitAll (b : Bus Listener Notice) (es : List (Event Notice)) :
    Grows b (b.emitAll es) := ⟨Bus.subscribers_emitAll es b, Bus.dropped_le_emitAll es b⟩

theorem Grows.announce (e : Engine) (store : Store) (c : Change) :
    Grows e.bus ((e.withStore store).announce c).bus := by
  unfold Engine.announce
  split
  · exact .emitAll e.bus _
  · exact ⟨rfl, Nat.le_refl _⟩

/-- Counting an event as handed out makes no difference to this. -/
theorem Grows.conclude {b b' : Bus Listener Notice} (h : Grows b b') (whole : Bool) :
    Grows b (b'.conclude whole) := by
  cases whole with
  | _ => exact ⟨h.subscribers, h.dropped⟩

theorem Grows.step (e : Engine) : Grows e.bus (Bus.step Site.audience (e.site, e.bus)).2 := by
  cases hq : e.bus.queue with
  | nil =>
      rw [Bus.step_nil hq]
      exact ⟨rfl, Nat.le_refl _⟩
  | cons ev rest =>
      have hstart : Grows e.bus { e.bus with queue := rest } := ⟨rfl, Nat.le_refl _⟩
      cases hclash : e.bus.clashes ev.topic with
      | true =>
          rw [Bus.step_of_clash Site.attends_audience hq hclash]
          exact hstart.conclude false
      | false =>
          rw [Bus.step_eq Site.attends_audience hq hclash]
          have hgive : ∀ (s : Site × Bus Listener Notice) (l : Listener), Grows e.bus s.2 →
              Grows e.bus (Bus.give Site.audience ev s l).2 := fun s l h =>
            ⟨(Bus.subscribers_emitAll _ s.2).trans h.subscribers,
              Nat.le_trans h.dropped (Bus.dropped_le_emitAll _ s.2)⟩
          have hend := Bus.foldl_give (P := fun s => Grows e.bus s.2) hgive
            (Bus.inTurn Site.audience e.site (e.bus.listeners ev.topic)) (s := (e.site, _)) hstart
          exact hend.conclude true

theorem linked_announce (e : Engine) (c : Change) : (e.announce c).linked = e.linked := by
  unfold Engine.announce
  split
  · rfl
  · rfl

/-- An upsert writes the record and announces the change. -/
theorem upsert_eq (e : Engine) (r : Record) : (Move.upsert r).apply e =
    (e.withStore (e.env.store.put r)).announce
      ⟨r.kind, r.id, if e.env.store.holds r.kind r.id then .update else .insert⟩ := rfl

/-- A deletion takes the record out and announces the change, if the record is there. -/
theorem delete_eq (e : Engine) (kind : RecordKind) (id : Text) : (Move.delete kind id).apply e =
    if e.env.store.holds kind id then
      (e.withStore (e.env.store.take kind id)).announce ⟨kind, id, .delete⟩
    else e := by
  show (e.delete kind id).1 = _
  unfold Engine.delete Store.delete
  cases e.env.store.holds kind id with
  | true => rfl
  | false => rfl

/-- **No move changes who listens**, or forgets what was dropped. -/
theorem grows_apply (e : Engine) (m : Move) :
    Grows e.bus (m.apply e).bus ∧ (m.apply e).linked = e.linked := by
  cases m with
  | upsert r =>
      rw [upsert_eq]
      exact ⟨.announce e _ _, linked_announce (e.withStore _) _⟩
  | delete kind id =>
      rw [delete_eq]
      split
      · exact ⟨.announce e _ _, linked_announce (e.withStore _) _⟩
      · exact ⟨⟨rfl, Nat.le_refl _⟩, rfl⟩
  | rebuild => exact ⟨.emitAll _ _, rfl⟩
  | dispatch => exact ⟨.step e, rfl⟩
  | wait available now clock elapsed => exact ⟨⟨rfl, Nat.le_refl _⟩, rfl⟩

/-! ## 4. Every move keeps the index in step -/

/-- Notices other than changes of records leave the index in step, if none is dropped. -/
theorem IsSynced.publish (h : e.IsSynced) {ns : List Notice}
    (hns : ∀ n ∈ ns, ∀ c, n ≠ .recordChanged c)
    (hd : (e.publish ns).bus.counts.dropped = e.bus.counts.dropped) : (e.publish ns).IsSynced := by
  have hqueue : (e.publish ns).bus.queue = e.bus.queue ++ ns.map Notice.event :=
    Bus.queue_emitAll _ hd
  unfold IsSynced
  rw [hqueue]
  refine Synced.append h fun ev hev => ?_
  obtain ⟨n, hn, rfl⟩ := List.mem_map.mp hev
  refine ⟨?_, n, rfl⟩
  cases n with
  | recordChanged c => exact absurd rfl (hns _ hn c)
  | _ => rfl

/-- The change feed has a turn when a change is handed out. -/
theorem changeFeed_mem (hfed : e.IsFed) {n : Notice} {c : Change} (hc : n.event.change? = some c) :
    .changeFeed ∈ Bus.inTurn Site.audience e.site (e.bus.listeners n.topic) := by
  refine Bus.mem_inTurn.mpr (Bus.mem_listeners hfed.listens ?_)
  cases n with
  | recordChanged c' => exact Site.isMatch_changeTopic c'
  | _ => cases hc

/-- **A step of the bus keeps the index in step**, and the store as it is. -/
theorem synced_dispatch (hfed : e.IsFed) (h : e.IsSynced) (ha : e.env.store.available = true)
    (hd : (Move.dispatch.apply e).bus.counts.dropped = e.bus.counts.dropped) :
    (Move.dispatch.apply e).IsSynced := by
  cases hq : e.bus.queue with
  | nil =>
      have hstep := Bus.step_nil (a := Site.audience) (w := e.site) hq
      have happly : Move.dispatch.apply e = e := by
        unfold Move.apply
        rw [hstep]
      rw [happly]
      exact h
  | cons ev rest =>
      have hstart : Site.Handing e.env ev e.bus.counts.dropped
          (e.site, { e.bus with queue := rest }) := by
        refine ⟨rfl, Nat.le_refl _, fun _ => ?_⟩
        show Synced e.session.desk.index e.env.store (ev :: rest)
        rw [← hq]
        exact h
      obtain ⟨n, rfl⟩ := h.notices ev (hq ▸ List.mem_cons_self)
      have hstep := Bus.step_eq Site.attends_audience (w := e.site) hq
        (e.bus.clashes_some n.topic)
      have hfeed : n.event.change? = none ∨
          .changeFeed ∈ Bus.inTurn Site.audience e.site (e.bus.listeners n.topic) := by
        cases hc : n.event.change? with
        | none => exact Or.inl rfl
        | some c => exact Or.inr (changeFeed_mem hfed hc)
      have hend := Site.handing_foldl ha
        (Bus.inTurn Site.audience e.site (e.bus.listeners n.topic)) hstart
      have hdone := Site.handed_foldl ha hstart hfeed
      unfold Move.apply at hd ⊢
      rw [hstep] at hd ⊢
      have hsynced := hdone hd
      rw [← hend.env_eq] at hsynced
      exact hsynced

/-- A write keeps the index in step, if its change is queued. -/
theorem synced_announce (hfed : e.IsFed) {store : Store} {c : Change}
    (h : Synced e.session.desk.index store (e.bus.queue ++ [(Notice.recordChanged c).event]))
    (hd : ((e.withStore store).announce c).bus.counts.dropped = e.bus.counts.dropped) :
    ((e.withStore store).announce c).IsSynced := by
  have hannounce : (e.withStore store).announce c =
      (e.withStore store).publish [.recordChanged c] := if_pos hfed.linked
  rw [hannounce] at hd ⊢
  have hqueue : ((e.withStore store).publish [.recordChanged c]).bus.queue =
      e.bus.queue ++ [(Notice.recordChanged c).event] :=
    Bus.queue_emitAll [(Notice.recordChanged c).event] hd
  unfold IsSynced
  rw [hqueue]
  exact h

/-- With an empty queue, a rebuilt index is in step. -/
theorem synced_rebuild (hsound : e.env.store.IsSound) (hidle : e.bus.queue = [])
    (ha : e.env.store.available = true)
    (hd : (Move.rebuild.apply e).bus.counts.dropped = e.bus.counts.dropped) :
    (Move.rebuild.apply e).IsSynced := by
  obtain ⟨-, ⟨live, hlive, hperm⟩, hnotices⟩ := e.session.rebuild_holds hsound ha
  have hrebuilt : (e.withSession (e.session.rebuild e.env).session).IsSynced := by
    show Synced _ e.env.store e.bus.queue
    rw [hidle]
    exact ⟨hsound, fun ev hev => absurd hev List.not_mem_nil,
      ⟨live, hlive, fun r _ => hperm.mem_iff⟩, fun key c hc => nomatch hc⟩
  exact hrebuilt.publish hnotices hd

/-- **Each move keeps the index in step**, if no event is dropped. -/
theorem synced_apply (hfed : e.IsFed) (h : e.IsSynced) {m : Move} (hm : m.IsAllowed e)
    (hd : (m.apply e).bus.counts.dropped = e.bus.counts.dropped) : (m.apply e).IsSynced := by
  cases m with
  | upsert r =>
      rw [upsert_eq] at hd ⊢
      refine synced_announce hfed (Synced.put h hm ?_) hd
      split
      · exact fun e => nomatch e
      · exact fun e => nomatch e
  | delete kind id =>
      rw [delete_eq] at hd ⊢
      split at hd
      next hholds =>
        rw [if_pos hholds]
        exact synced_announce hfed (Synced.take h kind id) hd
      next hholds =>
        rw [if_neg hholds]
        exact h
  | rebuild =>
      obtain ⟨-, ⟨live, hlive, hperm⟩, hnotices⟩ := e.session.rebuild_holds h.sound hm
      have hrebuilt : (e.withSession (e.session.rebuild e.env).session).IsSynced :=
        Synced.of_holds h hlive hperm
      exact hrebuilt.publish hnotices hd
  | dispatch => exact synced_dispatch hfed h hm hd
  | wait available now clock elapsed => exact Synced.of_available h available

/-! ## 5. Runs -/

/-- What was dropped stays counted over a run. -/
theorem dropped_le_after : ∀ (moves : List Move) (e : Engine),
    e.bus.counts.dropped ≤ (e.after moves).bus.counts.dropped
  | [], _ => Nat.le_refl _
  | m :: moves, e =>
    Nat.le_trans (grows_apply e m).1.dropped (dropped_le_after moves (m.apply e))

theorem IsFed.apply (h : e.IsFed) (m : Move) : (m.apply e).IsFed := by
  obtain ⟨hgrows, hlinked⟩ := grows_apply e m
  exact ⟨hlinked.trans h.linked, hgrows.subscribers ▸ h.listens⟩

/-- **A run keeps the index in step**, if no event is dropped. -/
theorem synced_after : ∀ (moves : List Move) {e : Engine}, e.IsFed → e.IsSynced →
    e.Allows moves → (e.after moves).bus.counts.dropped = e.bus.counts.dropped →
    (e.after moves).IsSynced
  | [], _, _, h, _, _ => h
  | m :: moves, e, hfed, h, hall, hd => by
      have hfirst : e.bus.counts.dropped ≤ (m.apply e).bus.counts.dropped :=
        (grows_apply e m).1.dropped
      have hrest : (m.apply e).bus.counts.dropped ≤ (e.after (m :: moves)).bus.counts.dropped :=
        dropped_le_after moves (m.apply e)
      have hstep : (m.apply e).bus.counts.dropped = e.bus.counts.dropped := by omega
      exact synced_after moves (hfed.apply m) (synced_apply hfed h hall.1 hstep) hall.2
        (hd.trans hstep.symm)

/-- **The change feed converges.** Start with a rebuilt index and an empty queue, and let the store
    be written, the index be rebuilt, the bus hand out its events and time pass, in any order, while
    no event is dropped. Whenever no change of a record waits in the queue, the index answers like
    an index that is built of the records of the store. -/
theorem converges {start e : Engine} (hfed : start.IsFed) (hsound : start.env.store.IsSound)
    (hidle : start.bus.queue = []) (hrebuilt : start.act Session.rebuild = (e, .ok true))
    (moves : List Move) (hmoves : e.Allows moves)
    (hdropped : (e.after moves).bus.counts.dropped = start.bus.counts.dropped)
    (hquiet : ∀ ev ∈ (e.after moves).bus.queue, ev.change? = none)
    (capacity : Int) (now : Moment) :
    ∃ records i,
      Session.snapshot { (e.after moves).env.store with available := true } = .ok records ∧
      Index.build capacity now records = (i, none) ∧
      Index.SameAnswers (e.after moves).session.desk.index i := by
  obtain rfl : Move.rebuild.apply start = e := congrArg Prod.fst hrebuilt
  have ha : start.env.store.available = true :=
    Session.available_of_rebuild (congrArg Prod.snd hrebuilt)
  have hfirst : start.bus.counts.dropped ≤ (Move.rebuild.apply start).bus.counts.dropped :=
    (grows_apply start .rebuild).1.dropped
  have hrest := dropped_le_after moves (Move.rebuild.apply start)
  have hstart : (Move.rebuild.apply start).bus.counts.dropped = start.bus.counts.dropped := by
    omega
  have hsynced := synced_rebuild hsound hidle ha hstart
  have hend := synced_after moves (hfed.apply .rebuild) hsynced hmoves (hdropped.trans hstart.symm)
  exact Synced.sameAnswers hend hquiet capacity now

/-- An engine over an empty store, with the settings unless set otherwise, to which the change feed
    listens. -/
def bare : Engine :=
  { around ⟨{}, Session.newDesk {} default, .empty 20 .unused, .str [], .blank, .empty, []⟩
      ⟨.empty, default, .finite 0, .whole 0⟩ with linked := true }.subscribe "record.*" .changeFeed

theorem isFed_bare : bare.IsFed := ⟨rfl, List.mem_singleton_self _⟩

theorem act_rebuild_bare : bare.act Session.rebuild =
    (bare.publish [.indexRebuilt (Session.newIndex {} default).size], .ok true) := by
  obtain ⟨records, hread, hperm⟩ := Session.snapshot_ok Store.IsSound.empty rfl
  have hempty : Session.snapshot bare.env.store = .ok [] := by
    rw [← List.perm_nil.mp hperm]
    exact hread
  unfold act Session.rebuild
  rw [hempty]
  rfl

/-- A project is written, deleted and written again under another name before any of this is handed
    out. -/
theorem converges_rewritten :
    ∃ records i,
      Session.snapshot (Store.empty.put (.project ⟨"p1".toList, .str "beta".toList, .null⟩)) =
        .ok records ∧
      Index.build 5 default records = (i, none) ∧
      Index.SameAnswers ((bare.publish [.indexRebuilt (Session.newIndex {} default).size]).after
        [.upsert (.project ⟨"p1".toList, .str "alpha".toList, .null⟩), .delete .project "p1".toList,
         .upsert (.project ⟨"p1".toList, .str "beta".toList, .null⟩),
         .dispatch, .dispatch, .dispatch, .dispatch]).session.desk.index i :=
  converges isFed_bare Store.IsSound.empty rfl act_rebuild_bare
    [.upsert (.project ⟨"p1".toList, .str "alpha".toList, .null⟩), .delete .project "p1".toList,
     .upsert (.project ⟨"p1".toList, .str "beta".toList, .null⟩),
     .dispatch, .dispatch, .dispatch, .dispatch]
    ⟨by decide, trivial, by decide, rfl, rfl, rfl, rfl, trivial⟩ (by decide) (by decide) 5 default

end Engine

end Worklog
