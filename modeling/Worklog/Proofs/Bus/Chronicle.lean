import Worklog.Proofs.Bus.Heard
import Worklog.Proofs.Bus.Subscriptions

/-!
# What is written down of a bus

A bus is subscribed to, published to, started and stopped in any order, its subscribers come and go,
and now and then it hands an event out. What is written down of such a run is a `Chronicle`: the
subscriptions that hold, the events that were accepted and those that were refused, and every event
that was handed out with the subscribers to whom it was due, with what stood in its way, and with
what those did that received it.

* `Delivery.IsFaithful`: an event reaches all to whom it is due, if nothing stands in its way;
* `Bus.Move`, `Bus.Move.note`: what may happen to a bus, and what is written down of it;
* `Bus.perm_live`, `Bus.clashes_eq`: a bus and its chronicle agree on whom an event is due to, and
  on whether it can be compared;
* **`Bus.isFaithful_delivery`**: what those receive that a bus calls is a faithful delivery.
-/

namespace Worklog

variable {ω η δ : Type}

/-- An event that was handed out: the subscribers to whom it was due, once for each subscription,
    what stood in its way, and what those did that received it. -/
structure Delivery (η δ : Type) where
  event : Event δ
  due : List η
  /-- Those to whom it was due that could not be called with it. -/
  refusing : List η
  /-- Whether its topic could not be compared with a pattern. -/
  clash : Bool
  receipts : List (Receipt η δ)

namespace Delivery

/-- Those that received an event. -/
def reached (d : Delivery η δ) : List η := d.receipts.map (·.listener)

/-- Whether nothing stood in the way of an event. -/
def isWhole (d : Delivery η δ) : Bool := !d.clash && d.refusing.isEmpty

/-- **An event reaches all to whom it is due**, once for each subscription, and nobody else, if
    nothing stands in its way. A topic that cannot be compared keeps it from everybody; a subscriber
    that cannot be called keeps it from itself and from those that would be called later. -/
structure IsFaithful (a : Audience ω η δ) (d : Delivery η δ) : Prop where
  event_eq : ∀ r ∈ d.receipts, r.event = d.event
  whole : d.isWhole = true → d.reached.Perm d.due
  clash : d.clash = true → d.event.topic = none ∧ d.reached = []
  refusing : ∀ h ∈ d.refusing, h ∈ d.due ∧ ∃ w, a.refuses w d.event h = true
  refused : d.clash = false → d.refusing ≠ [] → ∃ h ∈ d.refusing, ∃ missed,
    (d.reached ++ h :: missed).Perm d.due ∧ ∀ x ∈ d.reached, x ∉ d.refusing

theorem isWhole_iff {d : Delivery η δ} :
    d.isWhole = true ↔ d.clash = false ∧ d.refusing = [] := by
  unfold isWhole
  rw [Bool.and_eq_true, Bool.not_eq_true', List.isEmpty_iff]

section Ways

variable {a : Audience ω η δ} {d : Delivery η δ} (hevent : ∀ r ∈ d.receipts, r.event = d.event)
  (hrefusing : ∀ h ∈ d.refusing, h ∈ d.due ∧ ∃ w, a.refuses w d.event h = true)
include hevent hrefusing

/-- What cannot be compared is kept from everybody. -/
theorem IsFaithful.of_clash (hclash : d.clash = true) (htopic : d.event.topic = none)
    (hreached : d.reached = []) : d.IsFaithful a where
  event_eq := hevent
  whole := fun h => absurd (hclash.symm.trans (isWhole_iff.mp h).1) Bool.noConfusion
  clash := fun _ => ⟨htopic, hreached⟩
  refusing := hrefusing
  refused := fun h => absurd (hclash.symm.trans h) Bool.noConfusion

/-- What all receive to whom it is due has nothing in its way. -/
theorem IsFaithful.of_all (hclash : d.clash = false) (hnone : d.refusing = [])
    (hreached : d.reached.Perm d.due) : d.IsFaithful a where
  event_eq := hevent
  whole := fun _ => hreached
  clash := fun h => absurd (hclash.symm.trans h) Bool.noConfusion
  refusing := hrefusing
  refused := fun _ h => absurd hnone h

/-- What a subscriber keeps from itself and others is received by those that were called before. -/
theorem IsFaithful.of_refused (hclash : d.clash = false) {h : η} (hh : h ∈ d.refusing)
    {missed : List η} (hreached : (d.reached ++ h :: missed).Perm d.due)
    (hcan : ∀ x ∈ d.reached, x ∉ d.refusing) : d.IsFaithful a where
  event_eq := hevent
  whole := fun hw => absurd ((isWhole_iff.mp hw).2 ▸ hh) List.not_mem_nil
  clash := fun h => absurd (hclash.symm.trans h) Bool.noConfusion
  refusing := hrefusing
  refused := fun _ _ => ⟨h, hh, missed, hreached, hcan⟩

end Ways

end Delivery

/-- **What is written down of a run.** -/
structure Chronicle (η δ : Type) where
  /-- The patterns with their subscribers, in the order of the subscriptions. -/
  subscriptions : List (Text × η)
  /-- All patterns that were named, those without a subscription left among them. -/
  patterns : List Text
  accepted : List (Event δ)
  refused : List (Event δ)
  deliveries : List (Delivery η δ)

/-- All receipts, delivery by delivery. -/
def Chronicle.receipts (c : Chronicle η δ) : List (Receipt η δ) :=
  c.deliveries.flatMap (·.receipts)

/-- The receipts of those that were waited for: nothing stood in the way of what they received. -/
def Chronicle.awaited (c : Chronicle η δ) : List (Receipt η δ) :=
  (c.deliveries.filter (·.isWhole)).flatMap (·.receipts)

/-- A chronicle of nothing. -/
def Chronicle.blank : Chronicle η δ := ⟨[], [], [], [], []⟩

namespace Bus

variable {a : Audience ω η δ}

/-! ## 1. Moves -/

/-- A bus that does not run. -/
def halt (b : Bus η δ) : Bus η δ := { b with running := false, processor := .none }

theorem stop_eq (a : Audience ω η δ) (s : ω × Bus η δ) :
    stop a s = if s.2.processor = .waiting then step a (s.1, s.2.halt) else (s.1, s.2.halt) := by
  obtain ⟨w, capacity, subscribers, queue, running, processor, counts⟩ := s
  cases processor <;> rfl

/-- **What may happen to a bus** and to the world in which its subscribers live. What is asked of
    the bus while it hands an event out takes effect behind that event. -/
inductive Move (ω η δ : Type) where
  | subscribe (pattern : Text) (x : η)
  | unsubscribe (pattern : Text) (x : η)
  /-- The world changes: subscribers go, for one. -/
  | change (f : ω → ω)
  | emit (e : Event δ)
  | start
  /-- A running bus hands the next event out if there is one, and waits for another. -/
  | turn
  /-- A running bus is stopped while it hands the next event out. -/
  | finish
  | stop

end Bus

namespace Chronicle

/-- **To whom an event is due**: to the subscribers that are there, once for each subscription to a
    pattern that matches. -/
def due (a : Audience ω η δ) (w : ω) (c : Chronicle η δ) (topic : Option Text) : List η :=
  (c.subscriptions.filter fun x => Topic.isMatch x.1 topic && a.isAlive w x.2).map (·.2)

/-- The delivery of an event that is received in some way. -/
def delivery (a : Audience ω η δ) (w : ω) (c : Chronicle η δ) (e : Event δ)
    (receipts : List (Receipt η δ)) : Delivery η δ where
  event := e
  due := c.due a w e.topic
  refusing := (c.due a w e.topic).filter (a.refuses w e)
  clash := c.patterns.any (Topic.isClash · e.topic)
  receipts := receipts

/-- Writes down what becomes of events that are published on a bus. -/
def publish (c : Chronicle η δ) (b : Bus η δ) (es : List (Event δ)) : Chronicle η δ :=
  { c with accepted := c.accepted ++ b.admitted es, refused := c.refused ++ b.turnedAway es }

/-- Writes down a delivery. -/
def append (c : Chronicle η δ) (d : Delivery η δ) : Chronicle η δ :=
  { c with deliveries := c.deliveries ++ [d] }

/-- A delivery with something in its way is waited for by nobody. -/
theorem awaited_append (c : Chronicle η δ) (d : Delivery η δ) :
    (c.append d).awaited = c.awaited ++ if d.isWhole then d.receipts else [] := by
  unfold awaited append
  rw [List.filter_append, List.flatMap_append]
  refine congrArg (_ ++ ·) ?_
  cases h : d.isWhole <;> simp [h]

/-- Writes down that a bus hands the next event out, if one waits. -/
def handOut (a : Audience ω η δ) (s : ω × Bus η δ) (c : Chronicle η δ) : Chronicle η δ :=
  match s.2.queue with
  | [] => c
  | e :: rest =>
    let receipts := (Bus.hear a e (Bus.inTurn a s.1 (Bus.calls a s.1 s.2 e).1) s.1).2
    (c.append (c.delivery a s.1 e receipts)).publish { s.2 with queue := rest }
      (Bus.published receipts)

section HandOut

variable {a : Audience ω η δ} {w : ω} {b : Bus η δ} {c : Chronicle η δ}

theorem handOut_nil (hq : b.queue = []) : c.handOut a (w, b) = c := by
  unfold handOut
  dsimp only
  rw [hq]

theorem handOut_cons {e : Event δ} {rest : List (Event δ)} {hs : List η} {whole : Bool}
    (hq : b.queue = e :: rest) (hcalls : Bus.calls a w b e = (hs, whole)) :
    c.handOut a (w, b) =
      let receipts := (Bus.hear a e (Bus.inTurn a w hs) w).2
      (c.append (c.delivery a w e receipts)).publish { b with queue := rest }
        (Bus.published receipts) := by
  unfold handOut
  dsimp only
  rw [hq]
  dsimp only
  rw [hcalls]

end HandOut

end Chronicle

namespace Bus

namespace Move

variable [DecidableEq η]

/-- What a move leaves. -/
def apply (a : Audience ω η δ) (s : ω × Bus η δ) : Move ω η δ → ω × Bus η δ
  | subscribe pattern x => (s.1, s.2.subscribe pattern x)
  | unsubscribe pattern x => (s.1, s.2.unsubscribe (a.isAlive s.1) pattern x)
  | change f => (f s.1, s.2)
  | emit e => (s.1, s.2.emit e)
  | start => (s.1, s.2.start)
  | turn => if s.2.running then ((step a s).1, (step a s).2.settle) else s
  | finish => if s.2.running then ((step a s).1, (step a s).2.halt) else s
  | stop => Bus.stop a s

/-- What is written down of a move. -/
def note (a : Audience ω η δ) (s : ω × Bus η δ) (c : Chronicle η δ) : Move ω η δ → Chronicle η δ
  | subscribe pattern x =>
    { c with
      subscriptions := c.subscriptions ++ [(pattern, x)]
      patterns := c.patterns ++ [pattern] }
  | unsubscribe pattern x =>
    { c with
      subscriptions := c.subscriptions.filter fun y => decide (y ≠ (pattern, x))
      patterns := c.patterns ++ [pattern] }
  | change _ => c
  | emit e => c.publish s.2 [e]
  | start => c
  | turn => if s.2.running then c.handOut a s else c
  | finish => if s.2.running then c.handOut a s else c
  | stop => if s.2.processor = .waiting then c.handOut a (s.1, s.2.halt) else c

/-- A move in a world in which a record is kept too. -/
def noted {ρ : Type} : Move ω η δ → Move (ω × ρ) η δ
  | subscribe pattern x => subscribe pattern x
  | unsubscribe pattern x => unsubscribe pattern x
  | change f => change fun w => (f w.1, w.2)
  | emit e => emit e
  | start => start
  | turn => turn
  | finish => finish
  | stop => stop

/-- Who is gone does not come back with a move. -/
def Wanes (a : Audience ω η δ) : Move ω η δ → Prop
  | change f => ∀ w x, a.isAlive (f w) x = true → a.isAlive w x = true
  | _ => True

end Move

/-! ## 2. Who is called -/

section Calls

variable {a : Audience ω η δ} {w : ω} {b : Bus η δ} {c : Chronicle η δ}

theorem perm_inTurn (a : Audience ω η δ) (w : ω) (hs : List η) : (inTurn a w hs).Perm hs :=
  List.perm_append_comm.trans (List.filter_append_perm (a.isSlow w) hs)

/-- **The live listeners of a bus are those to whom an event is due.** -/
theorem perm_live (h : Keeps a w b c.subscriptions) (topic : Option Text) :
    ((b.listeners topic).filter (a.isAlive w)).Perm (c.due a w topic) := by
  have hmatch := (h.perm.filter fun x => Topic.isMatch x.1 topic).map (·.2)
  rw [listeners_eq, List.filter_map, List.filter_filter]
  rw [List.filter_filter, List.filter_filter] at hmatch
  refine .trans (.of_eq ?_) hmatch
  refine congrArg _ (List.filter_congr fun x _ => ?_)
  exact Bool.and_comm _ _

/-- A bus compares a topic with the patterns that were named. -/
theorem clashes_eq (h : ∀ pattern, pattern ∈ b.subscribers.keys ↔ pattern ∈ c.patterns)
    (topic : Option Text) : b.clashes topic = c.patterns.any (Topic.isClash · topic) := by
  have hkeys : b.clashes topic = b.subscribers.keys.any (Topic.isClash · topic) := by
    unfold clashes Table.keys
    rw [List.any_map]
    rfl
  rw [hkeys, Bool.eq_iff_iff, List.any_eq_true, List.any_eq_true]
  simp only [h]

/-- Only what is no text cannot be compared. -/
theorem topic_eq_none {patterns : List Text} {topic : Option Text}
    (h : patterns.any (Topic.isClash · topic) = true) : topic = none := by
  obtain ⟨pattern, -, hclash⟩ := List.any_eq_true.mp h
  rw [Topic.isClash_eq, Bool.and_eq_true] at hclash
  exact Option.isNone_iff_eq_none.mp hclash.1

variable (hkeeps : Keeps a w b c.subscriptions)
  (hpatterns : ∀ pattern, pattern ∈ b.subscribers.keys ↔ pattern ∈ c.patterns)
include hkeeps hpatterns

/-- **Who is called with an event**: nobody, if it cannot be compared; all to whom it is due, if all
    can be called; and those before the first that cannot, otherwise. -/
theorem calls_cases (e : Event δ) :
    (c.patterns.any (Topic.isClash · e.topic) = true ∧ calls a w b e = ([], false)) ∨
    c.patterns.any (Topic.isClash · e.topic) = false ∧
      ((∃ hs, calls a w b e = (hs, true) ∧ hs.Perm (c.due a w e.topic) ∧
        ∀ x ∈ hs, a.refuses w e x = false) ∨
      ∃ hs h missed, calls a w b e = (hs, false) ∧ (hs ++ h :: missed).Perm (c.due a w e.topic) ∧
        a.refuses w e h = true ∧ ∀ x ∈ hs, a.refuses w e x = false) := by
  let live := (b.listeners e.topic).filter (a.isAlive w)
  have hlive : live.Perm (c.due a w e.topic) := perm_live hkeeps e.topic
  unfold calls
  rw [clashes_eq hpatterns]
  cases c.patterns.any (Topic.isClash · e.topic) with
  | true => exact Or.inl ⟨rfl, rfl⟩
  | false =>
      have hcalled : ∀ x ∈ live.takeWhile (!a.refuses w e ·), a.refuses w e x = false :=
        fun x hx => by
          have hx' := List.mem_takeWhile_imp hx
          exact (Bool.not_eq_true' _).mp hx'
      refine Or.inr ⟨rfl, ?_⟩
      cases hany : live.any (a.refuses w e) with
      | false =>
          have hall : live.takeWhile (!a.refuses w e ·) = live :=
            List.takeWhile_eq_self_iff.mpr fun x hx =>
              (Bool.not_eq_true' _).mpr (Bool.eq_false_iff.mpr (List.any_eq_false.mp hany x hx))
          exact Or.inl ⟨_, Prod.ext rfl (congrArg not hany), (List.Perm.of_eq hall).trans hlive,
            hcalled⟩
      | true =>
          obtain ⟨x, hx, hrefuses⟩ := List.any_eq_true.mp hany
          have hcut : live.dropWhile (!a.refuses w e ·) ≠ [] := fun hnil => by
            have hx' := List.dropWhile_eq_nil_iff.mp hnil x hx
            rw [hrefuses] at hx'
            cases hx'
          obtain ⟨h, missed, hrest⟩ := List.exists_cons_of_ne_nil hcut
          have hfirst := List.head_dropWhile_not (!a.refuses w e ·) hcut
          simp only [hrest, List.head_cons, Bool.not_eq_false'] at hfirst
          have hparts : live.takeWhile (!a.refuses w e ·) ++ h :: missed = live := by
            rw [← hrest]
            exact List.takeWhile_append_dropWhile
          exact Or.inr ⟨_, h, missed, Prod.ext rfl (congrArg not hany),
            (List.Perm.of_eq hparts).trans hlive, hfirst, hcalled⟩

/-- **What those receive that a bus calls is a faithful delivery**, and a bus knows whether
    something stood in its way. -/
theorem isFaithful_delivery {e : Event δ} {hs : List η} {whole : Bool}
    (hcalls : calls a w b e = (hs, whole)) :
    let d := c.delivery a w e (hear a e (inTurn a w hs) w).2
    d.IsFaithful a ∧ d.isWhole = whole := by
  intro d
  have hevent : ∀ r ∈ d.receipts, r.event = d.event := event_of_mem_hear _ _
  have hreached : d.reached.Perm hs :=
    (List.Perm.of_eq (map_listener_hear _ w)).trans (perm_inTurn a w hs)
  have hdue : ∀ x ∈ d.refusing, x ∈ d.due ∧ a.refuses w e x = true := fun _ => List.mem_filter.mp
  have hrefusing : ∀ x ∈ d.refusing, x ∈ d.due ∧ ∃ w, a.refuses w d.event x = true := fun x hx =>
    (hdue x hx).imp_right fun hrefuses => ⟨w, hrefuses⟩
  rcases calls_cases hkeeps hpatterns e with
    ⟨hclash, hcalled⟩ | ⟨hclash, ⟨hs', hcalled, hperm, hnone⟩ |
      ⟨hs', h, missed, hcalled, hperm, hrefuses, hnone⟩⟩
  all_goals obtain ⟨rfl, rfl⟩ := Prod.mk.inj (hcalled.symm.trans hcalls)
  · refine ⟨.of_clash hevent hrefusing hclash (topic_eq_none hclash) hreached.eq_nil,
      Bool.eq_false_iff.mpr fun hw => ?_⟩
    exact absurd (hclash.symm.trans (Delivery.isWhole_iff.mp hw).1) Bool.noConfusion
  · have hempty : d.refusing = [] := List.eq_nil_iff_forall_not_mem.mpr fun x hx => by
      obtain ⟨hmem, hx⟩ := hdue x hx
      rw [hnone x (hperm.mem_iff.mpr hmem)] at hx
      cases hx
    exact ⟨.of_all hevent hrefusing hclash hempty (hreached.trans hperm),
      Delivery.isWhole_iff.mpr ⟨hclash, hempty⟩⟩
  · have hmem : h ∈ d.refusing := List.mem_filter.mpr
      ⟨hperm.mem_iff.mp (List.mem_append_right _ List.mem_cons_self), hrefuses⟩
    have hcan : ∀ x ∈ d.reached, x ∉ d.refusing := fun x hx hx' => by
      have hcan := hnone x (hreached.mem_iff.mp hx)
      exact absurd (hcan.symm.trans (hdue x hx').2) Bool.false_ne_true
    refine ⟨.of_refused hevent hrefusing hclash hmem ((hreached.append_right _).trans hperm) hcan,
      Bool.eq_false_iff.mpr fun hw => ?_⟩
    exact List.not_mem_nil ((Delivery.isWhole_iff.mp hw).2 ▸ hmem)

end Calls

end Bus

end Worklog
