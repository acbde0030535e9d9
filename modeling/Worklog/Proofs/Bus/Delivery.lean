import Worklog.Bus.Delivery
import Worklog.Proofs.Table

/-!
# What a bus delivers

* `Bus.dropped_le_emitAll`, `Bus.queue_emitAll`: the count of dropped events never falls, and as
  long as it stays all published events are queued, in order;
* `Bus.mem_queue_emitAll`: in any case publishing only adds to the queue;
* `Bus.forget_eq`, `Bus.calls_eq`: of an audience that attends, nobody is forgotten and all
  listeners are called;
* **`Bus.step_eq`**: a step takes the first event then and gives it to the listeners one by one;
  `Bus.step_of_clash`: or to nobody, if it cannot be compared with every pattern.
-/

namespace Worklog

variable {ω η δ : Type}

/-- **An audience that attends**: all of it stays, and can be called with every event. -/
structure Audience.Attends (a : Audience ω η δ) : Prop where
  alive : ∀ w h, a.isAlive w h = true
  answers : ∀ w e h, a.refuses w e h = false

namespace Bus

/-! ## 1. Publishing -/

theorem emit_of_full {b : Bus η δ} (h : b.isFull = true) (e : Event δ) :
    b.emit e = { b with counts := { b.counts with dropped := b.counts.dropped + 1 } } := if_pos h

theorem emit_of_room {b : Bus η δ} (h : ¬ b.isFull = true) (e : Event δ) :
    b.emit e = { b with
      queue := b.queue ++ [e]
      counts := { b.counts with emitted := b.counts.emitted + 1 } } := if_neg h

theorem dropped_le_emit (b : Bus η δ) (e : Event δ) :
    b.counts.dropped ≤ (b.emit e).counts.dropped := by
  by_cases h : b.isFull = true
  · have hcount : (b.emit e).counts.dropped = b.counts.dropped + 1 := by rw [emit_of_full h]
    omega
  · have hcount : (b.emit e).counts.dropped = b.counts.dropped := by rw [emit_of_room h]
    omega

/-- **The count of dropped events never falls.** -/
theorem dropped_le_emitAll : ∀ (es : List (Event δ)) (b : Bus η δ),
    b.counts.dropped ≤ (b.emitAll es).counts.dropped
  | [], _ => Nat.le_refl _
  | e :: es, b => Nat.le_trans (dropped_le_emit b e) (dropped_le_emitAll es (b.emit e))

/-- **If none is dropped, all published events are queued**, in order. -/
theorem queue_emitAll : ∀ (es : List (Event δ)) {b : Bus η δ},
    (b.emitAll es).counts.dropped = b.counts.dropped → (b.emitAll es).queue = b.queue ++ es
  | [], _, _ => (List.append_nil _).symm
  | e :: es, b, h => by
      have hrest : (b.emit e).counts.dropped ≤ ((b.emit e).emitAll es).counts.dropped :=
        dropped_le_emitAll es (b.emit e)
      have hall : ((b.emit e).emitAll es).counts.dropped = b.counts.dropped := h
      by_cases hfull : b.isFull = true
      · have hcount : (b.emit e).counts.dropped = b.counts.dropped + 1 := by
          rw [emit_of_full hfull]
        omega
      · have hroom := emit_of_room hfull e
        have hdropped : ((b.emit e).emitAll es).counts.dropped = (b.emit e).counts.dropped := by
          rw [hall, hroom]
        show ((b.emit e).emitAll es).queue = _
        rw [queue_emitAll es hdropped, hroom]
        exact List.append_assoc b.queue [e] es

/-- Publishing takes no event out of the queue, and puts no other event into it. -/
theorem mem_queue_emitAll : ∀ (es : List (Event δ)) {b : Bus η δ},
    (∀ e ∈ b.queue, e ∈ (b.emitAll es).queue) ∧
      ∀ e ∈ (b.emitAll es).queue, e ∈ b.queue ∨ e ∈ es
  | [], _ => ⟨fun _ he => he, fun _ he => Or.inl he⟩
  | e :: es, b => by
      have hqueue := queue_emit b e
      have hone : (∀ e' ∈ b.queue, e' ∈ (b.emit e).queue) ∧
          ∀ e' ∈ (b.emit e).queue, e' ∈ b.queue ∨ e' = e := by
        rw [hqueue]
        split
        · exact ⟨fun _ he => he, fun _ he => Or.inl he⟩
        · exact ⟨fun _ he => List.mem_append_left _ he, fun _ he =>
            (List.mem_append.mp he).imp_right List.mem_singleton.mp⟩
      obtain ⟨hstay, hnew⟩ := mem_queue_emitAll es (b := b.emit e)
      refine ⟨fun e' he => hstay e' (hone.1 e' he), fun e' he => ?_⟩
      rcases hnew e' he with he | he
      · rcases hone.2 e' he with he | rfl
        · exact Or.inl he
        · exact Or.inr List.mem_cons_self
      · exact Or.inr (List.mem_cons_of_mem _ he)

theorem subscribers_emit (b : Bus η δ) (e : Event δ) : (b.emit e).subscribers = b.subscribers := by
  unfold emit
  split
  · rfl
  · rfl

theorem subscribers_emitAll : ∀ (es : List (Event δ)) (b : Bus η δ),
    (b.emitAll es).subscribers = b.subscribers
  | [], _ => rfl
  | e :: es, b => (subscribers_emitAll es (b.emit e)).trans (subscribers_emit b e)

/-! ## 2. Listeners -/

/-- Whoever subscribed to a pattern listens to the topics that match it. -/
theorem mem_listeners {b : Bus η δ} {pattern : Text} {topic : Option Text} {h : η}
    (hh : h ∈ b.subscribers.getD pattern []) (hm : Topic.isMatch pattern topic = true) :
    h ∈ b.listeners topic := by
  unfold Table.getD at hh
  cases hget : b.subscribers.get? pattern with
  | none =>
      rw [hget] at hh
      exact absurd hh List.not_mem_nil
  | some hs =>
      rw [hget] at hh
      exact List.mem_flatMap.mpr
        ⟨_, List.mem_filter.mpr ⟨Table.mem_of_get? hget, hm⟩, hh⟩

/-- A text can be compared with every pattern. -/
theorem clashes_some (b : Bus η δ) (topic : Text) : b.clashes (some topic) = false :=
  List.any_eq_false.mpr fun s _ => by rw [Topic.isClash_eq]; exact Bool.false_ne_true

variable {a : Audience ω η δ}

theorem mem_inTurn {w : ω} {hs : List η} {h : η} : h ∈ inTurn a w hs ↔ h ∈ hs := by
  unfold inTurn
  simp only [List.mem_append, List.mem_filter, Bool.not_eq_true']
  cases a.isSlow w h <;> simp

/-- Who is gone is forgotten in front of the first pattern with which a topic cannot be compared;
    what stands there and behind it stays. -/
theorem exists_forget (a : Audience ω η δ) (w : ω) (b : Bus η δ) (topic : Option Text) :
    ∃ before behind, b.subscribers = before ++ behind ∧
      forget a w b topic = { b with subscribers := before.map (clear a w topic) ++ behind } := by
  let free : Text × List η → Bool := fun s => !Topic.isClash s.1 topic
  refine ⟨b.subscribers.takeWhile free, b.subscribers.dropWhile free,
    List.takeWhile_append_dropWhile.symm, ?_⟩
  unfold forget
  rw [List.span_eq_takeWhile_dropWhile]

/-- Of an audience that attends nobody is forgotten. -/
theorem forget_eq (ha : a.Attends) (w : ω) (b : Bus η δ) (topic : Option Text) :
    forget a w b topic = b := by
  have hclear : ∀ s : Text × List η, clear a w topic s = s := fun s => by
    unfold clear
    split
    · exact Prod.ext rfl (List.filter_eq_self.mpr fun h _ => ha.alive w h)
    · rfl
  obtain ⟨before, behind, hparts, hforget⟩ := exists_forget a w b topic
  rw [hforget, List.map_congr_left fun s _ => hclear s, List.map_id', ← hparts]

/-- Of an audience that attends all listeners are called with what can be compared. -/
theorem calls_eq (ha : a.Attends) (w : ω) {b : Bus η δ} {e : Event δ}
    (hclash : b.clashes e.topic = false) : calls a w b e = (b.listeners e.topic, true) := by
  have hlive : ∀ hs : List η, hs.filter (a.isAlive w) = hs := fun _ =>
    List.filter_eq_self.mpr fun h _ => ha.alive w h
  have hnone : (b.listeners e.topic).any (a.refuses w e) = false :=
    List.any_eq_false.mpr fun h _ => Bool.eq_false_iff.mp (ha.answers w e h)
  have hall : (b.listeners e.topic).takeWhile (!a.refuses w e ·) = b.listeners e.topic :=
    List.takeWhile_eq_self_iff.mpr fun h _ => by rw [ha.answers]; rfl
  unfold calls
  rw [if_neg (Bool.eq_false_iff.mp hclash)]
  dsimp only
  rw [hlive, hnone, hall]
  rfl

/-- With what cannot be compared nobody is called. -/
theorem calls_of_clash (w : ω) {b : Bus η δ} {e : Event δ} (hclash : b.clashes e.topic = true) :
    calls a w b e = ([], false) := if_pos hclash

/-! ## 3. Steps -/

theorem step_nil {w : ω} {b : Bus η δ} (hq : b.queue = []) : step a (w, b) = (w, b) := by
  unfold step
  simp only [hq]

/-- A step takes the first event and gives it to those who are called. -/
theorem step_of_calls {w : ω} {b : Bus η δ} {e : Event δ} {rest : List (Event δ)} {hs : List η}
    {whole : Bool} (hq : b.queue = e :: rest) (hcalls : calls a w b e = (hs, whole)) :
    step a (w, b) =
      let s := (inTurn a w hs).foldl (if whole then give a e else hand a e)
        (w, forget a w { b with queue := rest } e.topic)
      (s.1, s.2.conclude whole) := by
  have hsame : calls a w { b with queue := rest } e = (hs, whole) := hcalls
  unfold step dispatch
  simp only [hq, hsame]

/-- **A step takes the first event** and gives it to the listeners one by one, if the audience
    attends and the event can be compared with every pattern. -/
theorem step_eq (ha : a.Attends) {w : ω} {b : Bus η δ} {e : Event δ} {rest : List (Event δ)}
    (hq : b.queue = e :: rest) (hclash : b.clashes e.topic = false) :
    step a (w, b) =
      let s := (inTurn a w (b.listeners e.topic)).foldl (give a e) (w, { b with queue := rest })
      (s.1, s.2.conclude true) := by
  rw [step_of_calls hq (calls_eq ha w hclash), forget_eq ha]
  rfl

/-- What cannot be compared with every pattern is handed out to nobody. -/
theorem step_of_clash (ha : a.Attends) {w : ω} {b : Bus η δ} {e : Event δ}
    {rest : List (Event δ)} (hq : b.queue = e :: rest) (hclash : b.clashes e.topic = true) :
    step a (w, b) = (w, conclude { b with queue := rest } false) := by
  rw [step_of_calls hq (calls_of_clash w hclash), forget_eq ha]
  rfl

/-- What holds before the listeners and is kept by each of them holds behind them. -/
theorem foldl_give {P : ω × Bus η δ → Prop} {e : Event δ}
    (hP : ∀ s h, P s → P (give a e s h)) :
    ∀ (hs : List η) {s : ω × Bus η δ}, P s → P (hs.foldl (give a e) s)
  | [], _, h => h
  | l :: hs, s, h => foldl_give hP hs (hP s l h)

/-- **What one listener brings about** and all keep holds behind the listeners, if it is among
    them. -/
theorem foldl_give_of_mem {P Q : ω × Bus η δ → Prop} {e : Event δ} {l : η}
    (hP : ∀ s h, P s → P (give a e s h)) (hQ : ∀ s h, P s → Q s → Q (give a e s h))
    (hl : ∀ s, P s → Q (give a e s l)) :
    ∀ {hs : List η} {s : ω × Bus η δ}, l ∈ hs → P s → Q (hs.foldl (give a e) s)
  | h :: hs, s, hm, hs' => by
      show Q (hs.foldl (give a e) (give a e s h))
      rcases List.mem_cons.mp hm with rfl | hm
      · have hboth : ∀ s h, P s ∧ Q s → P (give a e s h) ∧ Q (give a e s h) := fun s h hpq =>
          ⟨hP s h hpq.1, hQ s h hpq.1 hpq.2⟩
        exact (foldl_give hboth hs ⟨hP s l hs', hl s hs'⟩).2
      · exact foldl_give_of_mem hP hQ hl hm (hP s h hs')

end Bus

end Worklog
