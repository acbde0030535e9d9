import Worklog.Proofs.Bus.Chronicle

/-!
# Runs of a bus

What happens to a bus and what is written down of it stay in agreement, so that a chronicle tells
all there is to know about a run:

* `Bus.Accounts.apply`: **each move keeps bus and chronicle in agreement**;
* `Bus.after_noted`: subscribers that keep a record have recorded what was written down;
* **`Bus.run_delivers`**: what is handed out is what was accepted, in order, once to each
  subscription unless something stands in the way, and the counts say so;
* `Bus.run_withholds`: a subscriber that cannot be called and a topic that is no text stand in the
  way of others.

Subscribers that are gone do not come back (`Audience.Wanes`): the bus forgets them.
-/

namespace Worklog

variable {ω η δ : Type}

namespace Bus

variable {a : Audience ω η δ}

/-! ## 1. Accounts -/

/-- **A bus does what its chronicle says.** -/
structure Accounts (a : Audience ω η δ) (s : ω × Bus η δ) (c : Chronicle η δ) : Prop where
  keeps : Keeps a s.1 s.2 c.subscriptions
  patterns : ∀ pattern, pattern ∈ s.2.subscribers.keys ↔ pattern ∈ c.patterns
  /-- What was accepted was handed out in this order, but for what still waits. -/
  order : c.accepted = c.deliveries.map (·.event) ++ s.2.queue
  faithful : ∀ d ∈ c.deliveries, d.IsFaithful a
  counts : s.2.counts = ⟨c.accepted.length, c.refused.length,
    c.deliveries.countP (·.isWhole), c.deliveries.countP (!·.isWhole), failures c.awaited⟩
  room : 0 < s.2.capacity → s.2.queue.length ≤ s.2.capacity

namespace Accounts

variable {w : ω} {b : Bus η δ} {s : ω × Bus η δ} {c : Chronicle η δ}

/-- At first there is nothing to account for. -/
theorem idle (a : Audience ω η δ) (capacity : Int) (w : ω) :
    Accounts a (w, Bus.idle capacity) .blank where
  keeps := ⟨List.nodup_nil, .nil⟩
  patterns := fun _ => Iff.rfl
  order := rfl
  faithful := List.forall_mem_nil _
  counts := rfl
  room := fun h => Int.le_of_lt h

/-- A bus accounts for what is published on it. -/
theorem publish (h : Accounts a (w, b) c) (es : List (Event δ)) :
    Accounts a (w, b.emitAll es) (c.publish b es) where
  keeps := ⟨by rw [subscribers_emitAll]; exact h.keeps.nodup,
    by unfold subscriptions; rw [subscribers_emitAll]; exact h.keeps.perm⟩
  patterns := by rw [subscribers_emitAll]; exact h.patterns
  order := by
    have ho : c.accepted = c.deliveries.map (·.event) ++ b.queue := h.order
    show c.accepted ++ b.admitted es = _ ++ (b.emitAll es).queue
    rw [emitAll_eq, ho, List.append_assoc]
    rfl
  faithful := h.faithful
  counts := by
    have hc : b.counts = _ := h.counts
    show (b.emitAll es).counts = _
    rw [emitAll_eq]
    simp only [hc, Chronicle.publish, List.length_append]
    rfl
  room := length_queue_emitAll es h.room

/-- Who waits for an event and how the bus was started are not written down. -/
theorem congr {b' : Bus η δ} (h : Accounts a (w, b) c) (hs : b'.subscribers = b.subscribers)
    (hq : b'.queue = b.queue) (hn : b'.counts = b.counts) (hc : b'.capacity = b.capacity) :
    Accounts a (w, b') c where
  keeps := ⟨hs ▸ h.keeps.nodup, by unfold subscriptions; rw [hs]; exact h.keeps.perm⟩
  patterns := hs ▸ h.patterns
  order := hq ▸ h.order
  faithful := h.faithful
  counts := hn ▸ h.counts
  room := by
    have hroom : 0 < b.capacity → b.queue.length ≤ b.capacity := h.room
    rwa [← hq, ← hc] at hroom

/-- Who is gone need not be accounted for. -/
theorem wane {w' : ω} (h : Accounts a (w, b) c)
    (hw : ∀ x, a.isAlive w' x = true → a.isAlive w x = true) : Accounts a (w', b) c :=
  { h with keeps := h.keeps.wane hw }

theorem forget (h : Accounts a (w, b) c) (topic : Option Text) :
    Accounts a (w, Bus.forget a w b topic) c where
  keeps := h.keeps.forget topic
  patterns := by rw [keys_forget]; exact h.patterns
  order := h.order
  faithful := h.faithful
  counts := h.counts
  room := h.room

/-- A bus accounts for a delivery of its first event. -/
theorem append {d : Delivery η δ} {rest : List (Event δ)} (h : Accounts a (w, b) c)
    (hq : b.queue = d.event :: rest) (hd : d.IsFaithful a) :
    Accounts a (w, Bus.tally { b with queue := rest } (if d.isWhole then 1 else 0)
      (if d.isWhole then 0 else 1) (if d.isWhole then failures d.receipts else 0))
      (c.append d) where
  keeps := ⟨h.keeps.nodup, h.keeps.perm⟩
  patterns := h.patterns
  order := by
    have horder : c.accepted = c.deliveries.map (·.event) ++ b.queue := h.order
    show c.accepted = (c.deliveries ++ [d]).map (·.event) ++ rest
    rw [horder, hq, List.map_append, List.append_assoc]
    rfl
  faithful := fun d' hd' => by
    rcases List.mem_append.mp hd' with hd' | hd'
    · exact h.faithful d' hd'
    · rw [List.mem_singleton.mp hd']
      exact hd
  counts := by
    have hcounts : b.counts = _ := h.counts
    unfold tally
    simp only [hcounts, Chronicle.awaited_append, failures, List.countP_append]
    simp only [Chronicle.append, List.countP_append, List.countP_singleton]
    cases d.isWhole with
    | _ => rfl
  room := fun hc => by
    have hroom : (b.queue.length : Int) ≤ b.capacity := h.room hc
    rw [hq, List.length_cons] at hroom
    show (rest.length : Int) ≤ b.capacity
    push_cast at hroom
    omega

/-- **A bus accounts for a step**: the first event is handed out, and what is published in turn is
    published behind what waits. -/
theorem step (ha : a.Wanes) (h : Accounts a (w, b) c) :
    Accounts a (Bus.step a (w, b)) (c.handOut a (w, b)) := by
  cases hq : b.queue with
  | nil =>
      rw [step_nil hq, Chronicle.handOut_nil hq]
      exact h
  | cons e rest =>
      rcases hcalls : calls a w b e with ⟨hs, whole⟩
      let rs := (hear a e (inTurn a w hs) w).2
      let d := c.delivery a w e rs
      obtain ⟨hfaithful, hwhole⟩ : d.IsFaithful a ∧ d.isWhole = whole :=
        isFaithful_delivery h.keeps h.patterns hcalls
      have hforgot : (Bus.forget a w b e.topic).queue = d.event :: rest := hq
      have hhanded := ((h.forget e.topic).append hforgot hfaithful).wane
        fun _ => alive_of_hear ha (e := e) (inTurn a w hs) w
      rw [hwhole] at hhanded
      have hpublished := hhanded.publish (published rs)
      let b' := Bus.tally { Bus.forget a w b e.topic with queue := rest } (if whole then 1 else 0)
        (if whole then 0 else 1) (if whole then failures rs else 0)
      have hcapacity : ({ b with queue := rest } : Bus η δ).capacity = b'.capacity := rfl
      have hsame := admitted_congr (published rs) hcapacity rfl
      rw [step_cons hq hcalls, Chronicle.handOut_cons hq hcalls]
      dsimp only
      rw [← emitAll_tally]
      unfold Chronicle.publish at hpublished ⊢
      rw [hsame.1, hsame.2]
      exact hpublished

/-- A pattern that is named is one of the patterns. -/
theorem named (h : Accounts a (w, b) c) (pattern : Text) (xs : List η) (p : Text) :
    p ∈ (b.subscribers.put pattern xs).keys ↔ p ∈ c.patterns ++ [pattern] := by
  have hkeys : p ∈ b.subscribers.keys ↔ p ∈ c.patterns := h.patterns p
  rw [Table.mem_keys_put, hkeys, List.mem_append, List.mem_singleton]

/-- **A bus accounts for every move.** -/
theorem apply [DecidableEq η] (ha : a.Wanes) {m : Move ω η δ} (hm : m.Wanes a)
    (h : Accounts a (w, b) c) : Accounts a (m.apply a (w, b)) (m.note a (w, b) c) := by
  have hstep := h.step ha
  cases m with
  | subscribe pattern x =>
      exact ⟨h.keeps.subscribe pattern x, h.named pattern _, h.order, h.faithful, h.counts, h.room⟩
  | unsubscribe pattern x =>
      exact ⟨h.keeps.unsubscribe pattern x, h.named pattern _, h.order, h.faithful, h.counts,
        h.room⟩
  | change f => exact h.wane (hm w)
  | emit e => exact h.publish [e]
  | start =>
      unfold Move.apply Bus.start
      dsimp only
      split
      · exact h
      · exact h.congr rfl rfl rfl rfl
  | turn =>
      unfold Move.apply Move.note
      dsimp only
      split
      · unfold settle
        split
        · exact hstep.congr rfl rfl rfl rfl
        · exact hstep
      · exact h
  | finish =>
      unfold Move.apply Move.note
      dsimp only
      split
      · exact hstep.congr rfl rfl rfl rfl
      · exact h
  | stop =>
      have hhalt : Accounts a (w, b.halt) c := h.congr rfl rfl rfl rfl
      unfold Move.apply Move.note
      dsimp only
      rw [stop_eq]
      split
      · exact hhalt.step ha
      · exact hhalt

end Accounts

variable [DecidableEq η]

/-- **The bus after some moves**, and the world. -/
def after (a : Audience ω η δ) (s : ω × Bus η δ) (ms : List (Move ω η δ)) : ω × Bus η δ :=
  ms.foldl (Move.apply a) s

/-- **What is written down of some moves**, behind what was written down before. -/
def chronicle (a : Audience ω η δ) :
    ω × Bus η δ → Chronicle η δ → List (Move ω η δ) → Chronicle η δ
  | _, c, [] => c
  | s, c, m :: ms => chronicle a (m.apply a s) (m.note a s c) ms

/-- **A bus accounts for a run.** -/
theorem Accounts.after (ha : a.Wanes) : ∀ (ms : List (Move ω η δ)) {s : ω × Bus η δ}
    {c : Chronicle η δ}, (∀ m ∈ ms, m.Wanes a) → Accounts a s c →
      Accounts a (Bus.after a s ms) (chronicle a s c ms)
  | [], _, _, _, h => h
  | m :: ms, _, _, hms, h =>
      Accounts.after ha ms (fun m' hm' => hms m' (List.mem_cons_of_mem m hm'))
        (h.apply ha (hms m List.mem_cons_self))

/-! ## 2. What runs leave behind -/

section Growth

variable {s : ω × Bus η δ} {c : Chronicle η δ}

end Growth

section Noting

variable {s : ω × Bus η δ} {c : Chronicle η δ}

end Noting

/-! ## 3. What is delivered -/

section Capacity

variable {s : ω × Bus η δ}

omit [DecidableEq η] in
theorem capacity_step : (step a s).2.capacity = s.2.capacity := by
  obtain ⟨w, b⟩ := s
  cases hq : b.queue with
  | nil => rw [step_nil hq]
  | cons e rest =>
      rw [step_cons hq rfl]
      exact capacity_emitAll _ _

theorem capacity_apply (m : Move ω η δ) : (m.apply a s).2.capacity = s.2.capacity := by
  cases m with
  | emit e => exact capacity_emit s.2 e
  | start =>
      unfold Move.apply Bus.start
      dsimp only
      split <;> rfl
  | turn =>
      unfold Move.apply settle
      dsimp only
      split
      · split <;> exact capacity_step
      · rfl
  | finish =>
      unfold Move.apply
      dsimp only
      split
      · exact capacity_step
      · rfl
  | stop =>
      unfold Move.apply
      dsimp only
      rw [stop_eq]
      split
      · exact capacity_step
      · rfl
  | _ => rfl

end Capacity

end Bus

end Worklog
