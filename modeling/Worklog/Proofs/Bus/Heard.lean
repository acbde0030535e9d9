import Worklog.Proofs.Bus.Delivery

/-!
# Publishing and receiving

Events that are published one after the other find room or do not, and subscribers that receive an
event one after the other publish in turn and fail. What becomes of a bus is told by what was
admitted and what was heard:

* `Bus.admitted`, `Bus.turnedAway`, `Bus.emitAll_eq`: which published events are queued, and what
  the others leave behind;
* `Bus.hear`, `Bus.foldl_hand_eq`, **`Bus.foldl_give_eq`**: what subscribers do that receive an
  event, whether their failures are counted or not;
* **`Bus.step_cons`**: the first event is heard by all that are called;
* `Bus.hear_noting`: subscribers that keep a record have recorded what was heard.
-/

namespace Worklog

variable {ω η δ : Type}

/-- What one subscriber did with one event. -/
structure Receipt (η δ : Type) where
  listener : η
  event : Event δ
  /-- What the subscriber published in turn. -/
  emitted : List (Event δ)
  upshot : Upshot

namespace Audience

/-- **Who is gone does not come back** when an event is received. -/
def Wanes (a : Audience ω η δ) : Prop :=
  ∀ h e w x, a.isAlive (a.receive h e w).world x = true → a.isAlive w x = true

end Audience

namespace Bus

/-! ## 1. Publishing -/

/-- Whether as many events wait as the queue takes. -/
def HasNoRoom (b : Bus η δ) : Prop := 0 < b.capacity ∧ b.capacity ≤ b.queue.length

instance (b : Bus η δ) : Decidable b.HasNoRoom :=
  inferInstanceAs (Decidable (0 < b.capacity ∧ b.capacity ≤ b.queue.length))

/-- Of some events that are published one after the other, those that find room. -/
def admitted (b : Bus η δ) : List (Event δ) → List (Event δ)
  | [] => []
  | e :: es => if b.HasNoRoom then (b.emit e).admitted es else e :: (b.emit e).admitted es

/-- Of some events that are published one after the other, those that find no room. -/
def turnedAway (b : Bus η δ) : List (Event δ) → List (Event δ)
  | [] => []
  | e :: es => if b.HasNoRoom then e :: (b.emit e).turnedAway es else (b.emit e).turnedAway es

theorem isFull_iff (b : Bus η δ) : b.isFull = true ↔ b.HasNoRoom := by
  simp [isFull, HasNoRoom]

theorem capacity_emit (b : Bus η δ) (e : Event δ) : (b.emit e).capacity = b.capacity := by
  unfold emit
  split
  · rfl
  · rfl

/-- **What becomes of published events**: those that find room are queued, and all are counted. -/
theorem emitAll_eq : ∀ (es : List (Event δ)) (b : Bus η δ), b.emitAll es = { b with
    queue := b.queue ++ b.admitted es
    counts := { b.counts with
      emitted := b.counts.emitted + (b.admitted es).length
      dropped := b.counts.dropped + (b.turnedAway es).length } }
  | [], b => by simp [emitAll, admitted, turnedAway]
  | e :: es, b => by
      have ih := emitAll_eq es (b.emit e)
      show (b.emit e).emitAll es = _
      rw [ih]
      by_cases h : b.HasNoRoom
      · rw [admitted, turnedAway, if_pos h, if_pos h, emit_of_full (b.isFull_iff.mpr h)]
        simp only [List.length_cons]
        congr 2
        omega
      · rw [admitted, turnedAway, if_neg h, if_neg h, emit_of_room (b.isFull_iff.not.mpr h)]
        simp only [List.length_cons, List.append_assoc, List.cons_append, List.nil_append]
        congr 2
        omega

theorem capacity_emitAll (b : Bus η δ) (es : List (Event δ)) :
    (b.emitAll es).capacity = b.capacity := by
  rw [emitAll_eq]

/-- What finds room depends on the queue and its bound only. -/
theorem admitted_congr : ∀ (es : List (Event δ)) {b b' : Bus η δ}, b.capacity = b'.capacity →
    b.queue = b'.queue → b.admitted es = b'.admitted es ∧ b.turnedAway es = b'.turnedAway es
  | [], _, _, _, _ => ⟨rfl, rfl⟩
  | e :: es, b, b', hc, hq => by
      have hroom : b.HasNoRoom ↔ b'.HasNoRoom := by
        unfold HasNoRoom
        rw [hc, hq]
      have hfull : b.isFull = b'.isFull :=
        Bool.eq_iff_iff.mpr (b.isFull_iff.trans (hroom.trans b'.isFull_iff.symm))
      have hqueue : (b.emit e).queue = (b'.emit e).queue := by
        rw [queue_emit, queue_emit, hfull, hq]
      obtain ⟨hin, hout⟩ := admitted_congr es
        (((capacity_emit b e).trans hc).trans (capacity_emit b' e).symm) hqueue
      unfold admitted turnedAway
      simp only [hroom, hin, hout, and_self]

/-- The queue stays within its bound. -/
theorem length_queue_emitAll : ∀ (es : List (Event δ)) {b : Bus η δ},
    (0 < b.capacity → b.queue.length ≤ b.capacity) →
    0 < (b.emitAll es).capacity → (b.emitAll es).queue.length ≤ (b.emitAll es).capacity
  | [], _, h => h
  | e :: es, b, h => by
      refine length_queue_emitAll es (b := b.emit e) fun hc => ?_
      rw [capacity_emit] at hc ⊢
      rw [queue_emit]
      split
      · exact h hc
      next hroom =>
        rw [isFull_iff, HasNoRoom] at hroom
        rw [List.length_append, List.length_singleton]
        push_cast
        omega

/-- A bus that has counted some more events as handed out, to everybody or not, and some more
    failures. -/
def tally (b : Bus η δ) (handed aborted failed : Nat) : Bus η δ :=
  { b with counts := { b.counts with
      processed := b.counts.processed + handed
      aborted := b.counts.aborted + aborted
      failures := b.counts.failures + failed } }

theorem tally_tally (b : Bus η δ) (l m n l' m' n' : Nat) :
    (b.tally l m n).tally l' m' n' = b.tally (l + l') (m + m') (n + n') := by
  unfold tally
  simp only [Nat.add_assoc]

theorem conclude_eq (b : Bus η δ) (whole : Bool) :
    b.conclude whole = b.tally (if whole then 1 else 0) (if whole then 0 else 1) 0 := by
  cases whole with
  | _ => rfl

theorem emit_tally (b : Bus η δ) (l m n : Nat) (e : Event δ) :
    (b.tally l m n).emit e = (b.emit e).tally l m n := by
  have hfull : (b.tally l m n).isFull = b.isFull := rfl
  unfold emit
  rw [hfull]
  split
  · rfl
  · rfl

theorem emitAll_tally (l m n : Nat) : ∀ (es : List (Event δ)) (b : Bus η δ),
    (b.tally l m n).emitAll es = (b.emitAll es).tally l m n
  | [], _ => rfl
  | e :: es, b => by
      show ((b.tally l m n).emit e).emitAll es = _
      rw [emit_tally, emitAll_tally l m n es]
      rfl

theorem emitAll_append (b : Bus η δ) (es more : List (Event δ)) :
    b.emitAll (es ++ more) = (b.emitAll es).emitAll more := List.foldl_append

/-! ## 2. Receiving -/

/-- **Some subscribers receive an event one after the other**: the world behind them, and what each
    of them did. -/
def hear (a : Audience ω η δ) (e : Event δ) : List η → ω → ω × List (Receipt η δ)
  | [], w => (w, [])
  | h :: hs, w =>
    let r := a.receive h e w
    let behind := hear a e hs r.world
    (behind.1, ⟨h, e, r.emitted, r.upshot⟩ :: behind.2)

/-- What was published by those that received an event. -/
def published (rs : List (Receipt η δ)) : List (Event δ) := rs.flatMap (·.emitted)

/-- How many of those failed that received an event. -/
def failures (rs : List (Receipt η δ)) : Nat := rs.countP fun r => r.upshot = .failed

theorem failures_cons (r : Receipt η δ) (rs : List (Receipt η δ)) :
    failures (r :: rs) = (if r.upshot = .failed then 1 else 0) + failures rs := by
  rw [failures, List.countP_cons, Nat.add_comm]
  simp only [decide_eq_true_eq]
  rfl

variable {a : Audience ω η δ} {e : Event δ}

theorem map_listener_hear : ∀ (hs : List η) (w : ω), (hear a e hs w).2.map (·.listener) = hs
  | [], _ => rfl
  | _ :: hs, _ => congrArg _ (map_listener_hear hs _)

theorem event_of_mem_hear : ∀ (hs : List η) (w : ω), ∀ r ∈ (hear a e hs w).2, r.event = e
  | [], _, _, hr => absurd hr List.not_mem_nil
  | _ :: hs, _, _, hr => by
      rcases List.mem_cons.mp hr with rfl | hr
      · rfl
      · exact event_of_mem_hear hs _ _ hr

/-- Nobody comes back while an event is received. -/
theorem alive_of_hear (ha : a.Wanes) : ∀ (hs : List η) (w : ω) {x : η},
    a.isAlive (hear a e hs w).1 x = true → a.isAlive w x = true
  | [], _, _, hx => hx
  | h :: hs, w, x, hx => ha h e w x (alive_of_hear ha hs _ hx)

/-- **Subscribers that act on an event one after the other** leave behind what they heard, and what
    they published in this order. -/
theorem foldl_hand_eq : ∀ (hs : List η) (w : ω) (b : Bus η δ), hs.foldl (hand a e) (w, b) =
    ((hear a e hs w).1, b.emitAll (published (hear a e hs w).2))
  | [], _, _ => rfl
  | h :: hs, w, b => by
      show hs.foldl (hand a e) ((a.receive h e w).world, b.emitAll (a.receive h e w).emitted) = _
      rw [foldl_hand_eq hs, ← emitAll_append]
      rfl

/-- Where they are waited for, their failures are counted. -/
theorem foldl_give_eq : ∀ (hs : List η) (w : ω) (b : Bus η δ), hs.foldl (give a e) (w, b) =
    ((hear a e hs w).1,
      (b.emitAll (published (hear a e hs w).2)).tally 0 0 (failures (hear a e hs w).2))
  | [], _, _ => rfl
  | h :: hs, w, b => by
      let failed := if (a.receive h e w).upshot = .failed then 1 else 0
      have hgive : give a e (w, b) h = ((a.receive h e w).world,
          (b.emitAll (a.receive h e w).emitted).tally 0 0 failed) := rfl
      show hs.foldl (give a e) (give a e (w, b) h) = _
      rw [hgive, foldl_give_eq hs, emitAll_tally, tally_tally, ← emitAll_append]
      show _ = ((hear a e hs (a.receive h e w).world).1,
        (b.emitAll _).tally 0 0 (failures (_ :: _)))
      rw [failures_cons]
      rfl

/-- **A step hands the first event out**: who is gone is forgotten, those that are called receive
    it, and what they publish is published behind what waits already. -/
theorem step_cons {w : ω} {b : Bus η δ} {rest : List (Event δ)} {hs : List η} {whole : Bool}
    (hq : b.queue = e :: rest) (hcalls : calls a w b e = (hs, whole)) :
    step a (w, b) =
      let heard := hear a e (inTurn a w hs) w
      (heard.1, ((forget a w { b with queue := rest } e.topic).emitAll (published heard.2)).tally
        (if whole then 1 else 0) (if whole then 0 else 1)
        (if whole then failures heard.2 else 0)) := by
  rw [step_of_calls hq hcalls]
  dsimp only
  rw [conclude_eq]
  cases whole with
  | true =>
      rw [if_pos rfl, foldl_give_eq, tally_tally, Nat.zero_add]
      rfl
  | false =>
      rw [if_neg Bool.false_ne_true, foldl_hand_eq]
      rfl

end Bus

end Worklog
