import Mathlib.Data.List.Perm.Basic
import Worklog.Proofs.Bus.Delivery

/-!
# The subscriptions that a bus keeps

A bus keeps its subscribers pattern by pattern, and forgets who is gone. Read as a list of pairs of
a pattern and a subscriber, the table follows the subscriptions up to their order, as far as the
subscribers are there:

* `Bus.pairs`, `Bus.listeners_eq`: the subscriptions in the table, and who listens to a topic;
* `Bus.count_listeners_subscribe`: how often somebody listens, after one more subscription;
* `Bus.Keeps`: a bus keeps some subscriptions; `Bus.Keeps.subscribe`, `Bus.Keeps.unsubscribe`,
  `Bus.Keeps.forget`, `Bus.Keeps.wane`: **and goes on to keep them** with whatever happens.
-/

namespace Worklog.Bus

variable {ω η δ : Type} {a : Audience ω η δ}

/-! ## 1. Tables of subscribers -/

/-- The subscriptions in a table of subscribers, pattern by pattern. -/
def pairs (t : Table Text (List η)) : List (Text × η) := t.flatMap fun s => s.2.map (s.1, ·)

/-- The subscriptions that a bus keeps. -/
def subscriptions (b : Bus η δ) : List (Text × η) := pairs b.subscribers

theorem pairs_cons (s : Text × List η) (t : Table Text (List η)) :
    pairs (s :: t) = s.2.map (s.1, ·) ++ pairs t := List.flatMap_cons

theorem pairs_append (t u : Table Text (List η)) : pairs (t ++ u) = pairs t ++ pairs u :=
  List.flatMap_append

/-- Who listens to a topic has a subscription to a pattern that matches it. -/
theorem listeners_eq (b : Bus η δ) (topic : Option Text) : b.listeners topic =
    (b.subscriptions.filter fun x => Topic.isMatch x.1 topic).map (·.2) := by
  unfold listeners subscriptions
  induction b.subscribers with
  | nil => rfl
  | cons s t ih =>
      rw [pairs_cons, List.filter_append, List.map_append, ← ih, List.filter_map, List.map_map,
        List.filter_cons]
      by_cases hm : Topic.isMatch s.1 topic = true
      · have hall : s.2.filter ((fun x => Topic.isMatch x.1 topic) ∘ fun h => (s.1, h)) = s.2 :=
          List.filter_eq_self.mpr fun _ _ => hm
        rw [if_pos hm, hall, List.flatMap_cons]
        exact congrArg (· ++ _) (List.map_id' s.2).symm
      · have hnone : s.2.filter ((fun x => Topic.isMatch x.1 topic) ∘ fun h => (s.1, h)) = [] :=
          List.filter_eq_nil_iff.mpr fun _ _ => hm
        rw [if_neg hm, hnone]
        rfl

section Pairs

variable {t : Table Text (List η)} {pattern : Text}

theorem mem_keys_of_mem_pairs {x : Text × η} (h : x ∈ pairs t) : x.1 ∈ t.keys := by
  obtain ⟨s, hs, hx⟩ := List.mem_flatMap.mp h
  obtain ⟨y, -, rfl⟩ := List.mem_map.mp hx
  exact List.mem_map_of_mem hs

/-- Writing the subscribers of a pattern leaves all other subscriptions as they are. -/
theorem perm_pairs_put (hs : List η) : ∀ {t : Table Text (List η)}, t.keys.Nodup →
    (pairs (t.put pattern hs)).Perm
      ((pairs t).filter (fun x => decide (x.1 ≠ pattern)) ++ hs.map (pattern, ·))
  | [], _ => .of_eq (List.append_nil _)
  | (k, ks) :: t, ht => by
      rw [Table.keys_cons, List.nodup_cons] at ht
      rw [Table.put, pairs_cons, List.filter_append]
      by_cases hk : k = pattern
      · subst hk
        have hnone : (ks.map (k, ·)).filter (fun x => decide (x.1 ≠ k)) = [] :=
          List.filter_eq_nil_iff.mpr fun x hx => by
            obtain ⟨y, -, rfl⟩ := List.mem_map.mp hx
            simp
        have hall : (pairs t).filter (fun x => decide (x.1 ≠ k)) = pairs t :=
          List.filter_eq_self.mpr fun x hx => decide_eq_true fun he =>
            ht.1 (he ▸ mem_keys_of_mem_pairs hx)
        rw [if_pos rfl, pairs_cons, hnone, hall]
        exact List.perm_append_comm
      · have hall : (ks.map (k, ·)).filter (fun x => decide (x.1 ≠ pattern)) = ks.map (k, ·) :=
          List.filter_eq_self.mpr fun x hx => by
            obtain ⟨y, -, rfl⟩ := List.mem_map.mp hx
            exact decide_eq_true hk
        rw [if_neg hk, pairs_cons, hall, List.append_assoc]
        exact (perm_pairs_put hs ht.2).append_left _

/-- The subscriptions to a pattern are those of its subscribers. -/
theorem filter_pairs (ht : t.keys.Nodup) :
    (pairs t).filter (fun x => !decide (x.1 ≠ pattern)) = (t.getD pattern []).map (pattern, ·) := by
  induction t with
  | nil => rfl
  | cons s t ih =>
      obtain ⟨k, ks⟩ := s
      rw [Table.keys_cons, List.nodup_cons] at ht
      rw [pairs_cons, List.filter_append, ih ht.2]
      by_cases hk : k = pattern
      · subst hk
        have hall : (ks.map (k, ·)).filter (fun x => !decide (x.1 ≠ k)) = ks.map (k, ·) :=
          List.filter_eq_self.mpr fun x hx => by
            obtain ⟨y, -, rfl⟩ := List.mem_map.mp hx
            simp
        have hget : Table.get? k t = none := Table.get?_eq_none_iff.mpr ht.1
        rw [hall]
        simp [Table.getD, Table.get?, hget]
      · have hnone : (ks.map (k, ·)).filter (fun x => !decide (x.1 ≠ pattern)) = [] :=
          List.filter_eq_nil_iff.mpr fun x hx => by
            obtain ⟨y, -, rfl⟩ := List.mem_map.mp hx
            simp [hk]
        rw [hnone]
        simp [Table.getD, Table.get?, hk]

end Pairs

/-- **Subscribing adds one subscription**, and leaves all others as they are. -/
theorem perm_subscriptions_subscribe {b : Bus η δ} (h : b.subscribers.keys.Nodup) (pattern : Text)
    (x : η) : (b.subscribe pattern x).subscriptions.Perm (b.subscriptions ++ [(pattern, x)]) := by
  refine (perm_pairs_put _ h).trans ?_
  rw [List.map_append, ← filter_pairs h, ← List.append_assoc]
  exact (List.filter_append_perm _ _).append_right _

/-- A subscriber listens once more to what matches the pattern, and nothing else changes. -/
theorem count_listeners_subscribe [DecidableEq η] {b : Bus η δ} (h : b.subscribers.keys.Nodup)
    (pattern : Text) (x y : η) (topic : Option Text) :
    ((b.subscribe pattern x).listeners topic).count y = (b.listeners topic).count y +
      if Topic.isMatch pattern topic = true ∧ x = y then 1 else 0 := by
  have hperm := ((perm_subscriptions_subscribe h pattern x).filter
    fun s => Topic.isMatch s.1 topic).map Prod.snd
  rw [listeners_eq, listeners_eq, hperm.count_eq, List.filter_append, List.map_append,
    List.count_append]
  refine congrArg (List.count y _ + ·) ?_
  by_cases hm : Topic.isMatch pattern topic = true
  · by_cases hx : x = y
    · simp [hm, hx]
    · simp [hm, hx]
  · simp [hm]

/-! ## 2. What a bus keeps -/

/-- Whether the subscriber of a subscription is there. -/
def isThere (a : Audience ω η δ) (w : ω) (x : Text × η) : Bool := a.isAlive w x.2

/-- Patterns stay, even if nobody is left that subscribed to them. -/
theorem keys_forget (a : Audience ω η δ) (w : ω) (b : Bus η δ) (topic : Option Text) :
    (forget a w b topic).subscribers.keys = b.subscribers.keys := by
  obtain ⟨before, behind, hparts, hforget⟩ := exists_forget a w b topic
  rw [hforget, hparts]
  unfold Table.keys
  rw [List.map_append, List.map_append, List.map_map]
  refine congrArg (· ++ _) (List.map_congr_left fun s _ => ?_)
  unfold clear
  dsimp only [Function.comp_apply]
  split
  · rfl
  · rfl

/-- Who is there is not cleared away. -/
theorem filter_pairs_clear (a : Audience ω η δ) (w : ω) (topic : Option Text) :
    ∀ t : Table Text (List η), (pairs (t.map (clear a w topic))).filter (isThere a w) =
      (pairs t).filter (isThere a w)
  | [] => rfl
  | s :: t => by
      rw [List.map_cons, pairs_cons, pairs_cons, List.filter_append, List.filter_append,
        filter_pairs_clear a w topic t]
      refine congrArg (· ++ _) ?_
      unfold clear
      split
      · rw [List.filter_map, List.filter_map, List.filter_filter]
        refine congrArg _ (List.filter_congr fun x _ => ?_)
        exact Bool.and_self _
      · rfl

/-- **A bus keeps some subscriptions**, as far as their subscribers are there. -/
structure Keeps (a : Audience ω η δ) (w : ω) (b : Bus η δ) (subs : List (Text × η)) : Prop where
  nodup : b.subscribers.keys.Nodup
  perm : (b.subscriptions.filter (isThere a w)).Perm (subs.filter (isThere a w))

namespace Keeps

variable {w w' : ω} {b : Bus η δ} {subs : List (Text × η)}

/-- A bus whose subscribers go still keeps what is left. -/
theorem wane (h : Keeps a w b subs) (hw : ∀ x, a.isAlive w' x = true → a.isAlive w x = true) :
    Keeps a w' b subs := by
  have hfilter : ∀ l : List (Text × η),
      (l.filter (isThere a w)).filter (isThere a w') = l.filter (isThere a w') := fun l => by
    rw [List.filter_filter]
    refine List.filter_congr fun x _ => ?_
    cases hx : isThere a w' x with
    | false => rfl
    | true => exact hw x.2 hx
  refine ⟨h.nodup, ?_⟩
  rw [← hfilter, ← hfilter subs]
  exact h.perm.filter _

/-- Who is gone need not be kept. -/
theorem forget (h : Keeps a w b subs) (topic : Option Text) :
    Keeps a w (b.forget a w topic) subs := by
  refine ⟨keys_forget a w b topic ▸ h.nodup, ?_⟩
  obtain ⟨before, behind, hparts, hforget⟩ := exists_forget a w b topic
  refine .trans (.of_eq ?_) h.perm
  unfold subscriptions
  rw [hforget, hparts, pairs_append, pairs_append, List.filter_append, List.filter_append,
    filter_pairs_clear]

theorem subscribe (h : Keeps a w b subs) (pattern : Text) (x : η) :
    Keeps a w (b.subscribe pattern x) (subs ++ [(pattern, x)]) := by
  refine ⟨Table.nodup_keys_put h.nodup, ?_⟩
  refine ((perm_subscriptions_subscribe h.nodup pattern x).filter _).trans ?_
  rw [List.filter_append, List.filter_append]
  exact h.perm.append_right _

/-- Ending the subscriptions of `x` to a pattern ends no other; those to the pattern whose
    subscribers are gone are forgotten. -/
theorem unsubscribe [DecidableEq η] (h : Keeps a w b subs) (pattern : Text) (x : η) :
    Keeps a w (b.unsubscribe (a.isAlive w) pattern x)
      (subs.filter fun s => decide (s ≠ (pattern, x))) := by
  refine ⟨Table.nodup_keys_put h.nodup, ?_⟩
  let stays : Text × η → Bool := fun s => isThere a w s && decide (s.2 ≠ x)
  have hstay : ((b.subscribers.getD pattern []).filter
      fun s => a.isAlive w s && decide (s ≠ x)).map (pattern, ·) =
        (b.subscriptions.filter fun s => !decide (s.1 ≠ pattern)).filter stays := by
    unfold subscriptions
    rw [filter_pairs h.nodup, List.filter_map]
    rfl
  have hput : (b.unsubscribe (a.isAlive w) pattern x).subscriptions.Perm _ :=
    perm_pairs_put _ h.nodup
  rw [hstay] at hput
  -- a subscription is left in place if it is to another pattern, or if it stays
  have hleft : (b.unsubscribe (a.isAlive w) pattern x).subscriptions.Perm
      (b.subscriptions.filter fun s => decide (s.1 ≠ pattern) || stays s) := by
    refine hput.trans ?_
    have hparts := List.filter_append_perm (fun s => decide (s.1 ≠ pattern))
      (b.subscriptions.filter fun s => decide (s.1 ≠ pattern) || stays s)
    refine .trans (.of_eq ?_) hparts
    rw [List.filter_filter, List.filter_filter, List.filter_filter]
    refine congrArg₂ _ (List.filter_congr fun s _ => ?_) (List.filter_congr fun s _ => ?_)
    · cases decide (s.1 ≠ pattern) <;> rfl
    · cases decide (s.1 ≠ pattern) <;> simp
  have hsame : (b.subscriptions.filter fun s => decide (s.1 ≠ pattern) || stays s).filter
      (isThere a w) =
        (b.subscriptions.filter (isThere a w)).filter fun s => decide (s ≠ (pattern, x)) := by
    rw [List.filter_filter, List.filter_filter]
    refine List.filter_congr fun s _ => ?_
    cases hs : isThere a w s with
    | false => simp
    | true => simp [stays, hs, Prod.ext_iff, imp_iff_not_or]
  refine (hleft.filter _).trans ?_
  rw [hsame]
  exact (h.perm.filter _).trans (.of_eq (List.filter_comm ..))

end Keeps

end Worklog.Bus
