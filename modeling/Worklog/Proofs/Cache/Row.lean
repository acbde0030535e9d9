import Mathlib.Algebra.Order.Field.Rat
import Mathlib.Data.List.DropRight
import Mathlib.Data.List.Nodup
import Worklog.Cache

/-!
# Rows of entries

Where times are exact and the clock does not go back, entries stand in the order in which they were
made: what has expired comes first, and what lasts is a stretch at the end. So it does not matter
whether the latest entries are taken first or those that last.

* `Cache.IsRow`: entries under distinct keys, made one after the other;
* **`Cache.exists_expired_append`**: the expired entries of a row come first;
* **`Cache.rtake_lasting`**: the latest of those that last are those that last of the latest;
* `Cache.rtake_without`: taking a key out and keeping the latest.
-/

namespace Worklog

/-! ## 1. Ages -/

theorem Precision.exact_minus_finite (x y : Rat) :
    Precision.exact.minus (.finite x) (.finite y) = .finite (x - y) := by
  unfold Precision.minus Quantity.neg
  dsimp only
  split
  next hy =>
    show Precision.exact.quantity (x + 0) = _
    rw [Precision.exact_quantity, hy, sub_zero, add_zero]
  next => rw [Precision.exact_plus_finite, sub_eq_add_neg]

namespace Quantity

/-- What is below a number is below every greater number. -/
theorem lt_finite_of_le {q : Quantity} {x y : Rat} (h : x ≤ y) (hq : q.lt (.finite x) = true) :
    q.lt (.finite y) = true := by
  cases q with
  | finite z =>
      rw [lt_finite] at hq ⊢
      exact decide_eq_true (lt_of_lt_of_le (of_decide_eq_true hq) h)
  | negZero =>
      simp only [lt, place, isBefore, lt_irrefl, decide_false, BEq.rfl, Bool.true_and,
        Bool.false_or] at hq ⊢
      exact decide_eq_true (lt_of_lt_of_le (of_decide_eq_true hq) h)
  | infinite negative =>
      cases negative
      · simp [lt, place, isBefore] at hq
      · rfl
  | undefined => exact hq

/-- Of a number and what is a number too, one is below the other or they are equal. -/
theorem finite_le_iff_not_lt {q : Quantity} (hq : q ≠ .undefined) (x : Rat) :
    (finite x).le q = !q.lt (.finite x) := by
  cases q with
  | finite z => simp [← not_lt]
  | negZero =>
      have hle : (x < 0 ∨ x = 0) = ¬ 0 < x := propext (le_iff_lt_or_eq.symm.trans not_lt.symm)
      simp [le, lt, same, place, isBefore, ← Bool.decide_or, ← decide_not, hle]
  | infinite negative => cases negative <;> simp [le, lt, same, place, isBefore]
  | undefined => exact absurd rfl hq

end Quantity

namespace Cache

/-- The entries that last, of those that were kept for a lifetime. -/
def lasting (lifetime : Amount) (now : Rat) (es : List CacheEntry) : List CacheEntry :=
  es.filter fun e => !lifetime.lt (.real (Precision.exact.minus (.finite now) e.created))

/-- **A row of entries**: under distinct keys, one after the other, until now. -/
structure IsRow (now : Rat) (es : List CacheEntry) : Prop where
  nodup : (es.map (·.key)).Nodup
  dated : ∀ e ∈ es, ∃ t ≤ now, e.created = .finite t
  sorted : es.Pairwise fun d e => d.created.value ≤ e.created.value

variable {lifetime : Amount} {now later : Rat} {es fs : List CacheEntry}

/-! ## 2. What lasts -/

theorem mem_lasting {e : CacheEntry} : e ∈ lasting lifetime now es ↔ e ∈ es ∧
    lifetime.lt (.real (Precision.exact.minus (.finite now) e.created)) = false := by
  simp [lasting, List.mem_filter]

theorem lasting_append : lasting lifetime now (es ++ fs) =
    lasting lifetime now es ++ lasting lifetime now fs := List.filter_append ..

/-- What lasts for some time lasted before. -/
theorem lasting_lasting (hrow : IsRow now es) (h : now ≤ later) :
    lasting lifetime later (lasting lifetime now es) = lasting lifetime later es := by
  unfold lasting
  rw [List.filter_filter]
  refine List.filter_congr fun e he => ?_
  obtain ⟨t, -, ht⟩ := hrow.dated e he
  rw [ht, Precision.exact_minus_finite, Precision.exact_minus_finite]
  cases hnow : lifetime.lt (.real (.finite (now - t))) with
  | false => exact Bool.and_true _
  | true =>
      have hlater : lifetime.lt (.real (.finite (later - t))) = true :=
        Quantity.lt_finite_of_le (sub_le_sub_right h t) hnow
      rw [hlater]
      rfl

namespace IsRow

theorem nil (now : Rat) : IsRow now [] :=
  ⟨List.nodup_nil, fun _ he => absurd he List.not_mem_nil, List.Pairwise.nil⟩

theorem sublist (h : IsRow now es) (hs : fs.Sublist es) : IsRow now fs :=
  ⟨h.nodup.sublist (hs.map _), fun e he => h.dated e (hs.subset he), h.sorted.sublist hs⟩

theorem wait (h : IsRow now es) (hle : now ≤ later) : IsRow later es :=
  ⟨h.nodup, fun e he => (h.dated e he).imp fun _ ht => ⟨ht.1.trans hle, ht.2⟩, h.sorted⟩

/-- A row goes on with an entry that is made now. -/
theorem concat (h : IsRow now es) {key : CacheKey} (hkey : key ∉ es.map (·.key)) (r : Results) :
    IsRow now (es ++ [⟨key, r, .finite now⟩]) where
  nodup := by
    rw [List.map_append]
    refine List.nodup_append.mpr ⟨h.nodup, List.nodup_singleton _, fun k hk l hl heq => hkey ?_⟩
    rw [List.map_singleton, List.mem_singleton] at hl
    rwa [heq, hl] at hk
  dated := fun e he => by
    rcases List.mem_append.mp he with he | he
    · exact h.dated e he
    · rw [List.mem_singleton.mp he]
      exact ⟨now, le_refl now, rfl⟩
  sorted := by
    refine List.pairwise_append.mpr ⟨h.sorted, List.pairwise_singleton _ _, fun d hd e he => ?_⟩
    obtain ⟨t, ht, hcreated⟩ := h.dated d hd
    rw [List.mem_singleton.mp he, hcreated]
    exact ht

/-- Where what is made now has expired, nothing lasts. -/
theorem lasting_eq_nil (h : IsRow now es)
    (hnow : lifetime.lt (.real (Precision.exact.minus (.finite now) (.finite now))) = true) :
    lasting lifetime now es = [] :=
  List.filter_eq_nil_iff.mpr fun e he => by
    obtain ⟨t, ht, hcreated⟩ := h.dated e he
    have hexpired : lifetime.lt (.real (.finite (now - t))) = true := by
      rw [Precision.exact_minus_finite] at hnow
      exact Quantity.lt_finite_of_le (sub_le_sub_left ht now) hnow
    rw [hcreated, Precision.exact_minus_finite, hexpired]
    decide

end IsRow

/-- Of what is made one after the other, what has expired comes first. -/
theorem expired_of_sorted {d e : CacheEntry} (h : IsRow now (d :: es)) (he : e ∈ es)
    (hexpired : lifetime.lt (.real (Precision.exact.minus (.finite now) e.created)) = true) :
    lifetime.lt (.real (Precision.exact.minus (.finite now) d.created)) = true := by
  obtain ⟨s, -, hs⟩ := h.dated d List.mem_cons_self
  obtain ⟨t, -, ht⟩ := h.dated e (List.mem_cons_of_mem d he)
  have hle := (List.pairwise_cons.mp h.sorted).1 e he
  rw [hs, ht] at hle
  rw [hs, Precision.exact_minus_finite]
  rw [ht, Precision.exact_minus_finite] at hexpired
  exact Quantity.lt_finite_of_le (sub_le_sub_left hle now) hexpired

/-- **What has expired comes first.** -/
theorem exists_expired_append (lifetime : Amount) (h : IsRow now es) :
    ∃ gone, es = gone ++ lasting lifetime now es ∧
      ∀ e ∈ gone, lifetime.lt (.real (Precision.exact.minus (.finite now) e.created)) = true := by
  induction es with
  | nil => exact ⟨[], rfl, fun _ he => absurd he List.not_mem_nil⟩
  | cons e es ih =>
      obtain ⟨gone, hsplit, hgone⟩ := ih (h.sublist (List.sublist_cons_self e es))
      cases he : lifetime.lt (.real (Precision.exact.minus (.finite now) e.created)) with
      | true =>
          have hrest : lasting lifetime now (e :: es) = lasting lifetime now es :=
            List.filter_cons_of_neg (by rw [he]; decide)
          refine ⟨e :: gone, ?_, List.forall_mem_cons.mpr ⟨he, hgone⟩⟩
          rw [hrest, List.cons_append, ← hsplit]
      | false =>
          have hall : lasting lifetime now (e :: es) = e :: es :=
            List.filter_eq_self.mpr fun d hd => by
              rcases List.mem_cons.mp hd with rfl | hd
              · rw [he]
                rfl
              · rw [Bool.not_eq_true', Bool.eq_false_iff]
                exact fun hd' => Bool.eq_false_iff.mp he (expired_of_sorted h hd hd')
          exact ⟨[], hall.symm, fun _ hd => absurd hd List.not_mem_nil⟩

/-! ## 3. The latest -/

section Latest

variable {α : Type}

theorem rtake_append (xs ys : List α) (n : Nat) :
    (xs ++ ys).rtake n = xs.rtake (n - ys.length) ++ ys.rtake n := by
  have hfront : xs.drop (xs.length + ys.length - n) =
      xs.drop (xs.length - (n - ys.length)) := by
    by_cases hn : n ≤ ys.length
    · have hall : xs.length ≤ xs.length + ys.length - n := by omega
      have hall' : xs.length ≤ xs.length - (n - ys.length) := by omega
      rw [List.drop_eq_nil_of_le hall, List.drop_eq_nil_of_le hall']
    · have hsame : xs.length + ys.length - n = xs.length - (n - ys.length) := by omega
      rw [hsame]
  have hback : xs.length + ys.length - n - xs.length = ys.length - n := by omega
  unfold List.rtake
  rw [List.drop_append, List.length_append, hback, hfront]

theorem rtake_of_length_le {xs : List α} {n : Nat} (h : xs.length ≤ n) : xs.rtake n = xs := by
  unfold List.rtake
  rw [Nat.sub_eq_zero_of_le h, List.drop_zero]

theorem length_rtake (xs : List α) (n : Nat) : (xs.rtake n).length = min n xs.length := by
  unfold List.rtake
  rw [List.length_drop]
  omega

theorem rdrop_append_rtake (xs : List α) (n : Nat) : xs.rdrop n ++ xs.rtake n = xs :=
  List.take_append_drop _ _

/-- An item is among the latest if and only if few others came behind it. -/
theorem mem_rtake_iff {xs ys : List α} {x : α} (h : (xs ++ x :: ys).Nodup) {n : Nat} :
    x ∈ (xs ++ x :: ys).rtake n ↔ ys.length < n := by
  obtain ⟨-, hback, hapart⟩ := List.nodup_append.mp h
  have hys : x ∉ ys := (List.nodup_cons.mp hback).1
  have hxs : x ∉ xs := fun hx => hapart x hx x List.mem_cons_self rfl
  rw [rtake_append, List.mem_append]
  constructor
  · rintro (hx | hx)
    · exact absurd (List.mem_of_mem_drop hx) hxs
    · by_contra hn
      have hdrop : (x :: ys).rtake n = ys.drop (ys.length - n) := by
        have hlength : (x :: ys).length - n = ys.length - n + 1 := by
          rw [List.length_cons]
          omega
        unfold List.rtake
        rw [hlength, List.drop_succ_cons]
      rw [hdrop] at hx
      exact hys (List.mem_of_mem_drop hx)
  · intro hn
    refine Or.inr ?_
    rw [rtake_of_length_le (by rw [List.length_cons]; omega)]
    exact List.mem_cons_self

end Latest

/-- **The latest of what lasts** is what lasts of the latest. -/
theorem rtake_lasting (h : IsRow now es) (n : Nat) :
    lasting lifetime now (es.rtake n) = (lasting lifetime now es).rtake n := by
  obtain ⟨gone, hsplit, hgone⟩ := exists_expired_append lifetime h
  generalize hlast : lasting lifetime now es = last at hsplit ⊢
  have hstays : ∀ xs : List CacheEntry, xs.Sublist last → lasting lifetime now xs = xs :=
    fun xs hxs => List.filter_eq_self.mpr fun e he => by
      have hmem := hxs.subset he
      rw [← hlast] at hmem
      rw [(mem_lasting.mp hmem).2]
      rfl
  have hnone : lasting lifetime now (gone.rtake (n - last.length)) = [] :=
    List.filter_eq_nil_iff.mpr fun e he => by
      rw [hgone e (List.mem_of_mem_drop he)]
      decide
  have hall : lasting lifetime now (last.rtake n) = last.rtake n :=
    hstays _ (List.drop_sublist _ _)
  rw [hsplit, rtake_append, lasting_append, hnone, hall, List.nil_append]

/-! ## 4. Other keys -/

/-- The entries under other keys. -/
def without (key : CacheKey) (es : List CacheEntry) : List CacheEntry :=
  es.filter fun e => decide (e.key ≠ key)

variable {key : CacheKey}

theorem map_key_without (h : (es.map (·.key)).Nodup) :
    (without key es).map (·.key) = (es.map (·.key)).erase key := by
  unfold without
  rw [h.erase_eq_filter, List.filter_map]
  refine congrArg _ (List.filter_congr fun e _ => ?_)
  by_cases hk : e.key = key <;> simp [hk]

/-- What is not there need not be taken out. -/
theorem without_of_notMem (h : key ∉ es.map (·.key)) : without key es = es :=
  List.filter_eq_self.mpr fun e he => decide_eq_true fun hkey =>
    h (List.mem_map.mpr ⟨e, he, hkey⟩)

theorem notMem_without (key : CacheKey) (es : List CacheEntry) :
    key ∉ (without key es).map (·.key) := by
  intro h
  obtain ⟨e, he, hkey⟩ := List.mem_map.mp h
  exact of_decide_eq_true (List.mem_filter.mp he).2 hkey

theorem lasting_without (lifetime : Amount) (now : Rat) (key : CacheKey) (es : List CacheEntry) :
    lasting lifetime now (without key es) = without key (lasting lifetime now es) :=
  List.filter_comm ..

/-- Under each key there is one entry at most. -/
theorem length_le_without (h : (es.map (·.key)).Nodup) :
    es.length ≤ (without key es).length + 1 := by
  have hkeys : (without key es).map (·.key) = (es.map (·.key)).erase key := map_key_without h
  have hlength := congrArg List.length hkeys
  rw [List.length_map, List.length_erase, List.length_map] at hlength
  split at hlength <;> omega

/-- **The latest under other keys** are among the latest, of which there is one more. -/
theorem rtake_without (h : (es.map (·.key)).Nodup) (n : Nat) :
    (without key (es.rtake (n + 1))).rtake n = (without key es).rtake n := by
  have hlast : ((es.rtake (n + 1)).map (·.key)).Nodup := h.sublist ((List.drop_sublist _ _).map _)
  have hwithout : without key es =
      without key (es.rdrop (n + 1)) ++ without key (es.rtake (n + 1)) := by
    unfold without
    rw [← List.filter_append, rdrop_append_rtake]
  rw [hwithout, rtake_append]
  by_cases hn : es.length ≤ n + 1
  · have hnone : es.rdrop (n + 1) = [] := by
      unfold List.rdrop
      rw [Nat.sub_eq_zero_of_le hn, List.take_zero]
    have hempty : without key [] = [] := rfl
    rw [hnone, hempty, List.rtake_nil, List.nil_append]
  · have hmany : n ≤ (without key (es.rtake (n + 1))).length := by
      have hle : (es.rtake (n + 1)).length ≤ (without key (es.rtake (n + 1))).length + 1 :=
        length_le_without hlast
      rw [length_rtake] at hle
      omega
    rw [Nat.sub_eq_zero_of_le hmany, List.rtake_zero, List.nil_append]

end Cache

end Worklog
