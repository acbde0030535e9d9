import Mathlib.Data.List.DropRight
import Mathlib.Data.List.Perm.Lattice
import Mathlib.Data.List.Nodup
import Worklog.Table

/-!
# Tables with distinct keys, tallies of lists, windows

A table is a list of entries, and nothing in its type forbids a key that occurs twice. Writing and
erasing keep keys distinct, and between tables with distinct keys the look-up decides everything
but the order:

* `Table.get?_eq_some_iff`: what is looked up is what is entered;
* `Table.perm_of_get?`: **tables that answer alike have the same entries**.

A tally is read as the list of items it counts (`Tally.Counts`): no key twice, and under each key
the number of times it occurs in the list, with no entry for what does not occur. Counting up and
down are then adding an item and taking one away, and tallies of permuted lists answer alike.

What a window shows of a list is a part of it (`front_sublist`, `mem_of_itemAt?`), and a list that
was cut for a new item need not be cut again (`front_front`). The latest items of a list, so many of
them (`List.rtake`), are what `pushLatest` keeps (`pushLatest_rtake`) and what `back` shows
(`back_of_pos`), unless none of them is asked for: then `back` shows all (`back_zero`).
-/

namespace Worklog

/-- Dropping repetitions leaves none. -/
theorem nodup_eraseDups {α : Type} [BEq α] [LawfulBEq α] : ∀ l : List α, l.eraseDups.Nodup
  | [] => List.nodup_nil
  | a :: l => by
      rw [List.eraseDups_cons, List.nodup_cons]
      refine ⟨fun h => ?_, nodup_eraseDups _⟩
      have hm := List.mem_eraseDups.mp h
      simp at hm
  termination_by l => l.length
  decreasing_by
    exact Nat.lt_succ_of_le (List.length_filter_le _ _)

/-! ## 1. Distinct keys -/

namespace Table

variable {κ α : Type}

@[simp] theorem keys_nil : keys ([] : Table κ α) = [] := rfl

@[simp] theorem keys_cons (e : κ × α) (t : Table κ α) : keys (e :: t) = e.1 :: keys t := rfl

variable [DecidableEq κ] {key : κ} {a : α} {t s : Table κ α}

theorem get?_eq_none_iff : get? key t = none ↔ key ∉ t.keys := by
  induction t with
  | nil => simp
  | cons e t ih =>
      obtain ⟨k, b⟩ := e
      by_cases h : k = key
      · simp [get?, h]
      · simp [get?, h, ih, Ne.symm h]

theorem has_iff_mem_keys : t.has key = true ↔ key ∈ t.keys := by
  rw [has, Option.isSome_iff_ne_none, ne_eq, get?_eq_none_iff, Classical.not_not]

theorem mem_of_get? (h : get? key t = some a) : (key, a) ∈ t := by
  induction t with
  | nil => simp at h
  | cons e t ih =>
      obtain ⟨k, b⟩ := e
      by_cases hk : k = key
      · subst hk
        simp only [get?, if_true, Option.some.injEq] at h
        subst h
        exact List.mem_cons_self
      · simp only [get?, if_neg hk] at h
        exact List.mem_cons_of_mem _ (ih h)

/-- **What is looked up is what is entered.** -/
theorem get?_eq_some_iff (ht : t.keys.Nodup) : get? key t = some a ↔ (key, a) ∈ t := by
  refine ⟨mem_of_get?, fun h => ?_⟩
  induction t with
  | nil => simp at h
  | cons e t ih =>
      obtain ⟨k, b⟩ := e
      simp only [keys_cons, List.nodup_cons] at ht
      rcases List.mem_cons.mp h with he | hm
      · cases he
        simp [get?]
      · have hk : k ≠ key := by
          intro heq
          subst heq
          exact ht.1 (List.mem_map_of_mem hm)
        rw [get?, if_neg hk]
        exact ih ht.2 hm

theorem put_of_notMem (h : key ∉ t.keys) : put key a t = t ++ [(key, a)] := by
  induction t with
  | nil => rfl
  | cons e t ih =>
      obtain ⟨k, b⟩ := e
      simp only [keys_cons, List.mem_cons, not_or] at h
      rw [put, if_neg (Ne.symm h.1), ih h.2]
      rfl

theorem keys_put_of_mem (h : key ∈ t.keys) : keys (put key a t) = t.keys := by
  induction t with
  | nil => simp at h
  | cons e t ih =>
      obtain ⟨k, b⟩ := e
      by_cases hk : k = key
      · simp [put, hk]
      · have hm : key ∈ keys t := by simpa [Ne.symm hk] using h
        simp [put, hk, ih hm]

theorem mem_keys_put {k : κ} : k ∈ (put key a t).keys ↔ k ∈ t.keys ∨ k = key := by
  by_cases h : key ∈ t.keys
  · rw [keys_put_of_mem h]
    exact ⟨Or.inl, fun hk => hk.elim id fun e => e ▸ h⟩
  · rw [put_of_notMem h, keys, List.map_append, List.mem_append, List.map_singleton,
      List.mem_singleton]
    exact Iff.rfl

theorem nodup_keys_put (ht : t.keys.Nodup) : (put key a t).keys.Nodup := by
  by_cases h : key ∈ t.keys
  · rwa [keys_put_of_mem h]
  · rw [put_of_notMem h, keys, List.map_append]
    refine List.nodup_append.mpr ⟨ht, List.nodup_singleton _, fun x hx y hy e => h ?_⟩
    have hy' : y = key := List.mem_singleton.mp hy
    rw [← hy', ← e]
    exact hx

theorem nodup_keys_erase (ht : t.keys.Nodup) : (erase key t).keys.Nodup :=
  ht.sublist (List.filter_sublist.map _)

/-- **Tables that answer alike have the same entries.** -/
theorem perm_of_get? (ht : t.keys.Nodup) (hs : s.keys.Nodup) (h : ∀ k, get? k t = get? k s) :
    t.Perm s := by
  refine (List.perm_ext_iff_of_nodup ht.of_map hs.of_map).mpr fun e => ?_
  obtain ⟨k, a⟩ := e
  rw [← get?_eq_some_iff ht, ← get?_eq_some_iff hs, h k]

end Table

/-! ## 2. Tallies of lists -/

namespace Tally

variable {κ : Type} [DecidableEq κ]

/-- **A tally counts a list**: it has an entry for each item of the list, once, and the entry is
    the number of times the item occurs. -/
structure Counts (t : Tally κ) (items : List κ) : Prop where
  nodup : (Table.keys t).Nodup
  get?_eq : ∀ k, Table.get? k t = if items.count k = 0 then none else some (items.count k)

namespace Counts

variable {t s : Tally κ} {items more : List κ} {key : κ}

theorem nil : Counts ([] : Tally κ) [] := ⟨List.nodup_nil, fun k => by simp⟩

theorem count_eq (h : t.Counts items) (k : κ) : t.count k = items.count k := by
  unfold count Table.getD
  rw [h.get?_eq k]
  split <;> simp_all

theorem mem_keys_iff (h : t.Counts items) : key ∈ Table.keys t ↔ key ∈ items := by
  rw [← Table.has_iff_mem_keys, Table.has, h.get?_eq, ← List.count_pos_iff]
  by_cases h0 : items.count key = 0
  · simp [h0]
  · simp only [if_neg h0, Option.isSome_some, true_iff]
    omega

theorem has_iff (h : t.Counts items) : Table.has key t = true ↔ key ∈ items :=
  Table.has_iff_mem_keys.trans h.mem_keys_iff

theorem of_perm (h : t.Counts items) (hp : items.Perm more) : t.Counts more :=
  ⟨h.nodup, fun k => by rw [h.get?_eq k, hp.count_eq]⟩

/-- Counting up adds an item. -/
theorem up (h : t.Counts items) (key : κ) : (t.up key).Counts (key :: items) := by
  refine ⟨Table.nodup_keys_put h.nodup, fun k => ?_⟩
  rw [Tally.up, Table.get?_put, h.count_eq, h.get?_eq, List.count_cons]
  by_cases hk : key = k
  · subst hk; simp
  · simp [hk]

/-- Counting down takes an item away. -/
theorem down (h : t.Counts (key :: items)) : (t.down key).Counts items := by
  have hc : t.count key = items.count key + 1 := by rw [h.count_eq, List.count_cons_self]
  by_cases h0 : items.count key = 0
  · rw [Tally.down, if_pos (by omega)]
    refine ⟨Table.nodup_keys_erase h.nodup, fun k => ?_⟩
    rw [Table.get?_erase, h.get?_eq, List.count_cons]
    by_cases hk : key = k
    · subst hk; simp [h0]
    · simp [hk]
  · rw [Tally.down, if_neg (by omega)]
    refine ⟨Table.nodup_keys_put h.nodup, fun k => ?_⟩
    rw [Table.get?_put, hc, h.get?_eq, List.count_cons]
    by_cases hk : key = k
    · subst hk; simp [h0]
    · simp [hk]

/-- Tallies of permuted lists answer alike. -/
theorem get?_congr (h : t.Counts items) (h' : s.Counts more) (hp : items.Perm more) (k : κ) :
    Table.get? k t = Table.get? k s := by
  rw [h.get?_eq, h'.get?_eq, hp.count_eq]

/-- Tallies of permuted lists have the same entries. -/
theorem perm (h : t.Counts items) (h' : s.Counts more) (hp : items.Perm more) : t.Perm s :=
  Table.perm_of_get? h.nodup h'.nodup (h.get?_congr h' hp)

end Counts

end Tally

/-! ## 3. Windows -/

section Windows

variable {α : Type} {limit position : Int} {l m : List α} {a : α}

theorem front_nil (limit : Int) : front limit ([] : List α) = [] := by
  unfold front
  split <;> rw [List.take_nil]

theorem front_sublist (limit : Int) (l : List α) : (front limit l).Sublist l := by
  unfold front
  split <;> exact List.take_sublist _ _

theorem length_front_le (h : 0 ≤ limit) (l : List α) : ((front limit l).length : Int) ≤ limit := by
  unfold front
  rw [if_pos h, List.length_take]
  omega

/-- What was cut has the length of the limit. -/
theorem front_eq_or_length (h : 0 ≤ limit) (l : List α) :
    front limit l = l ∨ ((front limit l).length : Int) = limit := by
  unfold front
  rw [if_pos h]
  rcases Nat.le_total l.length limit.toNat with hle | hle
  · exact Or.inl (List.take_of_length_le hle)
  · right
    rw [List.length_take_of_le hle]
    omega

/-- **A list that was cut for a new item** is short enough, if it was before. A negative limit
    leaves no room for anything. -/
theorem front_front (hroom : front limit l = l) (a : α) (hm : m.Sublist l) :
    front limit (front limit (a :: m)) = front limit (a :: m) := by
  by_cases hlimit : 0 ≤ limit
  · unfold front
    rw [if_pos hlimit, if_pos hlimit, List.take_take, Nat.min_self]
  · unfold front at hroom ⊢
    rw [if_neg hlimit] at hroom ⊢
    have hlength := congrArg List.length hroom
    rw [List.length_take] at hlength
    have hl : l.length = 0 := by omega
    have hm0 : m.length = 0 := Nat.le_zero.mp (hl ▸ hm.length_le)
    have hnone : (a :: m).length - limit.natAbs = 0 := by
      rw [List.length_cons, hm0]
      omega
    rw [hnone, List.take_zero, if_neg hlimit, List.take_nil]

theorem mem_of_itemAt? (h : itemAt? position l = some a) : a ∈ l := by
  unfold itemAt? at h
  split at h
  · exact List.mem_of_getElem? h
  · split at h
    · cases h
    · exact List.mem_of_getElem? h

/-- **The latest items, and one more**, are the latest items of the longer list. -/
theorem pushLatest_rtake (n : Nat) (l : List α) (a : α) :
    pushLatest n (l.rtake n) a = (l ++ [a]).rtake n := by
  unfold pushLatest List.rtake
  rw [← List.drop_append_of_le_length (Nat.sub_le _ _), List.drop_drop]
  refine congrArg (List.drop · (l ++ [a])) ?_
  rw [List.length_drop, List.length_append, List.length_singleton]
  omega

/-- What is shown of the end of a list are its latest items. -/
theorem back_of_pos {n : Nat} (h : 0 < n) (l : List α) : back n l = l.rtake n := by
  unfold back List.rtake
  rw [if_pos (Int.natCast_pos.mpr h), Int.toNat_natCast]

/-- Where none of them is asked for, all items are shown. -/
theorem back_zero (l : List α) : back 0 l = l := rfl

theorem getLast?_rtake {n : Nat} (h : 0 < n) (l : List α) : (l.rtake n).getLast? = l.getLast? := by
  unfold List.rtake
  rw [List.getLast?_drop]
  cases l with
  | nil => rfl
  | cons a l =>
      refine if_neg ?_
      rw [List.length_cons]
      omega

end Windows

end Worklog
