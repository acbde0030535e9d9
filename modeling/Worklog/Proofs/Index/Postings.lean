import Worklog.Index.Postings
import Worklog.Proofs.Table

/-!
# Postings hold a relation

Postings are two tables of lists: the identifiers under each term, and the terms under each pair of
neighbouring characters. Both are read as relations. `Table.Files t R` says that a table of lists
holds exactly the pairs of `R`, under each key once and without an empty list;
`Postings.Holds p R` says that the first table holds `R`, "this identifier is filed under this
term", and that the side table holds what follows from it: under each pair of characters the terms
that have it and under which something is filed.

* `Postings.Holds.add`, `Postings.Holds.discard`: filing and unfiling add one pair to the relation
  and take one away;
* `Postings.Holds.mem_matching`: **the side table finds what a look at every term finds**;
* `Postings.Holds.mem_lookup`: a look-up finds what is filed under a term that contains the text.
-/

namespace Worklog

/-! ## 1. Tables of lists -/

theorem mem_addTo {α : Type} [BEq α] [LawfulBEq α] {a b : α} {items : List α} :
    b ∈ addTo a items ↔ b ∈ items ∨ b = a := by
  unfold addTo
  split
  · rename_i h
    have ha : a ∈ items := List.contains_iff_mem.mp h
    exact ⟨Or.inl, fun hb => hb.elim id fun e => e ▸ ha⟩
  · simp

theorem nodup_addTo {α : Type} [BEq α] [LawfulBEq α] {a : α} {items : List α}
    (h : items.Nodup) : (addTo a items).Nodup := by
  unfold addTo
  split
  · exact h
  · rename_i ha
    have ha' : a ∉ items := fun hm => ha (List.contains_iff_mem.mpr hm)
    refine List.nodup_append.mpr ⟨h, List.nodup_singleton a, fun x hx y hy e => ha' ?_⟩
    rw [← List.mem_singleton.mp hy, ← e]
    exact hx

namespace Table

variable {κ α : Type} [DecidableEq κ]

theorem getD_put (key k : κ) (a d : α) (t : Table κ α) :
    getD k d (put key a t) = if key = k then a else getD k d t := by
  unfold getD
  rw [get?_put]
  split <;> rfl

theorem getD_erase (key k : κ) (d : α) (t : Table κ α) :
    getD k d (erase key t) = if key = k then d else getD k d t := by
  unfold getD
  rw [get?_erase]
  split <;> rfl

/-- **A table of lists holds a relation**: exactly its pairs, each once, and no list is empty. -/
structure Files (t : Table κ (List α)) (R : κ → α → Prop) : Prop where
  keys : (Table.keys t).Nodup
  lists : ∀ k as, t.get? k = some as → as ≠ [] ∧ as.Nodup
  mem_iff : ∀ k a, a ∈ t.getD k [] ↔ R k a

namespace Files

variable {t : Table κ (List α)} {R S : κ → α → Prop} {key : κ} {item : α}

theorem nil : Files ([] : Table κ (List α)) fun _ _ => False :=
  ⟨List.nodup_nil, fun _ _ h => by simp at h, fun _ _ => by simp [getD]⟩

theorem congr (h : t.Files R) (hRS : ∀ k a, R k a ↔ S k a) : t.Files S :=
  ⟨h.keys, h.lists, fun k a => (h.mem_iff k a).trans (hRS k a)⟩

theorem nodup_getD (h : t.Files R) (k : κ) : (t.getD k []).Nodup := by
  unfold getD
  cases hk : t.get? k with
  | none => exact List.nodup_nil
  | some as => exact (h.lists k as hk).2

theorem has_iff (h : t.Files R) : t.has key = true ↔ ∃ a, R key a := by
  simp only [← h.mem_iff, has, getD]
  cases hk : t.get? key with
  | none => simp
  | some as => simpa using List.exists_mem_of_ne_nil as (h.lists key as hk).1

theorem mem_keys_iff (h : t.Files R) : key ∈ Table.keys t ↔ ∃ a, R key a := by
  rw [← has_iff_mem_keys, h.has_iff]

variable [BEq α] [LawfulBEq α]

/-- One more pair. -/
theorem enter (h : t.Files R) (key : κ) (item : α) :
    (t.put key (addTo item (t.getD key []))).Files fun k a => R k a ∨ (k = key ∧ a = item) where
  keys := nodup_keys_put h.keys
  lists k as hk := by
    rw [get?_put] at hk
    split at hk
    · rw [← Option.some.inj hk]
      refine ⟨fun e => ?_, nodup_addTo (h.nodup_getD key)⟩
      have hm : item ∈ addTo item (t.getD key []) := mem_addTo.mpr (Or.inr rfl)
      rw [e] at hm
      exact List.not_mem_nil hm
    · exact h.lists k as hk
  mem_iff k a := by
    rw [getD_put]
    by_cases hk : key = k
    · subst hk
      simp [mem_addTo, h.mem_iff]
    · simp [hk, Ne.symm hk, h.mem_iff]

/-- One pair less, where others stay under its key. -/
theorem withdraw_some (h : t.Files R) (hne : (t.getD key []).filter (· != item) ≠ []) :
    (t.put key ((t.getD key []).filter (· != item))).Files
      fun k a => R k a ∧ ¬(k = key ∧ a = item) where
  keys := nodup_keys_put h.keys
  lists k as hk := by
    rw [get?_put] at hk
    split at hk
    · rw [← Option.some.inj hk]
      exact ⟨hne, (h.nodup_getD key).filter _⟩
    · exact h.lists k as hk
  mem_iff k a := by
    rw [getD_put]
    by_cases hk : key = k
    · subst hk
      simp [h.mem_iff]
    · simp [hk, Ne.symm hk, h.mem_iff]

/-- One pair less, the last one under its key. -/
theorem withdraw_last (h : t.Files R) (he : (t.getD key []).filter (· != item) = []) :
    (t.erase key).Files fun k a => R k a ∧ ¬(k = key ∧ a = item) where
  keys := nodup_keys_erase h.keys
  lists k as hk := by
    rw [get?_erase] at hk
    split at hk
    · simp at hk
    · exact h.lists k as hk
  mem_iff k a := by
    rw [getD_erase]
    by_cases hk : key = k
    · subst hk
      have ha : ∀ b ∈ t.getD key [], b = item := by simpa using he
      simp only [if_true, List.not_mem_nil, true_and, false_iff, not_and, Classical.not_not]
      exact fun hR => ha a ((h.mem_iff key a).mpr hR)
    · simp [hk, Ne.symm hk, h.mem_iff]

/-- One pair less. -/
theorem withdraw (h : t.Files R) (key : κ) (item : α) :
    (let left := (t.getD key []).filter (· != item)
      if left.isEmpty then t.erase key else t.put key left).Files
      fun k a => R k a ∧ ¬(k = key ∧ a = item) := by
  by_cases he : (t.getD key []).filter (· != item) = []
  · simpa [he] using h.withdraw_last he
  · simpa [List.isEmpty_iff, he] using h.withdraw_some he

end Files

end Table

/-! ## 2. Pairs of characters -/

namespace Text

theorem mem_pairs_cons {pair : Text} {c d : Char} {t : Text} :
    pair ∈ pairs (c :: d :: t) ↔ pair = [c, d] ∨ pair ∈ pairs (d :: t) := by
  simp [pairs, List.mem_eraseDups]

/-- **The pairs of a text are the parts of length two.** -/
theorem mem_pairs_iff {pair : Text} : ∀ {t : Text}, pair ∈ pairs t ↔ pair.length = 2 ∧ pair <:+: t
  | [] => by
      simp only [pairs, List.mem_eraseDups, List.zip_nil_left, List.map_nil, List.not_mem_nil,
        List.infix_nil, false_iff, not_and]
      intro h e
      subst e
      simp at h
  | [c] => by
      simp only [pairs, List.mem_eraseDups, List.drop_one, List.tail_cons, List.zip_nil_right,
        List.map_nil, List.not_mem_nil, false_iff, not_and]
      intro h hi
      have := hi.length_le
      simp [h] at this
  | c :: d :: t => by
      have hc : pair <:+: c :: d :: t ↔ pair <+: c :: d :: t ∨ pair <:+: d :: t :=
        List.infix_cons_iff
      rw [mem_pairs_cons, mem_pairs_iff, hc]
      constructor
      · intro hm
        rcases hm with rfl | ⟨hl, hi⟩
        · exact ⟨rfl, Or.inl ⟨t, rfl⟩⟩
        · exact ⟨hl, Or.inr hi⟩
      · intro hm
        rcases hm with ⟨hl, hp | hi⟩
        · left
          obtain ⟨a, b, rfl⟩ := List.length_eq_two.mp hl
          simpa using hp
        · exact Or.inr ⟨hl, hi⟩

theorem pairs_subset {s t : Text} (h : s <:+: t) {pair : Text} (hp : pair ∈ pairs s) :
    pair ∈ pairs t := by
  rw [mem_pairs_iff] at hp ⊢
  exact ⟨hp.1, hp.2.trans h⟩

end Text

/-! ## 3. Filing and unfiling -/

namespace Postings

/-- What the side table holds when a relation is filed. -/
def Side (R : Text → Text → Prop) (pair term : Text) : Prop :=
  (∃ id, R term id) ∧ pair ∈ Text.pairs term

/-- **Postings hold a relation** between terms and identifiers, and their side table agrees. -/
structure Holds (p : Postings) (R : Text → Text → Prop) : Prop where
  ids : p.ids.Files R
  terms : p.terms.Files (Side R)

/-- Narrowing keeps the terms that stand in all of the others. -/
theorem mem_narrow {term : Text} : ∀ {bs : List (List Text)} {terms : List Text},
    term ∈ narrow terms bs ↔ term ∈ terms ∧ ∀ b ∈ bs, term ∈ b
  | [], _ => by simp [narrow]
  | b :: bs, terms => by
      rw [narrow, List.forall_mem_cons]
      cases terms with
      | nil => simp
      | cons t terms =>
          rw [if_neg (by simp), mem_narrow, List.mem_filter, List.contains_iff_mem, and_assoc]

theorem narrow_sublist : ∀ (terms : List Text) (bs : List (List Text)),
    (narrow terms bs).Sublist terms
  | terms, [] => List.Sublist.refl terms
  | terms, b :: bs => by
      rw [narrow]
      split
      · exact List.nil_sublist terms
      · exact (narrow_sublist _ bs).trans List.filter_sublist

theorem mem_buckets {p : Postings} {pairs b : List Text} :
    b ∈ p.buckets pairs ↔ ∃ pair ∈ pairs, p.terms.getD pair [] = b := by
  rw [buckets, (List.mergeSort_perm _ _).mem_iff, List.mem_map]

theorem length_buckets (p : Postings) (pairs : List Text) :
    (p.buckets pairs).length = pairs.length := by
  rw [buckets, (List.mergeSort_perm _ _).length_eq, List.length_map]

namespace Holds

variable {p : Postings} {R S : Text → Text → Prop} {term id : Text}

theorem empty : Postings.empty.Holds fun _ _ => False :=
  ⟨.nil, Table.Files.nil.congr fun _ _ => by simp [Side]⟩

theorem congr (h : p.Holds R) (hRS : ∀ t i, R t i ↔ S t i) : p.Holds S :=
  ⟨h.ids.congr hRS, h.terms.congr fun _ _ => by simp [Side, hRS]⟩

/-- Entering a term puts it under all its pairs. -/
theorem files_enter {t : Table Text (List Text)} {B : Text → Text → Prop} (h : t.Files B)
    (term : Text) :
    (enter term t).Files fun pair u => B pair u ∨ (pair ∈ Text.pairs term ∧ u = term) := by
  unfold enter
  generalize Text.pairs term = pairs
  induction pairs generalizing t B with
  | nil => exact h.congr fun _ _ => by simp
  | cons pair pairs ih =>
      refine (ih (h.enter pair term)).congr fun k u => ?_
      simp only [List.mem_cons, or_and_right, or_assoc]

/-- Withdrawing a term takes it from all its pairs. -/
theorem files_withdraw {t : Table Text (List Text)} {B : Text → Text → Prop} (h : t.Files B)
    (term : Text) :
    (withdraw term t).Files fun pair u => B pair u ∧ ¬(pair ∈ Text.pairs term ∧ u = term) := by
  unfold withdraw
  generalize Text.pairs term = pairs
  induction pairs generalizing t B with
  | nil => exact h.congr fun _ _ => by simp
  | cons pair pairs ih =>
      refine (ih (h.withdraw pair term)).congr fun k u => ?_
      simp only [List.mem_cons, or_and_right, not_or, and_assoc]

/-- **Filing adds one pair.** -/
theorem add (h : p.Holds R) (term id : Text) :
    (p.add term id).Holds fun t i => R t i ∨ (t = term ∧ i = id) := by
  have hput := h.ids.enter term id
  unfold Postings.add
  split
  · -- the term is known, so the side table has it already
    rename_i ids hids
    have hlive : ∃ i, R term i := h.ids.has_iff.mp (by simp [Table.has, hids])
    have hD : p.ids.getD term [] = ids := by simp [Table.getD, hids]
    rw [hD] at hput
    refine ⟨hput, h.terms.congr fun pair u => and_congr_left fun _ => ?_⟩
    constructor
    · intro hm
      obtain ⟨i, hi⟩ := hm
      exact ⟨i, Or.inl hi⟩
    · intro hm
      rcases hm with ⟨i, hi | ⟨rfl, rfl⟩⟩
      · exact ⟨i, hi⟩
      · exact hlive
  · rename_i hids
    have hD : p.ids.getD term [] = [] := by simp [Table.getD, hids]
    rw [hD] at hput
    refine ⟨hput, (files_enter h.terms term).congr fun pair u => ?_⟩
    constructor
    · intro hm
      rcases hm with ⟨⟨i, hi⟩, hp⟩ | ⟨hp, rfl⟩
      · exact ⟨⟨i, Or.inl hi⟩, hp⟩
      · exact ⟨⟨id, Or.inr ⟨rfl, rfl⟩⟩, hp⟩
    · intro hm
      rcases hm with ⟨⟨i, hi | ⟨rfl, rfl⟩⟩, hp⟩
      · exact Or.inl ⟨⟨i, hi⟩, hp⟩
      · exact Or.inr ⟨hp, rfl⟩

/-- **Unfiling takes one pair away.** -/
theorem discard (h : p.Holds R) (term id : Text) :
    (p.discard term id).Holds fun t i => R t i ∧ ¬(t = term ∧ i = id) := by
  unfold Postings.discard
  split
  · rename_i ids hids
    have hD : p.ids.getD term [] = ids := by simp [Table.getD, hids]
    subst hD
    simp only
    split
    · -- nothing is left under the term, so it goes from the side table as well
      rename_i he
      have he := List.isEmpty_iff.mp he
      have hlast : ∀ i, R term i → i = id := fun i hi => by
        have hall : ∀ j ∈ p.ids.getD term [], j = id := by simpa using he
        exact hall i ((h.ids.mem_iff term i).mpr hi)
      refine ⟨h.ids.withdraw_last he, (files_withdraw h.terms term).congr fun pair u => ?_⟩
      constructor
      · intro hm
        obtain ⟨⟨⟨i, hi⟩, hp⟩, hn⟩ := hm
        exact ⟨⟨i, hi, fun e => hn ⟨e.1 ▸ hp, e.1⟩⟩, hp⟩
      · intro hm
        obtain ⟨⟨i, hi, hn⟩, hp⟩ := hm
        refine ⟨⟨⟨i, hi⟩, hp⟩, fun e => hn ⟨e.2, hlast i ?_⟩⟩
        exact e.2 ▸ hi
    · rename_i hne
      have hne : (p.ids.getD term []).filter (· != id) ≠ [] := fun e => hne (List.isEmpty_iff.mpr e)
      refine ⟨h.ids.withdraw_some hne, h.terms.congr fun pair u => and_congr_left fun _ => ?_⟩
      constructor
      · intro hm
        obtain ⟨i, hi⟩ := hm
        by_cases hu : u = term
        · -- one of the others still stands under the term
          subst hu
          obtain ⟨j, hj⟩ := List.exists_mem_of_ne_nil _ hne
          rw [List.mem_filter, h.ids.mem_iff] at hj
          exact ⟨j, hj.1, fun e => by simp [e.2] at hj⟩
        · exact ⟨i, hi, fun e => hu e.1⟩
      · intro hm
        obtain ⟨i, hi, -⟩ := hm
        exact ⟨i, hi⟩
  · rename_i hids
    have hnone : ∀ i, ¬R term i := fun i hi => by
      have := (h.ids.mem_iff term i).mpr hi
      simp [Table.getD, hids] at this
    exact h.congr fun t i => ⟨fun hi => ⟨hi, fun e => hnone i (e.1 ▸ hi)⟩, And.left⟩

/-! ## 4. Looking up -/

theorem mem_candidates (h : p.Holds R) {pairs : List Text} :
    term ∈ p.candidates pairs ↔ (∃ i, R term i) ∧ ∀ pair ∈ pairs, pair ∈ Text.pairs term := by
  have hside : ∀ pair, term ∈ p.terms.getD pair [] ↔ (∃ i, R term i) ∧ pair ∈ Text.pairs term :=
    fun pair => h.terms.mem_iff pair term
  have hbuckets : (∀ bucket ∈ p.buckets pairs, term ∈ bucket) ↔
      ∀ pair ∈ pairs, (∃ i, R term i) ∧ pair ∈ Text.pairs term := by
    simp only [mem_buckets, forall_exists_index, and_imp, forall_apply_eq_imp_iff₂, hside]
  unfold candidates
  cases hb : p.buckets pairs with
  | nil =>
      have hnone : pairs = [] := by
        rw [← List.length_eq_zero_iff, ← length_buckets p pairs, hb, List.length_nil]
      subst hnone
      simp [h.ids.mem_keys_iff]
  | cons bucket more =>
      have hsome : ∃ pair, pair ∈ pairs := by
        obtain ⟨pair, hpair, -⟩ := mem_buckets.mp (hb ▸ List.mem_cons_self)
        exact ⟨pair, hpair⟩
      obtain ⟨pair, hpair⟩ := hsome
      rw [hb, List.forall_mem_cons] at hbuckets
      rw [mem_narrow, hbuckets]
      constructor
      · intro hall
        exact ⟨(hall pair hpair).1, fun q hq => (hall q hq).2⟩
      · intro hm q hq
        exact ⟨hm.1, hm.2 q hq⟩

theorem nodup_candidates (h : p.Holds R) (pairs : List Text) : (p.candidates pairs).Nodup := by
  unfold candidates
  cases hb : p.buckets pairs with
  | nil => exact h.ids.keys
  | cons bucket more =>
      obtain ⟨pair, -, rfl⟩ := mem_buckets.mp (hb ▸ List.mem_cons_self)
      exact (h.terms.nodup_getD pair).sublist (narrow_sublist _ more)

/-- **The side table finds what a look at every term finds**: the terms under which something is
    filed and that contain the text. -/
theorem mem_matching (h : p.Holds R) {t : Text} :
    term ∈ p.matching t ↔ (∃ i, R term i) ∧ t <:+: term := by
  rw [matching, List.mem_filter, h.mem_candidates, Text.occursIn_iff]
  constructor
  · intro hm
    obtain ⟨⟨hl, -⟩, ht⟩ := hm
    exact ⟨hl, ht⟩
  · intro hm
    obtain ⟨hl, ht⟩ := hm
    exact ⟨⟨hl, fun pair hp => Text.pairs_subset ht hp⟩, ht⟩

/-- **A look-up finds what is filed under a term that contains the text.** -/
theorem mem_lookup (h : p.Holds R) {t : Text} :
    id ∈ p.lookup t ↔ ∃ term, R term id ∧ t <:+: term := by
  simp only [lookup, List.mem_eraseDups, List.mem_flatMap, h.mem_matching, h.ids.mem_iff]
  constructor
  · intro hm
    obtain ⟨term, ⟨-, ht⟩, hi⟩ := hm
    exact ⟨term, hi, ht⟩
  · intro hm
    obtain ⟨term, hi, ht⟩ := hm
    exact ⟨term, ⟨⟨id, hi⟩, ht⟩, hi⟩

end Holds

end Postings

end Worklog
