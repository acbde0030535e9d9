import Mathlib.Data.List.Induction
import Worklog.Proofs.Index.Postings

/-!
# Postings after a history

Identifiers are filed and unfiled, and all is forgotten now and then, in any order. What is filed
at the end can be read off the history alone: an identifier is filed under a term if it was filed
at some point and nothing took it away since (`Postings.Filed`).

* `Postings.Holds.after`: postings after a history hold what the history says;
* **`Postings.after_agrees`**: so the side table, which is written only when a term comes and when
  it goes, never differs from a look at every term.
-/

namespace Worklog

namespace Postings

/-! ## 1. Histories -/

/-- An operation on postings. -/
inductive Operation where
  | add (term id : Text)
  | discard (term id : Text)
  | clear
  deriving DecidableEq

/-- Carries out an operation. -/
def Operation.apply (p : Postings) : Operation → Postings
  | add term id => p.add term id
  | discard term id => p.discard term id
  | clear => empty

/-- Whether an operation takes an identifier away from a term. -/
def Operation.Unfiles (term id : Text) (op : Operation) : Prop :=
  op = .discard term id ∨ op = .clear

/-- The postings after a history that starts with nothing. -/
def after (ops : List Operation) : Postings := ops.foldl Operation.apply empty

/-- **What is filed after a history**: what was filed and not taken away since. -/
def Filed (ops : List Operation) (term id : Text) : Prop :=
  ∃ earlier later, ops = earlier ++ .add term id :: later ∧ ∀ op ∈ later, ¬op.Unfiles term id

/-- A term is live if something is filed under it. -/
def IsLive (ops : List Operation) (term : Text) : Prop := ∃ id, Filed ops term id

/-! ## 2. One operation more -/

section Filed

variable {ops : List Operation} {op : Operation} {term id : Text}

theorem not_filed_nil : ¬Filed [] term id := by
  intro h
  obtain ⟨earlier, later, hops, -⟩ := h
  cases earlier with
  | nil => cases hops
  | cons op earlier => cases hops

/-- **After one operation more** something is filed if this operation filed it, or if it was filed
    and this operation did not take it away. -/
theorem filed_concat : Filed (ops ++ [op]) term id ↔
    op = .add term id ∨ (Filed ops term id ∧ ¬op.Unfiles term id) := by
  constructor
  · intro h
    obtain ⟨earlier, later, hops, hlater⟩ := h
    rcases List.eq_nil_or_concat' later with rfl | ⟨later, last, rfl⟩
    · exact Or.inl (List.singleton_inj.mp (List.append_inj' hops rfl).2)
    · rw [← List.cons_append, ← List.append_assoc] at hops
      obtain ⟨hinit, hlast⟩ := List.append_inj' hops rfl
      obtain rfl : op = last := List.singleton_inj.mp hlast
      refine Or.inr ⟨⟨earlier, later, hinit, fun o ho => ?_⟩, ?_⟩
      · exact hlater o (List.mem_append_left _ ho)
      · exact hlater op (List.mem_append_right _ (List.mem_singleton_self op))
  · intro h
    rcases h with rfl | ⟨⟨earlier, later, rfl, hlater⟩, hop⟩
    · exact ⟨ops, [], rfl, fun o ho => absurd ho List.not_mem_nil⟩
    · refine ⟨earlier, later ++ [op], by rw [List.append_assoc, List.cons_append], fun o ho => ?_⟩
      rcases List.mem_append.mp ho with ho | ho
      · exact hlater o ho
      · exact List.mem_singleton.mp ho ▸ hop

theorem not_unfiles_add {t i : Text} : ¬(Operation.add t i).Unfiles term id := by
  simp [Operation.Unfiles]

theorem unfiles_discard {t i : Text} :
    (Operation.discard t i).Unfiles term id ↔ term = t ∧ id = i := by
  simp [Operation.Unfiles, eq_comm]

theorem unfiles_clear : Operation.clear.Unfiles term id := Or.inr rfl

end Filed

/-! ## 3. What is held -/

namespace Holds

variable {p : Postings} {ops : List Operation}

/-- An operation on postings that hold what a history says is the next one of the history. -/
theorem apply (h : p.Holds (Filed ops)) (op : Operation) :
    (op.apply p).Holds (Filed (ops ++ [op])) := by
  cases op with
  | add term id =>
      refine (h.add term id).congr fun t i => ?_
      rw [filed_concat, Operation.add.injEq, and_iff_left not_unfiles_add, or_comm]
      simp only [eq_comm]
  | discard term id =>
      refine (h.discard term id).congr fun t i => ?_
      rw [filed_concat, unfiles_discard]
      simp
  | clear =>
      refine Holds.empty.congr fun t i => ?_
      rw [filed_concat]
      simp [unfiles_clear]

/-- **Postings after a history hold what the history says.** -/
theorem after (ops : List Operation) : (Postings.after ops).Holds (Filed ops) := by
  induction ops using List.reverseRecOn with
  | nil => exact Holds.empty.congr fun t i => iff_of_false not_false not_filed_nil
  | append_singleton ops op ih =>
      have hlast : Postings.after (ops ++ [op]) = op.apply (Postings.after ops) :=
        List.foldl_append
      rw [hlast]
      exact ih.apply op

/-! ## 4. Looking up -/

variable {R : Text → Text → Prop}

theorem nodup_matching (h : p.Holds R) (t : Text) : (p.matching t).Nodup :=
  (h.nodup_candidates _).filter _

/-- **A look at every term** finds what the side table finds. -/
theorem matching_perm (h : p.Holds R) (t : Text) :
    (p.matching t).Perm (p.ids.keys.filter t.occursIn) := by
  refine (List.perm_ext_iff_of_nodup (h.nodup_matching t) (h.ids.keys.filter _)).mpr fun term => ?_
  rw [h.mem_matching, List.mem_filter, h.ids.mem_keys_iff, Text.occursIn_iff]

/-- What the side table has under a pair of characters. -/
theorem mem_terms (h : p.Holds R) {pair term : Text} :
    term ∈ p.terms.getD pair [] ↔ pair.length = 2 ∧ (∃ id, R term id) ∧ pair <:+: term := by
  rw [h.terms.mem_iff, Side, Text.mem_pairs_iff, and_left_comm]

end Holds

/-- **The side table always agrees with a look at every term.** After any history, the terms found
    for a text are the live ones that contain it, each once, and the identifiers found are those
    filed under these terms. The side table itself has under a pair of characters the live terms
    that contain the pair, each once, and keeps no pair without a term. -/
theorem after_agrees (ops : List Operation) (t : Text) :
    ((after ops).matching t).Nodup ∧
    (∀ term, term ∈ (after ops).matching t ↔ IsLive ops term ∧ t <:+: term) ∧
    ((after ops).matching t).Perm ((after ops).ids.keys.filter t.occursIn) ∧
    ((after ops).lookup t).Nodup ∧
    (∀ id, id ∈ (after ops).lookup t ↔ ∃ term ∈ (after ops).matching t, Filed ops term id) ∧
    (∀ pair term, term ∈ (after ops).terms.getD pair [] ↔
      pair.length = 2 ∧ IsLive ops term ∧ pair <:+: term) ∧
    (after ops).terms.keys.Nodup ∧
    ∀ bucket ∈ (after ops).terms.values, bucket ≠ [] ∧ bucket.Nodup := by
  have h : (after ops).Holds (Filed ops) := .after ops
  refine ⟨h.nodup_matching t, fun term => h.mem_matching, h.matching_perm t, nodup_eraseDups _,
    fun id => ?_, fun pair term => h.mem_terms, h.terms.keys, fun bucket hbucket => ?_⟩
  · rw [h.mem_lookup]
    constructor
    · intro hid
      obtain ⟨term, hfiled, ht⟩ := hid
      exact ⟨term, h.mem_matching.mpr ⟨⟨id, hfiled⟩, ht⟩, hfiled⟩
    · intro hid
      obtain ⟨term, hterm, hfiled⟩ := hid
      exact ⟨term, hfiled, (h.mem_matching.mp hterm).2⟩
  · obtain ⟨e, he, rfl⟩ := List.mem_map.mp hbucket
    exact h.terms.lists e.1 e.2 ((Table.get?_eq_some_iff h.terms.keys).mpr he)

/-- The term `abab` has the pair `ab` twice and stays until its last identifier goes. -/
example : ((after [.add "abab".toList "r1".toList, .add "abab".toList "r2".toList,
    .add "b".toList "r1".toList, .discard "abab".toList "r1".toList]).terms.keys =
      ["ab".toList, "ba".toList]) ∧
    (after [.add "abab".toList "r1".toList, .discard "abab".toList "r1".toList]).terms = [] := by
  decide

end Postings

end Worklog
