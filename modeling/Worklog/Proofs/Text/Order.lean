import Mathlib.Data.List.Perm.Basic
import Worklog.Text.Basic

/-!
# Alphabetical order

`Text.le` is a linear order, so a list of texts has one sorted form whatever order it comes in
(`mergeSort_congr`).
-/

namespace Worklog.Text

theorem le_trans {s t u : Text} (hst : le s t = true) (htu : le t u = true) : le s u = true := by
  induction s generalizing t u with
  | nil => rfl
  | cons a s ih =>
      rcases t with _ | ⟨b, t⟩
      · simp [le] at hst
      rcases u with _ | ⟨c, u⟩
      · simp [le] at htu
      simp only [le, Bool.or_eq_true, Bool.and_eq_true, decide_eq_true_eq, beq_iff_eq] at hst htu ⊢
      rcases hst with h | ⟨rfl, h⟩
      · rcases htu with h' | ⟨rfl, _⟩
        · left; omega
        · exact Or.inl h
      · exact htu.imp_right fun h' => ⟨h'.1, ih h h'.2⟩

theorem le_total (s t : Text) : (le s t || le t s) = true := by
  induction s generalizing t with
  | nil => rfl
  | cons a s ih =>
      rcases t with _ | ⟨b, t⟩
      · rfl
      have := ih t
      simp only [le, Bool.or_eq_true, Bool.and_eq_true, decide_eq_true_eq, beq_iff_eq] at this ⊢
      rcases Nat.lt_trichotomy a.toNat b.toNat with h | h | h
      · exact Or.inl (Or.inl h)
      · have e : a = b := Char.toNat_inj.mp h
        exact this.imp (fun h' => Or.inr ⟨e, h'⟩) fun h' => Or.inr ⟨e.symm, h'⟩
      · exact Or.inr (Or.inl h)

theorem le_antisymm {s t : Text} (hst : le s t = true) (hts : le t s = true) : s = t := by
  induction s generalizing t with
  | nil =>
      rcases t with _ | ⟨b, t⟩
      · rfl
      · simp [le] at hts
  | cons a s ih =>
      rcases t with _ | ⟨b, t⟩
      · simp [le] at hst
      simp only [le, Bool.or_eq_true, Bool.and_eq_true, decide_eq_true_eq, beq_iff_eq] at hst hts
      rcases hst with h | ⟨rfl, h⟩
      · rcases hts with h' | ⟨rfl, _⟩ <;> omega
      · rw [ih h (hts.resolve_left (Nat.lt_irrefl _)).2]

theorem lt_iff {s t : Text} : lt s t = true ↔ le s t = true ∧ s ≠ t := by
  simp [lt]

theorem lt_trans {s t u : Text} (hst : lt s t = true) (htu : lt t u = true) : lt s u = true := by
  rw [lt_iff] at hst htu ⊢
  refine ⟨le_trans hst.1 htu.1, fun e => hst.2 ?_⟩
  subst e
  exact le_antisymm hst.1 htu.1

theorem pairwise_mergeSort (l : List Text) :
    (l.mergeSort le).Pairwise fun s t => le s t = true :=
  @List.pairwise_mergeSort Text le (fun _ _ _ => le_trans) le_total l

/-- Different texts are sorted strictly. -/
theorem pairwise_lt_mergeSort {l : List Text} (h : l.Nodup) :
    (l.mergeSort le).Pairwise fun s t => lt s t = true :=
  (pairwise_mergeSort l).imp₂ (fun _ _ hle hne => lt_iff.mpr ⟨hle, hne⟩)
    ((List.mergeSort_perm l le).nodup_iff.mpr h)

/-- **A list of texts has one sorted form**, whatever order it comes in. -/
theorem mergeSort_congr {l m : List Text} (h : l.Perm m) : l.mergeSort le = m.mergeSort le := by
  have hp : (l.mergeSort le).Perm (m.mergeSort le) :=
    (List.mergeSort_perm l le).trans (h.trans (List.mergeSort_perm m le).symm)
  exact hp.eq_of_pairwise (fun _ _ _ _ => le_antisymm) (pairwise_mergeSort l)
    (pairwise_mergeSort m)

end Worklog.Text
