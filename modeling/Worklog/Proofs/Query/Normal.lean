import Worklog.Proofs.Query.Plain
import Worklog.Proofs.Text.Casing

/-!
# What the normal form keeps

The normal form drops the tokens of one character that carry no syntax, and writes the others in
lower case:

* `Query.exists_mem_tokens`: what is no blank lies in a token;
* **`Query.hasOperators_normalize`**: so syntax neither comes nor goes;
* **`Query.words_normalize`**: without syntax, the words of the normal form are those that are kept
  of the words in lower case.
-/

namespace Worklog.Query

open Worklog.Text

/-! ## 1. Syntax -/

theorem mem_scan {c : Char} (hc : isBlank c = false) : ∀ {inQuotes : Bool} {q : Text}, c ∈ q →
    c ∈ (scan inQuotes q).1 ∨ ∃ t ∈ (scan inQuotes q).2, c ∈ t
  | inQuotes, d :: q, h => by
      have keep : ∀ {b : Bool}, c ∈ d :: (scan b q).1 ∨ ∃ t ∈ (scan b q).2, c ∈ t := fun {b} => by
        rcases List.mem_cons.mp h with rfl | h
        · exact Or.inl List.mem_cons_self
        · exact (@mem_scan c hc b q h).imp_left (List.mem_cons_of_mem d)
      rw [scan]
      split
      · exact keep
      · split
        next hcut =>
          have hne : c ≠ d := by
            rintro rfl
            rw [hc] at hcut
            cases hcut
          exact Or.inr (exists_mem_pushRun (mem_scan hc ((List.mem_cons.mp h).resolve_left hne)))
        next => exact keep

/-- **What is no blank lies in a token.** -/
theorem exists_mem_tokens {q : Text} {c : Char} (h : c ∈ q) (hc : isBlank c = false) :
    ∃ t ∈ tokens q, c ∈ t := exists_mem_pushRun (mem_scan hc h)

/-- A token with syntax is kept. -/
theorem keeps_of_mem {t : Text} {c : Char} (hc : c ∈ Plan.operators) (h : c ∈ t) :
    keeps t = true := by
  simp only [keeps, Bool.or_eq_true, decide_eq_true_eq, beq_iff_eq, List.contains_iff_mem]
  by_cases hlength : 2 ≤ t.length
  · exact Or.inl (Or.inl (Or.inl hlength))
  · have hsingle : t = [c] := by
      obtain ⟨d, rfl⟩ := List.length_eq_one_iff.mp
        (show t.length = 1 by have := List.length_pos_of_mem h; omega)
      rw [List.mem_singleton.mp h]
    have hall : ∀ d ∈ Plan.operators,
        ((2 ≤ [d].length ∨ ':' ∈ [d]) ∨ [d].head? = some '-') ∨ [d].head? = some '"' :=
      forall_mem_of_all (by decide)
    rw [hsingle]
    exact hall c hc

/-- Characters that carry syntax neither come nor go with the normal form. -/
theorem mem_normalize_iff {t : Text} {c : Char} (hc : c ∈ Plan.operators) :
    c ∈ normalize t ↔ c ∈ t := by
  have hall : ∀ c ∈ Plan.operators, c ≠ ' ' ∧ isBlank c = false ∧ Text.stays c = true ∧
      c.toNat ≤ 0x60 := forall_mem_of_all (by decide)
  obtain ⟨hspace, hblank, hstays, hsmall⟩ := hall c hc
  have hlower : c ∈ lower t ↔ c ∈ t := mem_lower_iff hstays hsmall
  constructor
  · exact fun h => hlower.mp ((mem_normalize h).resolve_left hspace)
  · intro h
    obtain ⟨w, hw, hcw⟩ := exists_mem_words (hlower.mpr h) hblank
    have hcollapse : c ∈ collapse t := mem_joinWith_of_mem hcw hw
    obtain ⟨token, htoken, hct⟩ := exists_mem_tokens hcollapse hblank
    exact mem_joinWith_of_mem hct (List.mem_filter.mpr ⟨htoken, keeps_of_mem hc hct⟩)

/-- **Syntax neither comes nor goes** with the normal form. -/
theorem hasOperators_normalize (t : Text) :
    Plan.hasOperators (normalize t) = Plan.hasOperators t := by
  have hiff : ∀ q : Text, Plan.hasOperators q = true ↔ ∃ c ∈ Plan.operators, c ∈ q := fun q => by
    unfold Plan.hasOperators
    rw [List.any_eq_true]
    simp only [List.contains_iff_mem, and_comm]
  rw [Bool.eq_iff_iff, hiff, hiff]
  exact exists_congr fun c => and_congr_right mem_normalize_iff

/-! ## 2. Words -/

/-- **Without syntax, the words of the normal form** are those that are kept of the words in lower
    case. -/
theorem words_normalize {t : Text} (h : Plan.hasOperators t = false) :
    words (normalize t) = ((words t).map lower).filter keeps := by
  have hblanks : ∀ w ∈ (words t).map lower, w ≠ [] ∧ ∀ c ∈ w, isBlank c = false := by
    rw [← words_lower]
    exact fun w hw => (mem_words hw).2
  have hcollapse : words (collapse t) = (words t).map lower := by
    unfold collapse
    rw [words_lower, words_joinWith hblanks]
  have hquote : '"' ∉ collapse t := by
    intro hm
    have hlower : '"' ∈ lower t := (mem_collapse hm).resolve_left (by decide)
    exact notMem_of_noOperators h (c := '"') (by decide)
      ((mem_lower_iff (by decide) (by decide)).mp hlower)
  unfold normalize
  rw [tokens_eq_words hquote, hcollapse]
  exact words_joinWith fun w hw => hblanks w (List.mem_filter.mp hw).1

end Worklog.Query
