import Mathlib.Data.List.TakeWhile
import Worklog.Proofs.Fault
import Worklog.Proofs.Text.Lowercase
import Worklog.Proofs.Text.Words
import Worklog.Query.Normal
import Worklog.Query.Reading
import Worklog.Search.Plan

/-!
# Plain queries

Without a colon, a quote or a hyphen a query is read word by word, and a word is text unless it is a
comparison (`Query.read_of_noOperators`). A plain query is in normal form besides, and no word of it
is a comparison (`Query.IsPlain`). Such a query reads as it stands:

* `Query.IsPlain.lower_eq`, `Query.IsPlain.joinWith_words`: it is in lower case, and is its words
  with a space between them;
* **`Query.IsPlain.read_eq`**: it asks for its words and for nothing else;
* **`Query.IsPlain.textTerms_eq`**: the texts that are looked for are its content words.
-/

namespace Worklog.Query

open Worklog.Text

/-! ## 1. Characters of the normal form -/

theorem scan_spec : ∀ {inQuotes : Bool} {q : Text},
    (∀ c ∈ (scan inQuotes q).1, c ∈ q) ∧ ∀ t ∈ (scan inQuotes q).2, ∀ c ∈ t, c ∈ q
  | _, [] => ⟨fun _ h => h, fun _ h => absurd h List.not_mem_nil⟩
  | inQuotes, d :: q => by
      have keep : ∀ {b : Bool}, (∀ c ∈ d :: (scan b q).1, c ∈ d :: q) ∧
          ∀ t ∈ (scan b q).2, ∀ c ∈ t, c ∈ d :: q := fun {b} => by
        obtain ⟨h1, h2⟩ := @scan_spec b q
        refine ⟨fun c hc => ?_, fun t ht c hc => List.mem_cons_of_mem _ (h2 t ht c hc)⟩
        rcases List.mem_cons.mp hc with rfl | hc
        · exact List.mem_cons_self
        · exact List.mem_cons_of_mem _ (h1 c hc)
      rw [scan]
      split
      · exact keep
      · split
        · refine ⟨fun c hc => absurd hc List.not_mem_nil, fun t ht c hc => ?_⟩
          obtain ⟨h1, h2⟩ := scan_spec (q := q)
          rcases mem_pushRun.mp ht with ⟨rfl, -⟩ | ht
          · exact List.mem_cons_of_mem _ (h1 c hc)
          · exact List.mem_cons_of_mem _ (h2 t ht c hc)
        · exact keep

/-- The characters of a token are characters of the query. -/
theorem mem_of_mem_tokens {q t : Text} (h : t ∈ tokens q) {c : Char} (hc : c ∈ t) : c ∈ q := by
  obtain ⟨h1, h2⟩ := scan_spec (q := q)
  rcases mem_pushRun.mp h with ⟨rfl, -⟩ | h
  · exact h1 c hc
  · exact h2 t h c hc

/-- A character of the normal form is a space, or comes from the lower case of the query. -/
theorem mem_collapse {q : Text} {c : Char} (h : c ∈ collapse q) : c = ' ' ∨ c ∈ lower q := by
  rcases mem_joinWith h with h | ⟨w, hw, h⟩
  · exact Or.inl (List.mem_singleton.mp h)
  · exact Or.inr ((mem_words hw).1.subset h)

theorem mem_normalize {q : Text} {c : Char} (h : c ∈ normalize q) : c = ' ' ∨ c ∈ lower q := by
  rcases mem_joinWith h with h | ⟨t, ht, h⟩
  · exact Or.inl (List.mem_singleton.mp h)
  · exact mem_collapse (mem_of_mem_tokens (List.mem_filter.mp ht).1 h)

/-- **A query in normal form is in lower case**, character by character. -/
theorem stays_of_mem_normalize {q : Text} {c : Char} (h : c ∈ normalize q) : stays c = true := by
  rcases mem_normalize h with rfl | h
  · decide
  · exact stays_of_mem_lower h

/-! ## 2. Texts without syntax -/

section NoOperators

variable {q : Text}

/-- What carries syntax does not occur. -/
theorem notMem_of_noOperators (h : Plan.hasOperators q = false) {c : Char}
    (hc : c ∈ Plan.operators) : c ∉ q := by
  intro hq
  have hnone := List.any_eq_false.mp h c hq
  exact hnone (List.contains_iff_mem.mpr hc)

theorem noOperators_of_subset (h : Plan.hasOperators q = false) {w : Text}
    (hw : ∀ c ∈ w, c ∈ q) : Plan.hasOperators w = false :=
  List.any_eq_false.mpr fun c hc => List.any_eq_false.mp h c (hw c hc)

/-- What a word without syntax contributes: text, unless it is a comparison. -/
def wordPart (p : Precision) (w : Text) : Part :=
  match comparison? w with
  | some (bound, value) =>
    match Duration.parse p value with
    | some seconds => .length ⟨bound, .ofRat seconds⟩
    | none => .problem (.noLength w)
  | none => .text w

theorem partOf_of_noOperators (h : Plan.hasOperators q = false) (p : Precision) (now : Moment) :
    partOf p now q = .ok (some (wordPart p q)) := by
  have hcolon : q.dropWhile (· != ':') = [] := by
    rw [List.dropWhile_eq_nil_iff]
    intro c hc
    rw [bne_iff_ne]
    rintro rfl
    exact notMem_of_noOperators h (by decide) hc
  have hquote : ¬ (q.head? == some '"') = true := by
    rw [beq_iff_eq]
    exact fun e => notMem_of_noOperators h (by decide) (List.mem_of_head? e)
  have hplain : plainPart p q = some (wordPart p q) := by
    unfold plainPart wordPart
    cases comparison? q with
    | none => exact if_neg hquote
    | some c =>
        dsimp only
        cases Duration.parse p c.2 with
        | _ => rfl
  unfold partOf
  split
  next rest => exact absurd List.mem_cons_self (notMem_of_noOperators h (c := '-') (by decide))
  next =>
    rw [hcolon]
    exact congrArg Except.ok hplain

/-- **A text without syntax is read word by word**, and always can be. -/
theorem read_of_noOperators (h : Plan.hasOperators q = false) (p : Precision) (now : Moment) :
    read p now q = .ok (ofParts ((words q).map (wordPart p))) := by
  have hquote : '"' ∉ q := notMem_of_noOperators h (by decide)
  have hparts : (words q).mapM (partOf p now) = .ok ((words q).map fun w => some (wordPart p w)) :=
    mapM_ok fun w hw => partOf_of_noOperators
      (noOperators_of_subset h fun _ hc => (mem_words hw).1.subset hc) p now
  have hcount : quoteCount q = 0 := List.count_eq_zero.mpr hquote
  have hall : ((words q).map fun w => some (wordPart p w)).filterMap id =
      (words q).map (wordPart p) := by
    rw [List.filterMap_map]
    exact congrFun (List.filterMap_eq_map (f := wordPart p)) _
  unfold read
  rw [tokens_eq_words hquote, hparts]
  show Except.ok (ofParts (_ ++ quoteProblem q)) = _
  rw [hall, quoteProblem, hcount, if_neg (by decide), List.append_nil]

end NoOperators

/-! ## 3. Plain queries -/

/-- **A query in normal form without syntax.** -/
structure IsPlain (q : Text) : Prop where
  normal : normalize q = q
  noOperators : Plan.hasOperators q = false
  noComparison : ∀ w ∈ words q, comparison? w = none

namespace IsPlain

variable {q : Text}

theorem stays (h : IsPlain q) {c : Char} (hc : c ∈ q) : Text.stays c = true :=
  stays_of_mem_normalize (by rw [h.normal]; exact hc)

theorem lower_eq (h : IsPlain q) : lower q = q := lower_of_stays fun _ => h.stays

theorem notMem (h : IsPlain q) {c : Char} (hc : c ∈ Plan.operators) : c ∉ q :=
  notMem_of_noOperators h.noOperators hc

theorem quote_notMem (h : IsPlain q) : '"' ∉ q := h.notMem (by decide)

/-- The tokens of which the normal form chooses are the words. -/
theorem tokens_collapse (h : IsPlain q) : tokens (collapse q) = words q := by
  have hwords : collapse q = joinWith [' '] (words q) := by
    unfold collapse
    rw [h.lower_eq]
  have hquote : '"' ∉ collapse q := by
    intro hc
    rcases mem_collapse hc with hc | hc
    · exact absurd hc (by decide)
    · rw [h.lower_eq] at hc
      exact h.quote_notMem hc
  rw [tokens_eq_words hquote, hwords]
  exact words_joinWith fun w hw => (mem_words hw).2

/-- All words are kept. -/
theorem filter_words (h : IsPlain q) : (words q).filter keeps = words q := by
  have hjoin : joinWith [' '] ((words q).filter keeps) = q := by
    rw [← h.tokens_collapse]
    exact h.normal
  have hwords : words (joinWith [' '] ((words q).filter keeps)) = (words q).filter keeps :=
    words_joinWith fun w hw => (mem_words (List.mem_filter.mp hw).1).2
  rw [hjoin] at hwords
  exact hwords.symm

/-- **A plain query is its words with a space between them.** -/
theorem joinWith_words (h : IsPlain q) : joinWith [' '] (words q) = q := by
  have hjoin := h.normal
  unfold normalize at hjoin
  rwa [h.tokens_collapse, h.filter_words] at hjoin

/-- A word of a plain query holds no syntax. -/
theorem notMem_word (h : IsPlain q) {w : Text} (hw : w ∈ words q) {c : Char}
    (hc : c ∈ Plan.operators) : c ∉ w := fun hm => h.notMem hc ((mem_words hw).1.subset hm)

/-- A word of a plain query has two characters at least. -/
theorem two_le_length (h : IsPlain q) {w : Text} (hw : w ∈ words q) : 2 ≤ w.length := by
  have hkeeps : keeps w = true := by
    have hm : w ∈ (words q).filter keeps := by rw [h.filter_words]; exact hw
    exact (List.mem_filter.mp hm).2
  have hhead : ∀ c ∈ Plan.operators, ¬ w.head? = some c := fun c hc e =>
    h.notMem_word hw hc (List.mem_of_head? e)
  simp only [keeps, Bool.or_eq_true, decide_eq_true_eq, beq_iff_eq, List.contains_iff_mem] at hkeeps
  rcases hkeeps with ((hlength | hcolon) | hhyphen) | hquote
  · exact hlength
  · exact absurd hcolon (h.notMem_word hw (by decide))
  · exact absurd hhyphen (hhead _ (by decide))
  · exact absurd hquote (hhead _ (by decide))

theorem lower_word (h : IsPlain q) {w : Text} (hw : w ∈ words q) : lower w = w :=
  lower_of_stays fun _ hc => h.stays ((mem_words hw).1.subset hc)

end IsPlain

/-! ## 4. What a plain query asks -/

/-- The query that asks for some words. -/
def ofWords (ws : List Text) : Query := { blank with texts := ws }

theorem ofParts_text (ws : List Text) : ofParts (ws.map .text) = ofWords ws := by
  induction ws with
  | nil => rfl
  | cons w ws ih =>
      show cons (.text w) (ofParts (ws.map .text)) = _
      rw [ih]
      rfl

/-- **A plain query asks for its words** and for nothing else. -/
theorem IsPlain.read_eq {q : Text} (h : IsPlain q) (p : Precision) (now : Moment) :
    read p now q = .ok (ofWords (words q)) := by
  have htext : (words q).map (wordPart p) = (words q).map .text :=
    List.map_congr_left fun w hw => by rw [wordPart, h.noComparison w hw]
  rw [read_of_noOperators h.noOperators, htext, ofParts_text]

/-- The content words of a plain query are those of its words that are no stop words. -/
theorem IsPlain.contentWords_eq {q : Text} (h : IsPlain q) :
    Term.contentWords q = (words q).filter (!Term.isStopWord ·) := by
  unfold Term.contentWords
  rw [h.lower_eq]
  refine List.filter_congr fun w hw => ?_
  have hlength : decide (Term.minLength ≤ w.length) = true :=
    decide_eq_true (h.two_le_length hw)
  rw [Term.isContent, hlength, Bool.true_and]

/-- **The texts that are looked for are the content words** of a plain query. -/
theorem IsPlain.textTerms_eq {q : Text} (h : IsPlain q) :
    textTerms (ofWords (words q)) = Term.contentWords q := by
  have hlower : (words q).map lower = words q := by
    rw [List.map_congr_left fun w hw => h.lower_word hw]
    exact List.map_id' _
  show ((words q).map lower).filter isSought = (words (lower q)).filter Term.isContent
  rw [hlower, h.lower_eq]
  refine List.filter_congr fun w hw => ?_
  have hspace : w.contains ' ' = false := by
    rw [Bool.eq_false_iff, ne_eq, List.contains_iff_mem]
    intro hm
    exact absurd ((mem_words hw).2.2 _ hm) (by decide)
  rw [isSought, hspace, Bool.false_or]

end Worklog.Query
