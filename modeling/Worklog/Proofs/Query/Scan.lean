import Worklog.Proofs.Query.Token

/-!
# How the tokens divide a query

Cutting a query into tokens loses nothing but the blanks outside quotes, and cuts nowhere else. A
blank stands outside quotes if the number of quotes in front of it is even; this is told from the
query alone, without scanning it.

* `Query.isGap`, `Query.withoutGaps`: the blanks outside quotes, and a query without them;
* **`Query.flatten_tokens`**: the tokens one after the other are the query without its gaps;
* `Query.blank_between_quotes`: a blank in a token stands between quotes of the token;
* `Text.words_eq_splitOnP`: the words of a text are what is left between its blanks;
* **`Query.tokens_divide`**: all that holds of the tokens of a query.
-/

namespace Worklog

namespace Text

/-! ## 1. Words between blanks -/

theorem pushRun_eq (run : Text) (runs : List Text) :
    pushRun run runs = if !run.isEmpty then run :: runs else runs := by
  cases run <;> rfl

theorem flatten_pushRun (run : Text) (runs : List Text) :
    (pushRun run runs).flatten = run ++ runs.flatten := by
  cases run <;> rfl

theorem splitOnP_eq_wordsFrom : ∀ t : Text, ∃ more : List Text,
    t.splitOnP isBlank = (wordsFrom t).1 :: more ∧
      more.filter (fun w => !w.isEmpty) = (wordsFrom t).2
  | [] => ⟨[], List.splitOnP_nil, rfl⟩
  | c :: t => by
      obtain ⟨more, hsplit, hmore⟩ := splitOnP_eq_wordsFrom t
      rw [List.splitOnP_cons_eq_if_modifyHead, hsplit, wordsFrom]
      by_cases hc : isBlank c = true
      · simp only [hc, if_true]
        refine ⟨_, rfl, ?_⟩
        rw [List.filter_cons, hmore, pushRun_eq]
      · simp only [hc, if_false, Bool.false_eq_true]
        exact ⟨more, rfl, hmore⟩

/-- **The words of a text are what is left between its blanks**, as far as something is left. -/
theorem words_eq_splitOnP (t : Text) :
    words t = (t.splitOnP isBlank).filter fun w => !w.isEmpty := by
  obtain ⟨more, hsplit, hmore⟩ := splitOnP_eq_wordsFrom t
  rw [hsplit, List.filter_cons, hmore, ← pushRun_eq]
  rfl

end Text

namespace Query

open Worklog.Text

/-! ## 2. Gaps -/

/-- **Whether a query has a gap where a character stands**: the character is a blank, and the number
    of quotes in front of it is even. -/
def isGap (q : Text) (c : Char) (position : Nat) : Bool :=
  isBlank c && quoteCount (q.take position) % 2 == 0

/-- **A query without its gaps.** -/
def withoutGaps (q : Text) : Text := (q.zipIdx.filter fun e => !isGap q e.1 e.2).map (·.1)

theorem quoteCount_concat (t : Text) (c : Char) :
    quoteCount (t ++ [c]) = quoteCount t + if c = '"' then 1 else 0 := by
  unfold quoteCount
  rw [List.count_append, List.count_singleton]
  simp only [beq_iff_eq]

/-- What scanning leaves of the end of a query: `before` is what stands in front of it, and says
    whether the end starts between quotes. -/
theorem flatten_scan : ∀ {b : Bool} (before : Text) (q : Text),
    quoteCount before % 2 = (if b then 1 else 0) →
    (scan b q).1 ++ (scan b q).2.flatten =
      ((q.zipIdx before.length).filter fun e => !isGap (before ++ q) e.1 e.2).map (·.1)
  | b, before, [], _ => rfl
  | b, before, c :: q, h => by
      have hlength : (before ++ [c]).length = before.length + 1 := List.length_append
      have hwhole : before ++ c :: q = (before ++ [c]) ++ q := by simp
      have hgap : isGap (before ++ c :: q) c before.length = (isBlank c && !b) := by
        unfold isGap
        rw [List.take_left', h]
        · cases b <;> rfl
        · rfl
      have hcount := quoteCount_concat before c
      rw [List.zipIdx_cons, List.filter_cons, hgap, hwhole, ← hlength]
      by_cases hc : c = '"'
      · subst hc
        have hodd : quoteCount (before ++ ['"']) % 2 = if !b then 1 else 0 := by
          rw [hcount, if_pos rfl]
          cases b <;> simp at h ⊢ <;> omega
        rw [scan_quote, List.cons_append, flatten_scan (before ++ ['"']) q hodd]
        rfl
      · have ih := flatten_scan (before ++ [c]) q (by rw [hcount, if_neg hc, Nat.add_zero, h])
        by_cases hcut : isBlank c = false ∨ b = true
        · have hkept : (!(isBlank c && !b)) = true := by
            rcases hcut with hcut | hcut <;> simp [hcut]
          rw [scan_cons hc hcut, if_pos hkept, List.map_cons, List.cons_append, ih]
        · rw [not_or, Bool.not_eq_false, Bool.not_eq_true] at hcut
          obtain ⟨hblank, rfl⟩ := hcut
          rw [scan_blank hblank, hblank]
          exact (flatten_pushRun _ _).trans ih

/-- **The tokens one after the other are the query without its gaps.** -/
theorem flatten_tokens (q : Text) : (tokens q).flatten = withoutGaps q :=
  (flatten_pushRun _ _).trans (flatten_scan [] q rfl)

/-! ## 3. Blanks in tokens -/

/-- **A blank in a token stands between quotes of the token**: a token that is closed in front of a
    blank would be cut there. -/
theorem blank_between_quotes {q t x y : Text} {c : Char} (ht : t ∈ tokens q)
    (hsplit : t = x ++ c :: y) (hc : isBlank c = true) : quoteCount x % 2 = 1 := by
  by_contra hodd
  have hclosed : isClosed false x = true := isClosed_iff.mpr (by simp; omega)
  have htokens := (tokens_of_mem ht).2
  rw [hsplit, tokens_append_blank hc hclosed] at htokens
  have hwhole : x ++ c :: y ∈ tokens x ++ tokens y := htokens ▸ List.mem_singleton_self _
  have hlonger : (x ++ c :: y).length ≤ x.length ∨ (x ++ c :: y).length ≤ y.length :=
    (List.mem_append.mp hwhole).imp (fun h => (tokens_of_mem h).1.length_le)
      fun h => (tokens_of_mem h).1.length_le
  rw [List.length_append, List.length_cons] at hlonger
  omega

theorem ne_nil_of_mem_tokens {q t : Text} (ht : t ∈ tokens q) : t ≠ [] := by
  intro hnil
  have htokens := (tokens_of_mem ht).2
  rw [hnil, tokens_nil] at htokens
  cases htokens

/-! ## 4. The tokens of a query -/

/-- **Texts that divide a query**: none is empty, together they are the query without its gaps, only
    the last can leave a quote open, each has its blanks between its quotes, and they are the tokens
    of the text that joins them. -/
structure Divide (q : Text) (ts : List Text) : Prop where
  ne_nil : ∀ t ∈ ts, t ≠ []
  flatten : ts.flatten = withoutGaps q
  closed : ∀ t ∈ ts.dropLast, quoteCount t % 2 = 0
  blanks : ∀ t ∈ ts, ∀ x c y, t = x ++ c :: y → isBlank c = true → quoteCount x % 2 = 1
  joined : tokens (joinWith [' '] ts) = ts

/-- Only the last token can leave a quote open, by the number of its quotes. -/
theorem even_of_mem_dropLast {q t : Text} (ht : t ∈ (tokens q).dropLast) :
    quoteCount t % 2 = 0 := by
  have hne : tokens q ≠ [] := fun hnil => by
    rw [hnil] at ht
    cases ht
  have hclosed := pairwise_tokens q
  rw [← List.dropLast_concat_getLast hne] at hclosed
  have hboth := (List.pairwise_append.mp hclosed).2.2 t ht
  exact isClosed_iff.mp (hboth _ (List.mem_singleton_self _))

/-- **The tokens divide their query**, whichever quotes and blanks it has; without quotes they are
    what is left between the blanks. -/
theorem tokens_divide (q : Text) : Divide q (tokens q) ∧
    ('"' ∉ q → tokens q = (q.splitOnP isBlank).filter fun w => !w.isEmpty) := by
  refine ⟨⟨fun t => ne_nil_of_mem_tokens, flatten_tokens q, fun t => even_of_mem_dropLast,
    ?_, ?_⟩, fun hq => ?_⟩
  · intro t ht x c y hsplit hc
    exact blank_between_quotes ht hsplit hc
  · exact tokens_joinWith_of_pairwise (fun t ht => (tokens_of_mem ht).2) (pairwise_tokens q)
  · rw [tokens_eq_words hq, words_eq_splitOnP]

/-- A query without quotes, and one that leaves its last quote open. -/
theorem tokens_divide_both : '"' ∉ " a  b".toList ∧
    tokens " a  b".toList = (" a  b".toList.splitOnP isBlank).filter (fun w => !w.isEmpty) ∧
    Divide "a\"b c\" \"d e".toList ["a\"b c\"".toList, "\"d e".toList] :=
  ⟨by decide, (tokens_divide " a  b".toList).2 (by decide),
    (tokens_divide "a\"b c\" \"d e".toList).1⟩

end Query

end Worklog
