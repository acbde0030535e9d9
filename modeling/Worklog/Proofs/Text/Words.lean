import Worklog.Query.Token

/-!
# Words and tokens

A text is cut into words at its blanks, and all about words follows from one equation:

* **`Text.words_append_blank`**: a blank cuts the words of a text in two;
* `Text.mem_words`: a word is a part of its text, is not empty, and holds no blank;
* `Text.exists_mem_words`: what is no blank lies in a word;
* `Text.words_joinWith`: texts that could be words are the words of the text that joins them;
* `Query.tokens_eq_words`: the tokens of a query without quotes are its words.
-/

namespace Worklog

namespace Text

/-! ## 1. Runs -/

@[simp] theorem pushRun_nil (runs : List Text) : pushRun [] runs = runs := rfl

theorem pushRun_of_ne_nil {run : Text} (h : run ≠ []) (runs : List Text) :
    pushRun run runs = run :: runs := by
  cases run with
  | nil => exact absurd rfl h
  | cons c run => rfl

theorem pushRun_append (run : Text) (runs more : List Text) :
    pushRun run (runs ++ more) = pushRun run runs ++ more := by
  cases run <;> rfl

theorem mem_pushRun {run w : Text} {runs : List Text} :
    w ∈ pushRun run runs ↔ (w = run ∧ run ≠ []) ∨ w ∈ runs := by
  cases run with
  | nil => simp
  | cons c run => simp [pushRun]

theorem exists_mem_pushRun {run : Text} {runs : List Text} {c : Char}
    (h : c ∈ run ∨ ∃ w ∈ runs, c ∈ w) : ∃ w ∈ pushRun run runs, c ∈ w := by
  rcases h with h | ⟨w, hw, h⟩
  · exact ⟨run, mem_pushRun.mpr (Or.inl ⟨rfl, List.ne_nil_of_mem h⟩), h⟩
  · exact ⟨w, mem_pushRun.mpr (Or.inr hw), h⟩

/-! ## 2. Words -/

theorem wordsFrom_append_blank {c : Char} (hc : isBlank c = true) (y : Text) :
    ∀ x : Text, wordsFrom (x ++ c :: y) = ((wordsFrom x).1, (wordsFrom x).2 ++ words y)
  | [] => by
      show (if isBlank c then _ else _) = _
      rw [if_pos hc]
      rfl
  | d :: x => by
      rw [List.cons_append, wordsFrom, wordsFrom_append_blank hc y x, wordsFrom]
      by_cases hd : isBlank d = true
      · simp only [hd, if_true, pushRun_append]
      · simp only [hd, if_false, Bool.false_eq_true]

/-- **A blank cuts the words of a text in two.** -/
theorem words_append_blank {c : Char} (hc : isBlank c = true) (x y : Text) :
    words (x ++ c :: y) = words x ++ words y := by
  rw [words, wordsFrom_append_blank hc]
  exact pushRun_append _ _ _

theorem wordsFrom_of_forall : ∀ {w : Text}, (∀ c ∈ w, isBlank c = false) → wordsFrom w = (w, [])
  | [], _ => rfl
  | c :: w, h => by
      have hw : wordsFrom w = (w, []) :=
        wordsFrom_of_forall fun d hd => h d (List.mem_cons_of_mem _ hd)
      rw [wordsFrom, hw]
      simp [h c List.mem_cons_self]

/-- A text without blanks is one word. -/
theorem words_of_forall {w : Text} (hne : w ≠ []) (h : ∀ c ∈ w, isBlank c = false) :
    words w = [w] := by
  rw [words, wordsFrom_of_forall h]
  exact pushRun_of_ne_nil hne []

/-- What is left of the blanks of a text: the run that it continues is a beginning, the others are
    parts, and none holds a blank. -/
theorem wordsFrom_spec : ∀ t : Text,
    (wordsFrom t).1 <+: t ∧ (∀ c ∈ (wordsFrom t).1, isBlank c = false) ∧
      ∀ w ∈ (wordsFrom t).2, w <:+: t ∧ w ≠ [] ∧ ∀ c ∈ w, isBlank c = false
  | [] => ⟨List.prefix_refl _, by simp [wordsFrom], by simp [wordsFrom]⟩
  | d :: t => by
      obtain ⟨hp, hr, hrs⟩ := wordsFrom_spec t
      rw [wordsFrom]
      by_cases hd : isBlank d = true
      · simp only [hd, if_true]
        refine ⟨List.nil_prefix, fun c hc => absurd hc List.not_mem_nil, fun w hw => ?_⟩
        rcases mem_pushRun.mp hw with ⟨rfl, hne⟩ | hw
        · exact ⟨hp.isInfix.trans (List.suffix_cons d t).isInfix, hne, hr⟩
        · obtain ⟨hi, hne, hb⟩ := hrs w hw
          exact ⟨hi.trans (List.suffix_cons d t).isInfix, hne, hb⟩
      · simp only [hd, if_false, Bool.false_eq_true]
        refine ⟨List.cons_prefix_cons.mpr ⟨rfl, hp⟩, fun c hc => ?_, fun w hw => ?_⟩
        · rcases List.mem_cons.mp hc with rfl | hc
          · exact Bool.not_eq_true _ ▸ hd
          · exact hr c hc
        · obtain ⟨hi, hne, hb⟩ := hrs w hw
          exact ⟨hi.trans (List.suffix_cons d t).isInfix, hne, hb⟩

/-- **A word is a part of its text, is not empty, and holds no blank.** -/
theorem mem_words {t w : Text} (h : w ∈ words t) :
    w <:+: t ∧ w ≠ [] ∧ ∀ c ∈ w, isBlank c = false := by
  obtain ⟨hp, hr, hrs⟩ := wordsFrom_spec t
  rcases mem_pushRun.mp h with ⟨rfl, hne⟩ | h
  · exact ⟨hp.isInfix, hne, hr⟩
  · exact hrs w h

theorem mem_wordsFrom {c : Char} (hc : isBlank c = false) : ∀ {t : Text}, c ∈ t →
    c ∈ (wordsFrom t).1 ∨ ∃ w ∈ (wordsFrom t).2, c ∈ w
  | d :: t, h => by
      have ih : c ∈ t → c ∈ (wordsFrom t).1 ∨ ∃ w ∈ (wordsFrom t).2, c ∈ w := mem_wordsFrom hc
      rw [wordsFrom]
      by_cases hd : isBlank d = true
      · simp only [hd, if_true]
        have hne : c ≠ d := fun e => by
          rw [← e, hc] at hd
          cases hd
        exact Or.inr (exists_mem_pushRun (ih ((List.mem_cons.mp h).resolve_left hne)))
      · simp only [hd, if_false, Bool.false_eq_true]
        rcases List.mem_cons.mp h with rfl | h
        · exact Or.inl List.mem_cons_self
        · exact (ih h).imp_left (List.mem_cons_of_mem d)

/-- **What is no blank lies in a word.** -/
theorem exists_mem_words {t : Text} {c : Char} (h : c ∈ t) (hc : isBlank c = false) :
    ∃ w ∈ words t, c ∈ w := exists_mem_pushRun (mem_wordsFrom hc h)

/-- A blank text has no words. -/
theorem words_of_isBlankText {t : Text} (h : isBlankText t = true) : words t = [] := by
  refine List.eq_nil_iff_forall_not_mem.mpr fun w hw => ?_
  obtain ⟨hwithin, hne, hblank⟩ := mem_words hw
  obtain ⟨c, hc⟩ := List.exists_mem_of_ne_nil w hne
  have hall : isBlank c = true := List.all_eq_true.mp h c (hwithin.subset hc)
  rw [hblank c hc] at hall
  cases hall

/-! ## 3. Joined texts -/

theorem joinWith_cons_cons (sep t u : Text) (rest : List Text) :
    joinWith sep (t :: u :: rest) = t ++ sep ++ joinWith sep (u :: rest) := rfl

/-- Lists that are not empty can be joined one by one. -/
theorem joinWith_append (sep : Text) {us : List Text} (hus : us ≠ []) : ∀ {ts : List Text},
    ts ≠ [] → joinWith sep (ts ++ us) = joinWith sep ts ++ sep ++ joinWith sep us
  | [t], _ => by
      obtain ⟨u, rest, rfl⟩ := List.exists_cons_of_ne_nil hus
      rfl
  | t :: v :: rest, _ => by
      have ih := joinWith_append sep hus (List.cons_ne_nil v rest)
      rw [List.cons_append] at ih
      rw [List.cons_append, List.cons_append, joinWith_cons_cons, ih, joinWith_cons_cons]
      simp only [List.append_assoc]

/-- A character of joined texts comes from one of them or from the separator. -/
theorem mem_joinWith {sep : Text} {c : Char} : ∀ {ts : List Text}, c ∈ joinWith sep ts →
    c ∈ sep ∨ ∃ t ∈ ts, c ∈ t
  | [], h => absurd h List.not_mem_nil
  | [t], h => Or.inr ⟨t, List.mem_cons_self, h⟩
  | t :: u :: rest, h => by
      rw [joinWith_cons_cons, List.mem_append, List.mem_append] at h
      rcases h with (h | h) | h
      · exact Or.inr ⟨t, List.mem_cons_self, h⟩
      · exact Or.inl h
      · rcases mem_joinWith h with h | ⟨v, hv, h⟩
        · exact Or.inl h
        · exact Or.inr ⟨v, List.mem_cons_of_mem _ hv, h⟩

/-- The characters of a text are among those of the text that joins it with others. -/
theorem mem_joinWith_of_mem {sep t : Text} {c : Char} (hc : c ∈ t) : ∀ {ts : List Text}, t ∈ ts →
    c ∈ joinWith sep ts
  | [u], h => by
      rw [← List.mem_singleton.mp h]
      exact hc
  | u :: v :: rest, h => by
      rw [joinWith_cons_cons]
      rcases List.mem_cons.mp h with rfl | h
      · exact List.mem_append_left _ (List.mem_append_left _ hc)
      · exact List.mem_append_right _ (mem_joinWith_of_mem hc h)

/-- **Texts that could be words are the words of the text that joins them.** -/
theorem words_joinWith : ∀ {ts : List Text}, (∀ t ∈ ts, t ≠ [] ∧ ∀ c ∈ t, isBlank c = false) →
    words (joinWith [' '] ts) = ts
  | [], _ => rfl
  | [t], h => words_of_forall (h t List.mem_cons_self).1 (h t List.mem_cons_self).2
  | t :: u :: rest, h => by
      obtain ⟨hne, hb⟩ := h t List.mem_cons_self
      have ih : words (joinWith [' '] (u :: rest)) = u :: rest :=
        words_joinWith fun v hv => h v (List.mem_cons_of_mem _ hv)
      rw [joinWith_cons_cons, List.append_assoc, List.singleton_append,
        words_append_blank (by decide), words_of_forall hne hb, ih]
      rfl

end Text

/-! ## 4. Tokens -/

namespace Query

theorem scan_eq_wordsFrom : ∀ {t : Text}, '"' ∉ t → scan false t = Text.wordsFrom t
  | [], _ => rfl
  | c :: t, h => by
      have hc : ¬ (c == '"') = true := fun e => h (List.mem_cons.mpr (Or.inl (eq_of_beq e).symm))
      have ih : scan false t = Text.wordsFrom t :=
        scan_eq_wordsFrom fun hm => h (List.mem_cons_of_mem _ hm)
      rw [scan, if_neg hc, ih, Text.wordsFrom]
      simp

/-- **The tokens of a query without quotes are its words.** -/
theorem tokens_eq_words {t : Text} (h : '"' ∉ t) : tokens t = Text.words t := by
  rw [tokens, scan_eq_wordsFrom h]
  rfl

end Query

end Worklog
