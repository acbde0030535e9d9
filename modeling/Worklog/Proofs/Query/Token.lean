import Worklog.Proofs.Query.Normal

/-!
# Tokens and quotes

A query is closed if each quote in it has its partner. Then a blank behind it cuts its tokens off,
and from this one equation comes the rest:

* `Query.isClosed_iff`: closed is what holds an even number of quotes;
* **`Query.tokens_append_blank`**: behind a closed text a blank cuts the tokens in two;
* `Query.tokens_of_mem`: a token is its own only token;
* `Query.pairwise_tokens`: only the last token of a query can be open;
* `Query.mem_tokens`: a token of a closed query is closed;
* `Query.IsToken.head_not_blank`, `Query.IsToken.last_not_blank`: it has no blank at its ends;
* **`Query.tokens_joinWith_of_pairwise`**: texts that are their own only tokens are the tokens of
  the text that joins them, if only the last one can be open.
-/

namespace Worklog.Query

open Worklog.Text

/-! ## 1. Closed texts -/

/-- Whether a text ends outside quotes, where `inQuotes` says whether it starts between them. -/
def isClosed : Bool → Text → Bool
  | inQuotes, [] => !inQuotes
  | inQuotes, c :: t => if c == '"' then isClosed (!inQuotes) t else isClosed inQuotes t

@[simp] theorem isClosed_nil (b : Bool) : isClosed b [] = !b := rfl

theorem isClosed_quote (b : Bool) (t : Text) : isClosed b ('"' :: t) = isClosed (!b) t := rfl

theorem isClosed_cons {c : Char} (hc : c ≠ '"') (b : Bool) (t : Text) :
    isClosed b (c :: t) = isClosed b t := if_neg fun h => hc (eq_of_beq h)

theorem isClosed_append : ∀ {b : Bool} {x : Text}, isClosed b x = true → ∀ y : Text,
    isClosed b (x ++ y) = isClosed false y
  | b, [], h, y => by
      cases b with
      | false => rfl
      | true => cases h
  | b, c :: x, h, y => by
      by_cases hc : c = '"'
      · subst hc
        rw [isClosed_quote] at h
        rw [List.cons_append, isClosed_quote]
        exact isClosed_append h y
      · rw [isClosed_cons hc] at h
        rw [List.cons_append, isClosed_cons hc]
        exact isClosed_append h y

/-- **A text is closed if it holds an even number of quotes.** -/
theorem isClosed_iff {t : Text} : ∀ {b : Bool},
    isClosed b t = true ↔ quoteCount t % 2 = if b then 1 else 0 := by
  induction t with
  | nil =>
      intro b
      cases b with
      | _ => simp [quoteCount]
  | cons c t ih =>
      intro b
      by_cases hc : c = '"'
      · subst hc
        have hcount : quoteCount ('"' :: t) = quoteCount t + 1 := List.count_cons_self
        rw [isClosed_quote, ih, hcount]
        cases b with
        | false =>
            simp only [Bool.not_false, if_true, Bool.false_eq_true, if_false]
            omega
        | true =>
            simp only [Bool.not_true, if_true, Bool.false_eq_true, if_false]
            omega
      · have hcount : quoteCount (c :: t) = quoteCount t := List.count_cons_of_ne hc
        rw [isClosed_cons hc, ih, hcount]

/-! ## 2. Scanning -/

theorem scan_quote (b : Bool) (t : Text) :
    scan b ('"' :: t) = ('"' :: (scan (!b) t).1, (scan (!b) t).2) := rfl

theorem scan_blank {c : Char} (hc : isBlank c = true) (t : Text) :
    scan false (c :: t) = ([], tokens t) := by
  have hquote : ¬ (c == '"') = true := fun e => by
    rw [eq_of_beq e] at hc
    exact absurd hc (by decide)
  rw [scan, if_neg hquote, hc]
  rfl

/-- What is no quote, and no blank outside quotes, continues the token. -/
theorem scan_cons {b : Bool} {c : Char} (hc : c ≠ '"') (h : isBlank c = false ∨ b = true)
    (t : Text) : scan b (c :: t) = (c :: (scan b t).1, (scan b t).2) := by
  have hquote : ¬ (c == '"') = true := fun e => hc (eq_of_beq e)
  have hcut : ¬ (isBlank c && !b) = true := by
    rcases h with h | h
    · rw [h, Bool.false_and]
      exact Bool.false_ne_true
    · rw [h, Bool.not_true, Bool.and_false]
      exact Bool.false_ne_true
  rw [scan, if_neg hquote, if_neg hcut]

theorem scan_append {b : Bool} : ∀ {x : Text},
    (∀ c ∈ x, c ≠ '"' ∧ (isBlank c = false ∨ b = true)) → ∀ y : Text,
    scan b (x ++ y) = (x ++ (scan b y).1, (scan b y).2)
  | [], _, _ => rfl
  | c :: x, h, y => by
      have ih := scan_append (x := x) (fun d hd => h d (List.mem_cons_of_mem _ hd)) y
      obtain ⟨hc, hblank⟩ := h c List.mem_cons_self
      rw [List.cons_append, scan_cons hc hblank, ih]
      rfl

theorem tokens_cons_blank {c : Char} (hc : isBlank c = true) (t : Text) :
    tokens (c :: t) = tokens t := by
  show pushRun (scan false (c :: t)).1 (scan false (c :: t)).2 = tokens t
  rw [scan_blank hc]
  rfl

theorem scan_append_blank {c : Char} (hc : isBlank c = true) (y : Text) :
    ∀ {b : Bool} {x : Text}, isClosed b x = true →
      scan b (x ++ c :: y) = ((scan b x).1, (scan b x).2 ++ tokens y)
  | b, [], h => by
      cases b with
      | false => exact scan_blank hc y
      | true => cases h
  | b, d :: x, h => by
      by_cases hd : d = '"'
      · subst hd
        rw [isClosed_quote] at h
        rw [List.cons_append, scan_quote, scan_quote, scan_append_blank hc y h]
      · rw [isClosed_cons hd] at h
        have ih := scan_append_blank hc y h
        by_cases hcut : isBlank d = false ∨ b = true
        · rw [List.cons_append, scan_cons hd hcut, scan_cons hd hcut, ih]
        · rw [not_or, Bool.not_eq_false, Bool.not_eq_true] at hcut
          obtain ⟨hd, rfl⟩ := hcut
          rw [List.cons_append, scan_blank hd, scan_blank hd]
          refine Prod.ext rfl ?_
          show pushRun (scan false (x ++ c :: y)).1 (scan false (x ++ c :: y)).2 = tokens x ++ _
          rw [ih]
          exact pushRun_append _ _ _

/-- **Behind a closed text a blank cuts the tokens in two.** -/
theorem tokens_append_blank {c : Char} (hc : isBlank c = true) {x : Text}
    (hx : isClosed false x = true) (y : Text) : tokens (x ++ c :: y) = tokens x ++ tokens y := by
  show pushRun (scan false (x ++ c :: y)).1 (scan false (x ++ c :: y)).2 = _
  rw [scan_append_blank hc y hx]
  exact pushRun_append _ _ _

/-! ## 3. Tokens -/

/-- A text could be a token: it is its own only token, and is closed. -/
structure IsToken (t : Text) : Prop where
  tokens : tokens t = [t]
  closed : isClosed false t = true

theorem tokens_of_scan {t : Text} (hne : t ≠ []) (h : scan false t = (t, [])) :
    tokens t = [t] := by
  show pushRun (scan false t).1 (scan false t).2 = [t]
  rw [h]
  exact pushRun_of_ne_nil hne []

/-- What scanning leaves: the token that a text continues is a beginning of it, the others are
    parts, and each is cut no further. -/
theorem scan_parts : ∀ (b : Bool) (q : Text),
    (scan b q).1 <+: q ∧ scan b (scan b q).1 = ((scan b q).1, []) ∧
      ∀ t ∈ (scan b q).2, t <:+: q ∧ t ≠ [] ∧ scan false t = (t, [])
  | b, [] => ⟨List.prefix_refl _, rfl, fun _ ht => absurd ht List.not_mem_nil⟩
  | b, c :: q => by
      by_cases hc : c = '"'
      · subst hc
        obtain ⟨hbegins, hscan, hmore⟩ := scan_parts (!b) q
        rw [scan_quote]
        refine ⟨List.cons_prefix_cons.mpr ⟨rfl, hbegins⟩, ?_, fun t ht => ?_⟩
        · rw [scan_quote, hscan]
        · exact ⟨(hmore t ht).1.trans (List.suffix_cons _ q).isInfix, (hmore t ht).2⟩
      · obtain ⟨hbegins, hscan, hmore⟩ := scan_parts b q
        by_cases hcut : isBlank c = false ∨ b = true
        · rw [scan_cons hc hcut]
          refine ⟨List.cons_prefix_cons.mpr ⟨rfl, hbegins⟩, ?_, fun t ht => ?_⟩
          · rw [scan_cons hc hcut, hscan]
          · exact ⟨(hmore t ht).1.trans (List.suffix_cons _ q).isInfix, (hmore t ht).2⟩
        · rw [not_or, Bool.not_eq_false, Bool.not_eq_true] at hcut
          obtain ⟨hblank, rfl⟩ := hcut
          rw [scan_blank hblank]
          refine ⟨List.nil_prefix, rfl, fun t ht => ?_⟩
          rcases mem_pushRun.mp ht with ⟨rfl, hne⟩ | ht
          · exact ⟨hbegins.isInfix.trans (List.suffix_cons c q).isInfix, hne, hscan⟩
          · exact ⟨(hmore t ht).1.trans (List.suffix_cons c q).isInfix, (hmore t ht).2⟩

/-- **A token** is a part of its query, and its own only token. -/
theorem tokens_of_mem {q t : Text} (h : t ∈ tokens q) : t <:+: q ∧ tokens t = [t] := by
  obtain ⟨hbegins, hscan, hmore⟩ := scan_parts false q
  rcases mem_pushRun.mp h with ⟨rfl, hne⟩ | h
  · exact ⟨hbegins.isInfix, tokens_of_scan hne hscan⟩
  · obtain ⟨hwithin, hne, hscan⟩ := hmore t h
    exact ⟨hwithin, tokens_of_scan hne hscan⟩

theorem pairwise_pushRun {P : Text → Prop} {run : Text} {runs : List Text}
    (hrun : runs ≠ [] → P run) (h : runs.Pairwise fun t _ => P t) :
    (pushRun run runs).Pairwise fun t _ => P t := by
  cases run with
  | nil => exact h
  | cons c run => exact List.pairwise_cons.mpr ⟨fun t ht => hrun (List.ne_nil_of_mem ht), h⟩

/-- Where scanning leaves quotes open: only in the last token, and only if the text leaves them
    open. -/
theorem scan_closed : ∀ (b : Bool) (q : Text),
    ((scan b q).2 ≠ [] ∨ isClosed b q = true → isClosed b (scan b q).1 = true) ∧
      ((scan b q).2.Pairwise fun t _ => isClosed false t = true) ∧
      (isClosed b q = true → ∀ t ∈ (scan b q).2, isClosed false t = true)
  | b, [] => ⟨fun h => h.resolve_left fun hne => hne rfl, .nil,
      fun _ _ ht => absurd ht List.not_mem_nil⟩
  | b, c :: q => by
      by_cases hc : c = '"'
      · subst hc
        rw [scan_quote, isClosed_quote, isClosed_quote]
        exact scan_closed (!b) q
      · by_cases hcut : isBlank c = false ∨ b = true
        · rw [scan_cons hc hcut, isClosed_cons hc, isClosed_cons hc]
          exact scan_closed b q
        · rw [not_or, Bool.not_eq_false, Bool.not_eq_true] at hcut
          obtain ⟨hblank, rfl⟩ := hcut
          obtain ⟨hfirst, hmore, hall⟩ := scan_closed false q
          rw [scan_blank hblank, isClosed_cons hc]
          refine ⟨fun _ => rfl, pairwise_pushRun (fun hne => hfirst (Or.inl hne)) hmore,
            fun h t ht => ?_⟩
          rcases mem_pushRun.mp ht with ⟨rfl, -⟩ | ht
          · exact hfirst (Or.inr h)
          · exact hall h t ht

/-- **Only the last token can be open**: a token with others behind it is closed. -/
theorem pairwise_tokens (q : Text) : (tokens q).Pairwise fun t _ => isClosed false t = true :=
  pairwise_pushRun (fun hne => (scan_closed false q).1 (Or.inl hne)) (scan_closed false q).2.1

/-- **A token of a closed query** is a part of it, and could be a token by itself. -/
theorem mem_tokens {q t : Text} (hq : isClosed false q = true) (h : t ∈ tokens q) :
    t <:+: q ∧ IsToken t := by
  obtain ⟨hwithin, htokens⟩ := tokens_of_mem h
  obtain ⟨hfirst, -, hmore⟩ := scan_closed false q
  refine ⟨hwithin, htokens, ?_⟩
  rcases mem_pushRun.mp h with ⟨rfl, -⟩ | h
  · exact hfirst (Or.inr hq)
  · exact hmore hq t h

namespace IsToken

variable {t : Text}

theorem ne_nil (h : IsToken t) : t ≠ [] := fun e => by
  have htokens := h.tokens
  rw [e] at htokens
  cases htokens

/-- A token does not start with a blank. -/
theorem head_not_blank (h : IsToken t) {c : Char} {x : Text} (ht : t = c :: x) :
    isBlank c = false := by
  rw [Bool.eq_false_iff]
  intro hc
  have hquote : c ≠ '"' := fun e => by
    rw [e] at hc
    exact absurd hc (by decide)
  have htokens := h.tokens
  have hclosed := h.closed
  rw [ht, tokens_cons_blank hc] at htokens
  rw [ht, isClosed_cons hquote] at hclosed
  have hlength : (c :: x).length ≤ x.length :=
    (mem_tokens hclosed (htokens ▸ List.mem_singleton_self _)).1.length_le
  rw [List.length_cons] at hlength
  omega

/-- A token does not end with a blank. -/
theorem last_not_blank (h : IsToken t) {c : Char} {x : Text} (ht : t = x ++ [c]) :
    isBlank c = false := by
  rw [Bool.eq_false_iff]
  intro hc
  have hquote : c ≠ '"' := fun e => by
    rw [e] at hc
    exact absurd hc (by decide)
  have hcount : quoteCount (x ++ [c]) = quoteCount x := by
    unfold quoteCount
    rw [List.count_append, List.count_eq_zero.mpr fun hm => hquote (List.mem_singleton.mp hm).symm,
      Nat.add_zero]
  have hclosed : isClosed false x = true := by
    have hall := isClosed_iff.mp (ht ▸ h.closed)
    rw [hcount] at hall
    exact isClosed_iff.mpr hall
  have htokens := h.tokens
  rw [ht, tokens_append_blank hc hclosed, tokens_nil, List.append_nil] at htokens
  have hlength : (x ++ [c]).length ≤ x.length :=
    (mem_tokens hclosed (htokens ▸ List.mem_singleton_self _)).1.length_le
  rw [List.length_append, List.length_singleton] at hlength
  omega

end IsToken

theorem isClosed_joinWith : ∀ {ts : List Text}, (∀ t ∈ ts, isClosed false t = true) →
    isClosed false (joinWith [' '] ts) = true
  | [], _ => rfl
  | [t], h => h t List.mem_cons_self
  | t :: u :: rest, h => by
      have ih : isClosed false (joinWith [' '] (u :: rest)) = true :=
        isClosed_joinWith fun v hv => h v (List.mem_cons_of_mem _ hv)
      rw [joinWith_cons_cons, List.append_assoc, isClosed_append (h t List.mem_cons_self)]
      exact ih

/-- **Texts that are their own only tokens are the tokens of the text that joins them**, if only the
    last one can be open. -/
theorem tokens_joinWith_of_pairwise : ∀ {ts : List Text}, (∀ t ∈ ts, tokens t = [t]) →
    (ts.Pairwise fun t _ => isClosed false t = true) → tokens (joinWith [' '] ts) = ts
  | [], _, _ => rfl
  | [t], h, _ => h t List.mem_cons_self
  | t :: u :: rest, h, hclosed => by
      obtain ⟨ht, hrest⟩ := List.pairwise_cons.mp hclosed
      have ih : tokens (joinWith [' '] (u :: rest)) = u :: rest :=
        tokens_joinWith_of_pairwise (fun v hv => h v (List.mem_cons_of_mem _ hv)) hrest
      rw [joinWith_cons_cons, List.append_assoc, List.singleton_append,
        tokens_append_blank (by decide) (ht u List.mem_cons_self), h t List.mem_cons_self, ih]
      rfl

/-- Texts that could be tokens are the tokens of the text that joins them. -/
theorem tokens_joinWith {ts : List Text} (h : ∀ t ∈ ts, IsToken t) :
    tokens (joinWith [' '] ts) = ts :=
  tokens_joinWith_of_pairwise (fun t ht => (h t ht).tokens)
    (List.pairwise_iff_forall_sublist.mpr fun hsub => (h _ (hsub.subset List.mem_cons_self)).closed)

end Worklog.Query
