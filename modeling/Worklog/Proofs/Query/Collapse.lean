import Worklog.Proofs.Query.Token

/-!
# The tokens of a collapsed query

The normal form starts by collapsing a query: lower case, and one space for each run of blanks,
between quotes too. Quotes stay where they are, so the tokens stay the same but for that:

* `Query.tokens_lower`: the tokens of a lower-cased query are the lower-cased tokens;
* **`Query.tokens_collapse`**: the tokens of a collapsed query are the collapsed tokens;
* `Query.squeeze`, `Query.tidy`: one space for each run of blanks, blanks at the ends included, and
  the same in lower case;
* **`Query.IsToken.collapse_eq`**: a token has no blank at its ends, so it is collapsed by tidying;
* `Query.tidy_append_barrier`: what is tidied behind a quote or a hyphen does not depend on what
  stands before.
-/

namespace Worklog.Query

open Worklog.Text

/-! ## 1. Lower case -/

/-- Case rules do not look beyond the token that a text continues. -/
theorem startsCased_scan : ∀ (b : Bool) (t : Text), startsCased (scan b t).1 = startsCased t
  | _, [] => rfl
  | b, c :: t => by
      have keep : ∀ {b' : Bool}, startsCased (c :: (scan b' t).1) = startsCased (c :: t) :=
        fun {b'} => by
          have ih := startsCased_scan b' t
          unfold startsCased at ih ⊢
          by_cases hi : isIgnorable c = true
          · rw [List.dropWhile_cons_of_pos hi, List.dropWhile_cons_of_pos hi]
            exact ih
          · rw [List.dropWhile_cons_of_neg hi, List.dropWhile_cons_of_neg hi]
      by_cases hc : c = '"'
      · subst hc
        exact keep
      · by_cases hcut : isBlank c = false ∨ b = true
        · rw [scan_cons hc hcut]
          exact keep
        · rw [not_or, Bool.not_eq_false, Bool.not_eq_true] at hcut
          obtain ⟨hblank, rfl⟩ := hcut
          rw [scan_blank hblank]
          have hcased := isCased_of_isBlank hblank
          have hignorable := isIgnorable_of_isBlank hblank
          simp only [startsCased, List.dropWhile, hignorable, hcased]

/-- Quotes neither come nor go in lower case. -/
theorem ne_quote_of_mem_lowerIn {inWord : Bool} {c d : Char} {rest : Text} (hc : c ≠ '"')
    (h : d ∈ lowerIn inWord c rest) : d ≠ '"' := by
  rcases mem_lowerIn h with ⟨rfl, -⟩ | ⟨-, -, -, hsmall⟩
  · exact hc
  · rintro rfl
    exact absurd hsmall (by decide)

theorem scan_lowerFrom : ∀ (b : Bool) (q : Text) (inWord : Bool), scan b (lowerFrom inWord q) =
    (lowerFrom inWord (scan b q).1, (scan b q).2.map lower)
  | _, [], _ => rfl
  | b, c :: q, inWord => by
      by_cases hc : c = '"'
      · subst hc
        rw [lowerFrom, lowerIn_of_stays (by decide), List.singleton_append, scan_quote, scan_quote,
          scan_lowerFrom (!b) q, lowerFrom, lowerIn_of_stays (by decide), List.singleton_append]
      · by_cases hcut : isBlank c = false ∨ b = true
        · have hin : lowerIn inWord c (scan b q).1 = lowerIn inWord c q := by
            unfold lowerIn
            rw [startsCased_scan]
          have hplain : ∀ d ∈ lowerIn inWord c q, d ≠ '"' ∧ (isBlank d = false ∨ b = true) :=
            fun d hd => ⟨ne_quote_of_mem_lowerIn hc hd,
              hcut.imp_left fun hblank => not_isBlank_of_mem_lowerIn hblank hd⟩
          rw [lowerFrom, scan_append hplain, scan_lowerFrom b q, scan_cons hc hcut, lowerFrom, hin]
        · rw [not_or, Bool.not_eq_false, Bool.not_eq_true] at hcut
          obtain ⟨hblank, rfl⟩ := hcut
          have hflag : (if isIgnorable c then inWord else isCased c) = false := by
            rw [isIgnorable_of_isBlank hblank, isCased_of_isBlank hblank]
            rfl
          have ih := scan_lowerFrom false q false
          rw [lowerFrom, lowerIn_of_stays (stays_of_isBlank hblank), hflag, List.singleton_append,
            scan_blank hblank, scan_blank hblank]
          refine Prod.ext rfl ?_
          show pushRun (scan false (lowerFrom false q)).1 (scan false (lowerFrom false q)).2 = _
          rw [ih]
          exact pushRun_lower _ _

/-- **The tokens of a lower-cased query are the lower-cased tokens.** -/
theorem tokens_lower (q : Text) : tokens (lower q) = (tokens q).map lower := by
  show pushRun (scan false (lowerFrom false q)).1 (scan false (lowerFrom false q)).2 = _
  rw [scan_lowerFrom]
  exact pushRun_lower _ _

theorem isClosed_append_plain {b : Bool} : ∀ {x : Text}, (∀ c ∈ x, c ≠ '"') → ∀ y : Text,
    isClosed b (x ++ y) = isClosed b y
  | [], _, _ => rfl
  | c :: x, h, y => by
      rw [List.cons_append, isClosed_cons (h c List.mem_cons_self)]
      exact isClosed_append_plain (fun d hd => h d (List.mem_cons_of_mem _ hd)) y

theorem isClosed_lowerFrom : ∀ (b : Bool) (q : Text) (inWord : Bool),
    isClosed b (lowerFrom inWord q) = isClosed b q
  | _, [], _ => rfl
  | b, c :: q, inWord => by
      by_cases hc : c = '"'
      · subst hc
        rw [lowerFrom, lowerIn_of_stays (by decide), List.singleton_append, isClosed_quote,
          isClosed_quote]
        exact isClosed_lowerFrom (!b) q _
      · rw [lowerFrom, isClosed_append_plain fun d hd => ne_quote_of_mem_lowerIn hc hd,
          isClosed_cons hc]
        exact isClosed_lowerFrom b q _

theorem IsToken.lower {t : Text} (h : IsToken t) : IsToken (lower t) where
  tokens := by rw [tokens_lower, h.tokens]; rfl
  closed := (isClosed_lowerFrom false t false).trans h.closed

/-! ## 2. Joined words -/

/-- The text that joins the words of a text. -/
def rejoin (t : Text) : Text := joinWith [' '] (words t)

/-- The same for a text that continues a word. -/
def rejoinIn (t : Text) : Text :=
  (wordsFrom t).1 ++ if (wordsFrom t).2.isEmpty then [] else ' ' :: joinWith [' '] (wordsFrom t).2

theorem collapse_eq (q : Text) : collapse q = rejoin (lower q) := rfl

theorem rejoin_blank {c : Char} (hc : isBlank c = true) (t : Text) :
    rejoin (c :: t) = rejoin t := by
  unfold rejoin
  rw [words_cons_blank hc]

theorem wordsFrom_cons {c : Char} (hc : isBlank c = false) (t : Text) :
    wordsFrom (c :: t) = (c :: (wordsFrom t).1, (wordsFrom t).2) := by
  rw [wordsFrom, hc]
  rfl

theorem rejoin_cons {c : Char} (hc : isBlank c = false) (t : Text) :
    rejoin (c :: t) = c :: rejoinIn t := by
  have hwords : words (c :: t) = (c :: (wordsFrom t).1) :: (wordsFrom t).2 := by
    rw [words, wordsFrom_cons hc]
    rfl
  unfold rejoin rejoinIn
  rw [hwords]
  cases (wordsFrom t).2 with
  | nil => exact (List.append_nil _).symm
  | cons u rest =>
      rw [joinWith_cons_cons, List.append_assoc]
      rfl

theorem rejoinIn_cons {c : Char} (hc : isBlank c = false) (t : Text) :
    rejoinIn (c :: t) = c :: rejoinIn t := by
  unfold rejoinIn
  rw [wordsFrom_cons hc]
  rfl

theorem rejoinIn_blank {c : Char} (hc : isBlank c = true) (t : Text) :
    rejoinIn (c :: t) = if (words t).isEmpty then [] else ' ' :: rejoin t := by
  have hfrom : wordsFrom (c :: t) = ([], words t) := by
    rw [wordsFrom, hc]
    rfl
  unfold rejoinIn
  rw [hfrom]
  rfl

/-- A text that is not blank has words. -/
theorem rejoinIn_blank_of_mem {c d : Char} (hc : isBlank c = true) {t : Text} (hd : d ∈ t)
    (hblank : isBlank d = false) : rejoinIn (c :: t) = ' ' :: rejoin t := by
  obtain ⟨w, hw, -⟩ := exists_mem_words hd hblank
  have hsome : ¬ (words t).isEmpty = true := fun e => by
    rw [List.isEmpty_iff.mp e] at hw
    cases hw
  rw [rejoinIn_blank hc, if_neg hsome]

/-- A text that starts between quotes is one token if its first token holds nothing but blanks. -/
theorem scan_of_forall_isBlank : ∀ {t : Text}, (∀ c ∈ (scan true t).1, isBlank c = true) →
    scan true t = (t, [])
  | [], _ => rfl
  | c :: t, h => by
      by_cases hc : c = '"'
      · subst hc
        exact absurd (h '"' (by rw [scan_quote]; exact List.mem_cons_self)) (by decide)
      · rw [scan_cons hc (Or.inr rfl)] at h ⊢
        rw [scan_of_forall_isBlank fun d hd => h d (List.mem_cons_of_mem _ hd)]

/-- Joining the words of a text leaves its tokens alone, but for joining theirs; inside a word,
    between quotes, or between tokens. -/
structure Rejoins (t : Text) : Prop where
  word : ∀ b, scan b (rejoinIn t) = (rejoinIn (scan b t).1, (scan b t).2.map rejoin)
  quoted : scan true (rejoin t) = (rejoin (scan true t).1, (scan true t).2.map rejoin)
  apart : tokens (rejoin t) = (tokens t).map rejoin

namespace Rejoins

variable {t : Text}

theorem nil : Rejoins [] := ⟨fun _ => rfl, rfl, rfl⟩

/-- Behind the first character of a token, its words are joined as inside a word. -/
theorem apart_of_word {c : Char} {b : Bool} {t : Text} (hc : isBlank c = false)
    (hscan : ∀ u : Text, scan false (c :: u) = (c :: (scan b u).1, (scan b u).2))
    (hword : scan b (rejoinIn t) = (rejoinIn (scan b t).1, (scan b t).2.map rejoin)) :
    tokens (rejoin (c :: t)) = (tokens (c :: t)).map rejoin := by
  have hleft : tokens (c :: rejoinIn t) =
      (c :: rejoinIn (scan b t).1) :: (scan b t).2.map rejoin := by
    show pushRun (scan false (c :: rejoinIn t)).1 (scan false (c :: rejoinIn t)).2 = _
    rw [hscan, hword]
    rfl
  have hright : tokens (c :: t) = (c :: (scan b t).1) :: (scan b t).2 := by
    show pushRun (scan false (c :: t)).1 (scan false (c :: t)).2 = _
    rw [hscan]
    rfl
  rw [rejoin_cons hc, hleft, hright, List.map_cons, rejoin_cons hc]

theorem quote (h : Rejoins t) : Rejoins ('"' :: t) where
  word b := by
    rw [rejoinIn_cons (by decide), scan_quote, scan_quote, h.word, rejoinIn_cons (by decide)]
  quoted := by
    rw [rejoin_cons (by decide), scan_quote, scan_quote, h.word, rejoin_cons (by decide)]
  apart := apart_of_word (by decide) (scan_quote false) (h.word _)

theorem cons (h : Rejoins t) {c : Char} (hquote : c ≠ '"') (hblank : isBlank c = false) :
    Rejoins (c :: t) where
  word b := by
    rw [rejoinIn_cons hblank, scan_cons hquote (Or.inl hblank), scan_cons hquote (Or.inl hblank),
      h.word, rejoinIn_cons hblank]
  quoted := by
    rw [rejoin_cons hblank, scan_cons hquote (Or.inl hblank), scan_cons hquote (Or.inl hblank),
      h.word, rejoin_cons hblank]
  apart := apart_of_word hblank (fun u => scan_cons hquote (Or.inl hblank) u) (h.word _)

/-- Between quotes a blank belongs to the token. It is joined to what follows in it, or dropped at
    its end. -/
theorem word_blank (h : Rejoins t) {c : Char} (hquote : c ≠ '"') (hblank : isBlank c = true) :
    scan true (rejoinIn (c :: t)) =
      (rejoinIn (scan true (c :: t)).1, (scan true (c :: t)).2.map rejoin) := by
  rw [scan_cons hquote (Or.inr rfl)]
  by_cases hall : ∀ d ∈ (scan true t).1, isBlank d = true
  · have hscan := scan_of_forall_isBlank hall
    have hnone : rejoinIn (c :: t) = [] := by
      rw [hscan] at hall
      have hwords : words t = [] := words_of_isBlankText (List.all_eq_true.mpr hall)
      rw [rejoinIn_blank hblank, hwords]
      rfl
    rw [hscan, hnone]
    rfl
  · simp only [not_forall, Bool.not_eq_true] at hall
    obtain ⟨d, hd, hdark⟩ := hall
    have hmem : d ∈ t := (scan_parts true t).1.subset hd
    rw [rejoinIn_blank_of_mem hblank hmem hdark, rejoinIn_blank_of_mem hblank hd hdark,
      scan_cons (by decide) (Or.inr rfl), h.quoted]

theorem blank (h : Rejoins t) {c : Char} (hblank : isBlank c = true) : Rejoins (c :: t) := by
  have hquote : c ≠ '"' := fun e => by
    rw [e] at hblank
    exact absurd hblank (by decide)
  refine ⟨fun b => ?_, ?_, ?_⟩
  · cases b with
    | true => exact h.word_blank hquote hblank
    | false =>
        have hapart := h.apart
        rw [rejoinIn_blank hblank, scan_blank hblank]
        split
        next hempty =>
          have hnone : rejoin t = [] := by
            unfold rejoin
            rw [List.isEmpty_iff.mp hempty]
            rfl
          rw [hnone, tokens_nil] at hapart
          rw [← hapart]
          rfl
        next => rw [scan_blank (by decide), hapart]; rfl
  · rw [rejoin_blank hblank, h.quoted, scan_cons hquote (Or.inr rfl), rejoin_blank hblank]
  · rw [rejoin_blank hblank, tokens_cons_blank hblank]
    exact h.apart

end Rejoins

theorem rejoins : ∀ t : Text, Rejoins t
  | [] => .nil
  | c :: t => by
      by_cases hquote : c = '"'
      · subst hquote
        exact (rejoins t).quote
      · cases hblank : isBlank c with
        | true => exact (rejoins t).blank hblank
        | false => exact (rejoins t).cons hquote hblank

/-- **The tokens of a collapsed query are the collapsed tokens.** -/
theorem tokens_collapse (q : Text) : tokens (collapse q) = (tokens q).map collapse := by
  rw [collapse_eq, (rejoins (lower q)).apart, tokens_lower, List.map_map]
  rfl

/-! ## 3. Squeezed texts -/

/-- One space for each run of blanks, where `behind` says whether a blank stands before. -/
def squeezeFrom : Bool → Text → Text
  | _, [] => []
  | behind, c :: t =>
    if isBlank c then (if behind then squeezeFrom true t else ' ' :: squeezeFrom true t)
    else c :: squeezeFrom false t

/-- **One space for each run of blanks.** -/
def squeeze (t : Text) : Text := squeezeFrom false t

/-- **Lower case with one space for each run of blanks.** -/
def tidy (t : Text) : Text := squeeze (lower t)

theorem squeezeFrom_cons {c : Char} (hc : isBlank c = false) (b : Bool) (t : Text) :
    squeezeFrom b (c :: t) = c :: squeezeFrom false t := by
  rw [squeezeFrom, hc]
  rfl

theorem squeezeFrom_blank {c : Char} (hc : isBlank c = true) (t : Text) :
    squeezeFrom false (c :: t) = ' ' :: squeezeFrom true t := by
  rw [squeezeFrom, hc]
  rfl

theorem squeezeFrom_blank_blank {c : Char} (hc : isBlank c = true) (t : Text) :
    squeezeFrom true (c :: t) = squeezeFrom true t := by
  rw [squeezeFrom, hc]
  rfl

/-- A character that is no blank parts what is squeezed. -/
theorem squeezeFrom_append {c : Char} (hc : isBlank c = false) (y : Text) : ∀ (b : Bool) (x : Text),
    squeezeFrom b (x ++ c :: y) = squeezeFrom b x ++ c :: squeeze y
  | b, [] => squeezeFrom_cons hc b y
  | b, d :: x => by
      cases hd : isBlank d with
      | false =>
          rw [List.cons_append, squeezeFrom_cons hd, squeezeFrom_cons hd, squeezeFrom_append hc y]
          rfl
      | true =>
          have ih := squeezeFrom_append hc y true x
          cases b with
          | false =>
              rw [List.cons_append, squeezeFrom_blank hd, squeezeFrom_blank hd, ih]
              rfl
          | true =>
              rw [List.cons_append, squeezeFrom_blank_blank hd, squeezeFrom_blank_blank hd, ih]

theorem rejoin_append {c : Char} (hc : isBlank c = false) (y : Text) : ∀ x : Text,
    rejoinIn (x ++ c :: y) = squeezeFrom false x ++ c :: rejoinIn y ∧
      rejoin (x ++ c :: y) = squeezeFrom true x ++ c :: rejoinIn y
  | [] => ⟨rejoinIn_cons hc y, rejoin_cons hc y⟩
  | d :: x => by
      obtain ⟨hin, hout⟩ := rejoin_append hc y x
      cases hd : isBlank d with
      | false =>
          rw [List.cons_append, rejoinIn_cons hd, rejoin_cons hd, squeezeFrom_cons hd,
            squeezeFrom_cons hd, hin]
          exact ⟨rfl, rfl⟩
      | true =>
          have hmem : c ∈ x ++ c :: y := List.mem_append_right _ List.mem_cons_self
          rw [List.cons_append, rejoinIn_blank_of_mem hd hmem hc, rejoin_blank hd,
            squeezeFrom_blank hd, squeezeFrom_blank_blank hd, hout]
          exact ⟨rfl, rfl⟩

/-- Without blanks at its ends a text is squeezed by joining its words. -/
theorem IsToken.rejoin_eq {t : Text} (h : IsToken t) : rejoin t = squeeze t := by
  obtain ⟨d, u, hhead⟩ := List.exists_cons_of_ne_nil h.ne_nil
  have hd := h.head_not_blank hhead
  have hlast : t = t.dropLast ++ [t.getLast h.ne_nil] :=
    (List.dropLast_concat_getLast h.ne_nil).symm
  have hc := h.last_not_blank hlast
  have hin : rejoinIn t = squeeze t := by
    rw [hlast, (rejoin_append hc [] _).1, squeeze, squeezeFrom_append hc]
    rfl
  rw [← hin, hhead, rejoin_cons hd, rejoinIn_cons hd]

/-- **A token is collapsed by tidying.** -/
theorem IsToken.collapse_eq {t : Text} (h : IsToken t) : collapse t = tidy t :=
  h.lower.rejoin_eq

/-- **The tokens of a collapsed query are the tidied tokens.** -/
theorem tokens_collapse_eq {q : Text} (h : isClosed false q = true) :
    tokens (collapse q) = (tokens q).map tidy := by
  rw [tokens_collapse]
  exact List.map_congr_left fun t ht => (mem_tokens h ht).2.collapse_eq

theorem isClosed_squeezeFrom : ∀ (b behind : Bool) (t : Text),
    isClosed b (squeezeFrom behind t) = isClosed b t
  | _, _, [] => rfl
  | b, behind, c :: t => by
      cases hc : isBlank c with
      | true =>
          have hquote : c ≠ '"' := fun e => by
            rw [e] at hc
            exact absurd hc (by decide)
          rw [isClosed_cons hquote]
          cases behind with
          | true =>
              rw [squeezeFrom_blank_blank hc]
              exact isClosed_squeezeFrom b true t
          | false =>
              rw [squeezeFrom_blank hc, isClosed_cons (by decide)]
              exact isClosed_squeezeFrom b true t
      | false =>
          rw [squeezeFrom_cons hc]
          by_cases hquote : c = '"'
          · subst hquote
            exact isClosed_squeezeFrom (!b) false t
          · rw [isClosed_cons hquote, isClosed_cons hquote]
            exact isClosed_squeezeFrom b false t

/-- A tidied token could be a token. -/
theorem IsToken.tidy {t : Text} (h : IsToken t) : IsToken (tidy t) where
  tokens := by
    have htokens := tokens_collapse_eq h.closed
    rwa [h.tokens, h.collapse_eq] at htokens
  closed := (isClosed_squeezeFrom false false _).trans h.lower.closed

/-! ## 4. Parts of a token -/

/-- A character beyond which neither case rules nor runs of blanks reach. -/
structure IsBarrier (c : Char) : Prop where
  stays : Text.stays c = true
  not_blank : isBlank c = false
  not_ignorable : isIgnorable c = false
  not_cased : isCased c = false

instance (c : Char) : Decidable (IsBarrier c) :=
  decidable_of_iff (Text.stays c = true ∧ isBlank c = false ∧ isIgnorable c = false ∧
      isCased c = false)
    ⟨fun ⟨hs, hb, hi, hc⟩ => ⟨hs, hb, hi, hc⟩,
      fun h => ⟨h.stays, h.not_blank, h.not_ignorable, h.not_cased⟩⟩

theorem isBarrier_quote : IsBarrier '"' := by decide +kernel

theorem isBarrier_hyphen : IsBarrier '-' := by decide +kernel

theorem startsCased_append_barrier {c : Char} (hc : IsBarrier c) (y : Text) : ∀ x : Text,
    startsCased (x ++ c :: y) = startsCased x
  | [] => by
      unfold startsCased
      rw [List.nil_append, List.dropWhile_cons_of_neg (Bool.eq_false_iff.mp hc.not_ignorable)]
      exact hc.not_cased
  | d :: x => by
      unfold startsCased
      by_cases hi : isIgnorable d = true
      · have ih := startsCased_append_barrier hc y x
        rw [List.cons_append, List.dropWhile_cons_of_pos hi, List.dropWhile_cons_of_pos hi]
        exact ih
      · rw [List.cons_append, List.dropWhile_cons_of_neg hi, List.dropWhile_cons_of_neg hi]

theorem lowerFrom_append_barrier {c : Char} (hc : IsBarrier c) (y : Text) :
    ∀ (x : Text) (inWord : Bool),
      lowerFrom inWord (x ++ c :: y) = lowerFrom inWord x ++ c :: lower y
  | [], inWord => by
      show lowerIn inWord c y ++ lowerFrom (if isIgnorable c then inWord else isCased c) y = _
      rw [lowerIn_of_stays hc.stays, hc.not_ignorable, hc.not_cased]
      rfl
  | d :: x, inWord => by
      have hin : lowerIn inWord d (x ++ c :: y) = lowerIn inWord d x := by
        unfold lowerIn
        rw [startsCased_append_barrier hc]
      rw [List.cons_append, lowerFrom, hin, lowerFrom_append_barrier hc y x, lowerFrom,
        List.append_assoc]

/-- **A barrier parts what is tidied.** -/
theorem tidy_append_barrier {c : Char} (hc : IsBarrier c) (x y : Text) :
    tidy (x ++ c :: y) = tidy x ++ c :: tidy y := by
  unfold tidy
  rw [lower, lowerFrom_append_barrier hc, squeeze, squeezeFrom_append hc.not_blank]
  rfl

theorem squeezeFrom_of_forall : ∀ {t : Text} (b : Bool), (∀ c ∈ t, isBlank c = false) →
    squeezeFrom b t = t
  | [], _, _ => rfl
  | c :: t, b, h => by
      rw [squeezeFrom_cons (h c List.mem_cons_self),
        squeezeFrom_of_forall false fun d hd => h d (List.mem_cons_of_mem _ hd)]

/-- Without blanks there is nothing to squeeze. -/
theorem squeeze_of_forall {t : Text} (h : ∀ c ∈ t, isBlank c = false) : squeeze t = t :=
  squeezeFrom_of_forall false h

end Worklog.Query
