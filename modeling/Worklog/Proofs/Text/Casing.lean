import Worklog.Proofs.Text.Lowercase
import Worklog.Proofs.Text.Words

/-!
# Lower case, word by word

What becomes of a sigma depends on the characters around it, but never on those beyond a blank:

* **`Text.words_lower`**: the words of a lower-cased text are the lower-cased words;
* `Text.lowerFrom_append`: a beginning that stays as it is can be split off;
* `Text.lowerFrom_eq_lower`: without a sigma, what stands before a text does not matter;
* `Text.mem_lower_iff`: characters below the small letters neither come nor go, capitals aside.
-/

namespace Worklog.Text

/-- What holds of the members of a list can be checked one by one. -/
theorem forall_mem_of_all {α : Type} {P : α → Prop} [DecidablePred P] {l : List α}
    (h : (l.all fun a => decide (P a)) = true) : ∀ a ∈ l, P a := fun a ha =>
  of_decide_eq_true (List.all_eq_true.mp h a ha)

/-! ## 1. Blanks -/

theorem stays_of_isBlank {c : Char} (h : isBlank c = true) : stays c = true := by
  unfold stays
  rw [Bool.and_eq_true, bne_iff_ne, Bool.not_eq_true', List.any_eq_false]
  constructor
  · intro e
    have hc : c = Char.ofNat 0x130 := by rw [← Char.ofNat_toNat c, e]
    subst hc
    exact absurd h (by decide)
  · intro r hr hcov
    rw [not_isBlank_of_covers hr hcov] at h
    cases h

/-- Case rules take no notice of blanks. -/
theorem blanks_apart : (casedRanges ++ ignorableRanges).all (fun r =>
    blankRanges.all fun s => decide (r.2 < s.1) || decide (s.2 < r.1)) = true := by decide +kernel

theorem not_inRanges_of_isBlank {ranges : List (Nat × Nat)}
    (hranges : ∀ r ∈ ranges, r ∈ casedRanges ++ ignorableRanges) {c : Char}
    (hc : isBlank c = true) : inRanges ranges c.toNat = false := by
  obtain ⟨s, hs, hin⟩ := List.any_eq_true.mp hc
  rw [Bool.and_eq_true, decide_eq_true_eq, decide_eq_true_eq] at hin
  refine List.any_eq_false.mpr fun r hr hcov => ?_
  rw [Bool.and_eq_true, decide_eq_true_eq, decide_eq_true_eq] at hcov
  have hapart := List.all_eq_true.mp (List.all_eq_true.mp blanks_apart r (hranges r hr)) s hs
  rw [Bool.or_eq_true, decide_eq_true_eq, decide_eq_true_eq] at hapart
  omega

theorem isCased_of_isBlank {c : Char} (h : isBlank c = true) : isCased c = false :=
  not_inRanges_of_isBlank (fun _ hr => List.mem_append_left _ hr) h

theorem isIgnorable_of_isBlank {c : Char} (h : isBlank c = true) : isIgnorable c = false :=
  not_inRanges_of_isBlank (fun _ hr => List.mem_append_right _ hr) h

/-! ## 2. Characters -/

theorem lowerIn_of_stays {c : Char} (h : stays c = true) (inWord : Bool) (rest : Text) :
    lowerIn inWord c rest = [c] := by
  rw [lowerIn, ne_sigma_of_stays h, lowerChar_of_stays h]
  rfl

/-- A character becomes one character, or a small `i` with a dot above. -/
theorem lowerIn_eq (inWord : Bool) (c : Char) (rest : Text) :
    (∃ d, lowerIn inWord c rest = [d]) ∨
      lowerIn inWord c rest = [Char.ofNat 0x69, Char.ofNat 0x307] := by
  unfold lowerIn lowerChar
  dsimp only
  split
  · exact Or.inl ⟨_, rfl⟩
  · split
    · split
      · exact Or.inl ⟨_, rfl⟩
      · exact Or.inl ⟨_, rfl⟩
    · split
      · exact Or.inr rfl
      · split
        · exact Or.inl ⟨_, rfl⟩
        · exact Or.inl ⟨_, rfl⟩

theorem lowerIn_ne_nil (inWord : Bool) (c : Char) (rest : Text) : lowerIn inWord c rest ≠ [] := by
  rcases lowerIn_eq inWord c rest with ⟨d, h⟩ | h
  · rw [h]
    exact List.cons_ne_nil _ _
  · rw [h]
    exact List.cons_ne_nil _ _

/-- No blank comes of another character. -/
theorem not_isBlank_of_mem_lowerIn {inWord : Bool} {c d : Char} {rest : Text}
    (hc : isBlank c = false) (h : d ∈ lowerIn inWord c rest) : isBlank d = false := by
  rcases mem_lowerIn h with ⟨rfl, -⟩ | ⟨-, -, hd, -⟩
  · exact hc
  · exact hd

theorem lowerFrom_eq_nil {inWord : Bool} {t : Text} (h : lowerFrom inWord t = []) : t = [] := by
  cases t with
  | nil => rfl
  | cons c t => exact absurd (List.append_eq_nil_iff.mp h).1 (lowerIn_ne_nil _ _ _)

/-! ## 3. Words -/

theorem wordsFrom_append : ∀ {x : Text}, (∀ c ∈ x, isBlank c = false) → ∀ y : Text,
    wordsFrom (x ++ y) = (x ++ (wordsFrom y).1, (wordsFrom y).2)
  | [], _, _ => rfl
  | c :: x, h, y => by
      have ih := wordsFrom_append (x := x) (fun d hd => h d (List.mem_cons_of_mem _ hd)) y
      rw [List.cons_append, wordsFrom, ih]
      simp only [h c List.mem_cons_self, Bool.false_eq_true, if_false, List.cons_append]

/-- Case rules do not look beyond the run that a text continues. -/
theorem startsCased_run : ∀ t : Text, startsCased (wordsFrom t).1 = startsCased t
  | [] => rfl
  | c :: t => by
      rw [wordsFrom]
      by_cases hc : isBlank c = true
      · have hcased := isCased_of_isBlank hc
        have hignorable := isIgnorable_of_isBlank hc
        simp only [hc, if_true, startsCased, List.dropWhile, hignorable, hcased]
      · simp only [hc, if_false, Bool.false_eq_true]
        by_cases hi : isIgnorable c = true
        · have ih := startsCased_run t
          unfold startsCased at ih ⊢
          rw [List.dropWhile_cons_of_pos hi, List.dropWhile_cons_of_pos hi]
          exact ih
        · unfold startsCased
          rw [List.dropWhile_cons_of_neg hi, List.dropWhile_cons_of_neg hi]

theorem pushRun_lower (run : Text) (runs : List Text) :
    pushRun (lower run) (runs.map lower) = (pushRun run runs).map lower := by
  cases run with
  | nil => rfl
  | cons c run =>
      have hne : lower (c :: run) ≠ [] := fun e => nomatch lowerFrom_eq_nil e
      rw [pushRun_of_ne_nil hne, pushRun_of_ne_nil (List.cons_ne_nil c run)]
      rfl

theorem wordsFrom_lowerFrom : ∀ (t : Text) (inWord : Bool), wordsFrom (lowerFrom inWord t) =
    (lowerFrom inWord (wordsFrom t).1, (wordsFrom t).2.map lower)
  | [], _ => rfl
  | c :: t, inWord => by
      rw [lowerFrom]
      by_cases hc : isBlank c = true
      · have ih := wordsFrom_lowerFrom t false
        have hflag : (if isIgnorable c then inWord else isCased c) = false := by
          rw [isIgnorable_of_isBlank hc, isCased_of_isBlank hc]
          rfl
        rw [lowerIn_of_stays (stays_of_isBlank hc), hflag, List.singleton_append, wordsFrom, ih,
          wordsFrom]
        simp only [hc, if_true]
        exact Prod.ext rfl (pushRun_lower _ _)
      · have hblank : isBlank c = false := Bool.eq_false_iff.mpr hc
        have hin : lowerIn inWord c (wordsFrom t).1 = lowerIn inWord c t := by
          unfold lowerIn
          rw [startsCased_run]
        rw [wordsFrom_append fun d hd => not_isBlank_of_mem_lowerIn hblank hd,
          wordsFrom_lowerFrom t, wordsFrom]
        simp only [hblank, Bool.false_eq_true, if_false]
        rw [lowerFrom, hin]

/-- **The words of a lower-cased text are the lower-cased words.** -/
theorem words_lower (t : Text) : words (lower t) = (words t).map lower := by
  unfold words
  rw [lower, wordsFrom_lowerFrom]
  exact pushRun_lower _ _

/-! ## 4. What stands before a text -/

/-- A beginning that stays as it is can be split off. -/
theorem lowerFrom_append : ∀ {x : Text}, (∀ c ∈ x, stays c = true) → ∀ (y : Text) (inWord : Bool),
    ∃ inWord', lowerFrom inWord (x ++ y) = x ++ lowerFrom inWord' y
  | [], _, _, inWord => ⟨inWord, rfl⟩
  | c :: x, h, y, inWord => by
      obtain ⟨inWord', ih⟩ := lowerFrom_append (x := x)
        (fun d hd => h d (List.mem_cons_of_mem _ hd)) y
        (if isIgnorable c then inWord else isCased c)
      refine ⟨inWord', ?_⟩
      rw [List.cons_append, lowerFrom, lowerIn_of_stays (h c List.mem_cons_self), ih]
      rfl

/-- The two small sigmas. -/
def isSmallSigma (c : Char) : Bool := c.toNat == 0x3C2 || c.toNat == 0x3C3

theorem lowerFrom_flag (t : Text) : ∀ {inWord : Bool},
    (∀ c ∈ lowerFrom inWord t, isSmallSigma c = false) → ∀ inWord' : Bool,
    lowerFrom inWord' t = lowerFrom inWord t := by
  induction t with
  | nil => exact fun _ _ => rfl
  | cons c t ih =>
      intro inWord h inWord'
      have hhead : lowerIn inWord' c t = lowerIn inWord c t := by
        unfold lowerIn
        split
        next hsigma =>
          have hmem := h _ (List.mem_append_left _ (by
            rw [lowerIn, if_pos hsigma]
            exact List.mem_singleton_self _))
          split at hmem
          · exact absurd hmem (by decide)
          · exact absurd hmem (by decide)
        next => rfl
      rw [lowerFrom, lowerFrom, hhead]
      exact congrArg _ (ih (fun d hd => h d (List.mem_append_right _ hd)) _)

/-- Where no small sigma comes out, what stands before a text does not matter. -/
theorem lowerFrom_eq_lower {t : Text} (h : ∀ c ∈ lower t, isSmallSigma c = false)
    (inWord : Bool) : lowerFrom inWord t = lower t := lowerFrom_flag t h inWord

/-! ## 5. Characters below the letters -/

theorem mem_lowerFrom_of_stays {c : Char} (hc : stays c = true) : ∀ {t : Text} {inWord : Bool},
    c ∈ t → c ∈ lowerFrom inWord t
  | d :: t, inWord, h => by
      rcases List.mem_cons.mp h with rfl | h
      · refine List.mem_append_left _ ?_
        rw [lowerIn_of_stays hc]
        exact List.mem_singleton_self c
      · exact List.mem_append_right _ (mem_lowerFrom_of_stays hc h)

/-- **Characters below the small letters neither come nor go**, capitals aside. -/
theorem mem_lower_iff {c : Char} (hc : stays c = true) (hsmall : c.toNat ≤ 0x60) {t : Text} :
    c ∈ lower t ↔ c ∈ t := by
  constructor
  · intro h
    obtain ⟨d, hd, ⟨rfl, -⟩ | ⟨-, -, -, hlow⟩⟩ := exists_becomes h
    · exact hd
    · omega
  · exact mem_lowerFrom_of_stays hc

end Worklog.Text
