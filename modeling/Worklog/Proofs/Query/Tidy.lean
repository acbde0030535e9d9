import Worklog.Proofs.Query.Collapse
import Worklog.Proofs.Query.Comparison

/-!
# Values of filters, tidied

Days and lengths are read in any letter case, and blanks around them do not count. So a value that
can be read is read alike once it is in lower case with one space for each run of blanks:

* `Query.squeeze_strip`, `Query.strip_squeeze`: what joins the words of a text is the text stripped
  and squeezed, in either order;
* `Query.IsSettled`: what stands before a text does not matter for its lower case;
* **`Duration.parse_tidy`**: a tidied length is the same length;
* `Day.absolute?_spec`: a date is spelled with digits, single spaces and marks;
* `Day.distance?_eq_some_iff`, `Day.distance?_lower`: a distance, and the same one in lower case;
* **`Day.read_tidy`**: a tidied day is the same day.
-/

namespace Worklog

namespace Query

open Worklog.Text

/-! ## 1. Blanks at the ends -/

theorem stripEnd_cons (c : Char) (t : Text) : stripEnd (c :: t) =
    if (stripEnd t).isEmpty && isBlank c then [] else c :: stripEnd t := by
  unfold stripEnd
  rw [List.reverse_cons, List.dropWhile_append, List.isEmpty_reverse]
  by_cases ht : ((t.reverse.dropWhile isBlank).isEmpty) = true
  · rw [if_pos ht, ht, Bool.true_and, List.isEmpty_iff.mp ht]
    by_cases hc : isBlank c = true
    · rw [if_pos hc, List.dropWhile_cons_of_pos hc]
      rfl
    · rw [if_neg hc, List.dropWhile_cons_of_neg hc]
      rfl
  · rw [if_neg ht, Bool.eq_false_iff.mpr ht, Bool.false_and, if_neg Bool.false_ne_true,
      List.reverse_append]
    rfl

/-- What stripping leaves of a text is nothing only if the text has no words. -/
theorem words_isEmpty_iff (t : Text) : (words t).isEmpty = (stripEnd t).isEmpty := by
  induction t with
  | nil => rfl
  | cons c t ih =>
      rw [stripEnd_cons]
      cases hc : isBlank c with
      | true =>
          rw [words_cons_blank hc, ih, Bool.and_true]
          by_cases ht : (stripEnd t).isEmpty = true
          · rw [if_pos ht, ht]
            rfl
          · rw [if_neg ht, Bool.eq_false_iff.mpr ht]
            rfl
      | false =>
          have hwords : words (c :: t) = (c :: (wordsFrom t).1) :: (wordsFrom t).2 := by
            rw [words, wordsFrom_cons hc]
            rfl
          rw [hwords, Bool.and_false, if_neg Bool.false_ne_true]
          rfl

/-- What stripping leaves of a text, squeezed, is what joins its words. -/
theorem squeezeFrom_stripEnd : ∀ t : Text,
    squeezeFrom false (stripEnd t) = rejoinIn t ∧ squeezeFrom true (stripEnd t) = rejoin t
  | [] => ⟨rfl, rfl⟩
  | c :: t => by
      obtain ⟨hin, hout⟩ := squeezeFrom_stripEnd t
      rw [stripEnd_cons, ← words_isEmpty_iff]
      cases hc : isBlank c with
      | false =>
          rw [Bool.and_false, if_neg Bool.false_ne_true, squeezeFrom_cons hc, squeezeFrom_cons hc,
            rejoinIn_cons hc, rejoin_cons hc, hin]
          exact ⟨rfl, rfl⟩
      | true =>
          rw [Bool.and_true, rejoinIn_blank hc, rejoin_blank hc]
          split
          next hempty =>
            have hnone : rejoin t = [] := by
              unfold rejoin
              rw [List.isEmpty_iff.mp hempty]
              rfl
            exact ⟨rfl, hnone.symm⟩
          next => rw [squeezeFrom_blank hc, squeezeFrom_blank_blank hc, hout]; exact ⟨rfl, rfl⟩

/-- Joining the words of a text leaves the words. -/
theorem words_rejoin (t : Text) : words (rejoin t) = words t :=
  words_joinWith fun _ hw => (mem_words hw).2

theorem rejoin_isEmpty (t : Text) : (rejoin t).isEmpty = (words t).isEmpty := by
  by_cases ht : words t = []
  · unfold rejoin
    rw [ht]
    rfl
  · have hne : rejoin t ≠ [] := fun e => ht (by rw [← words_rejoin, e]; rfl)
    rw [List.isEmpty_eq_false_iff.mpr ht, List.isEmpty_eq_false_iff.mpr hne]

/-- A squeezed text, stripped, is what joins its words. -/
theorem stripEnd_squeezeFrom : ∀ t : Text,
    stripEnd (squeezeFrom false t) = rejoinIn t ∧ stripEnd (squeezeFrom true t) = rejoin t
  | [] => ⟨rfl, rfl⟩
  | c :: t => by
      obtain ⟨hin, hout⟩ := stripEnd_squeezeFrom t
      cases hc : isBlank c with
      | false =>
          rw [squeezeFrom_cons hc, squeezeFrom_cons hc, stripEnd_cons, hc, Bool.and_false,
            if_neg Bool.false_ne_true, rejoinIn_cons hc, rejoin_cons hc, hin]
          exact ⟨rfl, rfl⟩
      | true =>
          have hspace : isBlank ' ' = true := by decide
          rw [squeezeFrom_blank hc, squeezeFrom_blank_blank hc, stripEnd_cons, hout, rejoin_isEmpty,
            hspace, Bool.and_true, rejoinIn_blank hc, rejoin_blank hc]
          exact ⟨rfl, rfl⟩

theorem dropWhile_squeezeFrom : ∀ (t : Text) (b : Bool),
    (squeezeFrom b t).dropWhile isBlank = squeezeFrom false (t.dropWhile isBlank)
  | [], _ => rfl
  | c :: t, b => by
      cases hc : isBlank c with
      | false =>
          rw [squeezeFrom_cons hc, List.dropWhile_cons_of_neg (Bool.eq_false_iff.mp hc),
            List.dropWhile_cons_of_neg (Bool.eq_false_iff.mp hc), squeezeFrom_cons hc]
      | true =>
          have ih := dropWhile_squeezeFrom t true
          rw [List.dropWhile_cons_of_pos hc]
          cases b with
          | true =>
              rw [squeezeFrom_blank_blank hc]
              exact ih
          | false =>
              rw [squeezeFrom_blank hc, List.dropWhile_cons_of_pos (by decide)]
              exact ih

/-- Without a blank in front, a text is joined as inside a word. -/
theorem rejoinIn_dropWhile : ∀ t : Text, rejoinIn (t.dropWhile isBlank) = rejoin t
  | [] => rfl
  | c :: t => by
      cases hc : isBlank c with
      | false =>
          rw [List.dropWhile_cons_of_neg (Bool.eq_false_iff.mp hc), rejoinIn_cons hc,
            rejoin_cons hc]
      | true =>
          rw [List.dropWhile_cons_of_pos hc, rejoin_blank hc]
          exact rejoinIn_dropWhile t

/-- **What joins the words of a text** is the text stripped and squeezed, ... -/
theorem squeeze_strip (t : Text) : squeeze (strip t) = rejoin t :=
  (squeezeFrom_stripEnd _).1.trans (rejoinIn_dropWhile t)

/-- ... or squeezed and stripped. -/
theorem strip_squeeze (t : Text) : strip (squeeze t) = rejoin t := by
  unfold strip squeeze
  rw [dropWhile_squeezeFrom, (stripEnd_squeezeFrom _).1, rejoinIn_dropWhile]

/-- **A tidied text is stripped to the collapsed one.** -/
theorem strip_tidy (t : Text) : strip (tidy t) = collapse t := strip_squeeze (lower t)

/-- A text that holds no blank but at its ends has one word, and is collapsed to its lower case. -/
theorem collapse_of_strip {t : Text} (hne : strip t ≠ [])
    (hblank : ∀ c ∈ strip t, isBlank c = false) : collapse t = lower (strip t) := by
  have hwords : words t = [strip t] := by
    rw [← words_rejoin, ← squeeze_strip, squeeze_of_forall hblank, words_of_forall hne hblank]
  rw [collapse_eq, rejoin, words_lower, hwords]
  rfl

/-- What is no blank is not stripped. -/
theorem mem_strip {t : Text} {c : Char} (h : c ∈ t) (hc : isBlank c = false) :
    c ∈ squeeze (strip t) := by
  obtain ⟨w, hw, hm⟩ := exists_mem_words h hc
  rw [squeeze_strip]
  exact mem_joinWith_of_mem hm hw

/-! ## 2. Lower case -/

theorem stays_of_mem_squeezeFrom : ∀ {b : Bool} {t : Text}, (∀ c ∈ t, Text.stays c = true) →
    ∀ c ∈ squeezeFrom b t, Text.stays c = true
  | _, [], _, _, hc => absurd hc List.not_mem_nil
  | b, d :: t, h, c, hc => by
      have ht : ∀ c ∈ t, Text.stays c = true := fun e he => h e (List.mem_cons_of_mem d he)
      cases hd : isBlank d with
      | false =>
          rw [squeezeFrom_cons hd] at hc
          rcases List.mem_cons.mp hc with rfl | hc
          · exact h _ List.mem_cons_self
          · exact stays_of_mem_squeezeFrom ht c hc
      | true =>
          cases b with
          | true =>
              rw [squeezeFrom_blank_blank hd] at hc
              exact stays_of_mem_squeezeFrom ht c hc
          | false =>
              rw [squeezeFrom_blank hd] at hc
              rcases List.mem_cons.mp hc with rfl | hc
              · decide
              · exact stays_of_mem_squeezeFrom ht c hc

/-- Case rules do not look in front of a text: what stands before it does not matter. -/
def IsSettled (t : Text) : Prop := ∀ inWord : Bool, lowerFrom inWord t = lower t

theorem not_isBlank_of_isSmallSigma {c : Char} (h : isSmallSigma c = true) : isBlank c = false := by
  rw [isSmallSigma, Bool.or_eq_true, beq_iff_eq, beq_iff_eq] at h
  rcases h with e | e
  · rw [isBlank, e]
    decide
  · rw [isBlank, e]
    decide

/-- What is settled shows in the words alone: no sigma comes out of blanks. -/
theorem isSettled_of_collapse {t : Text} (h : ∀ c ∈ collapse t, isSmallSigma c = false) :
    IsSettled t := by
  refine lowerFrom_eq_lower fun c hc => ?_
  refine Bool.eq_false_iff.mpr fun hsigma => ?_
  have hmem := mem_strip hc (not_isBlank_of_isSmallSigma hsigma)
  rw [squeeze_strip] at hmem
  exact Bool.eq_false_iff.mp (h c hmem) hsigma

theorem not_isBlank_of_lower {t : Text} (h : ∀ c ∈ lower t, isBlank c = false) :
    ∀ c ∈ t, isBlank c = false := fun c hc => Bool.eq_false_iff.mpr fun hblank => by
  have hmem := h c (mem_lowerFrom_of_stays (stays_of_isBlank hblank) hc)
  rw [hblank] at hmem
  cases hmem

end Query

/-! ## 3. Lengths -/

open Worklog.Text Worklog.Query

/-- **A tidied length is the same length**, and is settled. -/
theorem Duration.parse_tidy {p : Precision} {t : Text} {s : Rat} (h : parse p t = some s) :
    parse p (tidy t) = some s ∧ IsSettled t := by
  have hparts := isPart_of_parse h
  have hblank : ∀ c ∈ strip t, isBlank c = false :=
    not_isBlank_of_lower fun c hc => (isPart_spec (hparts c hc)).1
  have hne : strip t ≠ [] := fun e => by
    unfold parse at h
    rw [e] at h
    cases h
  have hcollapse := collapse_of_strip hne hblank
  refine ⟨?_, isSettled_of_collapse fun c hc => ?_⟩
  · unfold parse at h ⊢
    rw [strip_tidy, hcollapse, lower_lower]
    exact h
  · rw [hcollapse] at hc
    exact (isPart_spec (hparts c hc)).2

namespace Day

/-! ## 4. Dates -/

/-- What a date takes up: characters that stay, each blank among them a single space. -/
structure IsStretch (x : Text) : Prop where
  stays : ∀ c ∈ x, Text.stays c = true
  squeeze : ∀ y, squeeze (x ++ y) = x ++ squeeze y

namespace IsStretch

theorem nil : IsStretch [] := ⟨fun _ h => absurd h List.not_mem_nil, fun _ => rfl⟩

theorem append {x y : Text} (hx : IsStretch x) (hy : IsStretch y) : IsStretch (x ++ y) where
  stays c hc := (List.mem_append.mp hc).elim (hx.stays c) (hy.stays c)
  squeeze z := by rw [List.append_assoc, hx.squeeze, hy.squeeze, List.append_assoc]

theorem cons {x : Text} (hx : IsStretch x) {c : Char} (hc : Text.stays c = true)
    (hblank : isBlank c = false) : IsStretch (c :: x) where
  stays d hd := (List.mem_cons.mp hd).elim (fun e => e ▸ hc) (hx.stays d)
  squeeze y := (squeezeFrom_cons hblank false _).trans (congrArg _ (hx.squeeze y))

theorem space {c : Char} (hc : Text.stays c = true) (hblank : isBlank c = false) :
    IsStretch [' ', c] where
  stays := List.forall_mem_cons.mpr ⟨by decide, List.forall_mem_singleton.mpr hc⟩
  squeeze y := by
    show squeezeFrom false (' ' :: c :: y) = _
    rw [squeezeFrom_blank (by decide), squeezeFrom_cons hblank]
    rfl

end IsStretch

/-- The marks between the numbers of a date. -/
def marks : List Char := ['-', '/']

theorem marks_spec : ∀ c ∈ marks, Text.stays c = true ∧ isBlank c = false ∧ IsSole c := by
  have hall : ∀ c ∈ marks, Text.stays c = true ∧ isBlank c = false ∧ isFar c = false ∧
      ¬ (0x61 ≤ c.toNat ∧ c.toNat ≤ 0x7A) ∧ c ≠ Char.ofNat 0x307 :=
    forall_mem_of_all (by decide +kernel)
  intro c hc
  obtain ⟨hstays, hblank, hfar, hascii, hdot⟩ := hall c hc
  exact ⟨hstays, hblank, isSole_of_not_isFar hfar hascii hdot⟩

/-- **What a date is spelled with**: marks, digits and a space in front of a digit. -/
inductive IsDated : Text → Prop where
  | nil : IsDated []
  | mark {c : Char} {x : Text} (hc : c ∈ marks) (hx : IsDated x) : IsDated (c :: x)
  | digit {c : Char} {x : Text} (hc : isDigit c = true) (hx : IsDated x) : IsDated (c :: x)
  | spaced {c : Char} {x : Text} (hc : isDigit c = true) (hx : IsDated x) :
    IsDated (' ' :: c :: x)

namespace IsDated

variable {x y : Text}

theorem append (hx : IsDated x) (hy : IsDated y) : IsDated (x ++ y) := by
  induction hx with
  | nil => exact hy
  | mark hc _ ih => exact .mark hc ih
  | digit hc _ ih => exact .digit hc ih
  | spaced hc _ ih => exact .spaced hc ih

theorem of_isDigit : ∀ {x : Text}, (∀ c ∈ x, isDigit c = true) → IsDated x
  | [], _ => .nil
  | _ :: _, h => .digit (h _ List.mem_cons_self)
      (of_isDigit fun c hc => h c (List.mem_cons_of_mem _ hc))

theorem isStretch (hx : IsDated x) : IsStretch x := by
  induction hx with
  | nil => exact .nil
  | mark hc _ ih =>
      obtain ⟨hstays, hblank, -⟩ := marks_spec _ hc
      exact ih.cons hstays hblank
  | digit hc _ ih => exact ih.cons (stays_of_isDigit hc) (not_isBlank_of_isDigit hc)
  | spaced hc _ ih =>
      exact (IsStretch.space (stays_of_isDigit hc) (not_isBlank_of_isDigit hc)).append ih

/-- Nothing but a date becomes one in lower case. -/
theorem isSole (hx : IsDated x) : ∀ c ∈ x, IsSole c := by
  have hspace : IsSole ' ' := isSole_of_not_isFar (by decide +kernel) (by decide) (by decide)
  induction hx with
  | nil => exact fun _ hc => absurd hc List.not_mem_nil
  | mark hc _ ih => exact List.forall_mem_cons.mpr ⟨(marks_spec _ hc).2.2, ih⟩
  | digit hc _ ih => exact List.forall_mem_cons.mpr ⟨isSole_of_isDigit hc, ih⟩
  | spaced hc _ ih =>
      exact List.forall_mem_cons.mpr
        ⟨hspace, List.forall_mem_cons.mpr ⟨isSole_of_isDigit hc, ih⟩⟩

end IsDated

theorem isDigit_of_between {lo hi c : Char} (hlo : 48 ≤ lo.toNat) (hhi : hi.toNat ≤ 57)
    (h : between lo hi c = true) : isDigit c = true := by
  rw [between, Bool.and_eq_true, decide_eq_true_eq, decide_eq_true_eq] at h
  have hfind : digitZeros.find? (fun z => decide (z ≤ c.toNat) && decide (c.toNat < z + 10)) =
      some 0x30 := by
    refine List.find?_cons_of_pos ?_
    rw [Bool.and_eq_true, decide_eq_true_eq, decide_eq_true_eq]
    omega
  rw [isDigit, digitValue?, hfind]
  rfl

/-- A number of a date is read off what dates are spelled with. -/
def ReadsDated (read : Text → List (Nat × Text)) : Prop :=
  ∀ t n rest, (n, rest) ∈ read t → ∃ x, t = x ++ rest ∧ IsDated x

theorem ReadsDated.append {r s : Text → List (Nat × Text)} (hr : ReadsDated r)
    (hs : ReadsDated s) : ReadsDated fun t => r t ++ s t :=
  fun t n rest h => (List.mem_append.mp h).elim (hr t n rest) (hs t n rest)

theorem readsDated_pair {first second : Char → Bool}
    (h : ∀ a b, first a = true → second b = true → IsDated [a, b]) :
    ReadsDated (pair first second) := by
  intro t n rest hm
  unfold pair at hm
  split at hm
  next a b more =>
    split at hm
    next htest =>
      obtain ⟨ha, hb⟩ := Bool.and_eq_true _ _ ▸ htest
      cases List.mem_singleton.mp hm
      exact ⟨[a, b], rfl, h a b ha hb⟩
    next => cases hm
  next => cases hm

theorem readsDated_single {test : Char → Bool} (h : ∀ a, test a = true → IsDated [a]) :
    ReadsDated (single test) := by
  intro t n rest hm
  unfold single at hm
  split at hm
  next a more =>
    split at hm
    next htest =>
      cases List.mem_singleton.mp hm
      exact ⟨[a], rfl, h a htest⟩
    next => cases hm
  next => cases hm

/-- Two digits, the first of which is known. -/
theorem readsDated_behind {d lo hi : Char} (hd : isDigit d = true) (hlo : 48 ≤ lo.toNat)
    (hhi : hi.toNat ≤ 57) : ReadsDated (pair (· == d) (between lo hi)) :=
  readsDated_pair fun _ _ ha hb => .of_isDigit (List.forall_mem_cons.mpr ⟨eq_of_beq ha ▸ hd,
    List.forall_mem_singleton.mpr (isDigit_of_between hlo hhi hb)⟩)

theorem readsDated_nonzero : ReadsDated (single (between '1' '9')) :=
  readsDated_single fun _ ha => .of_isDigit
    (List.forall_mem_singleton.mpr (isDigit_of_between (by decide) (by decide) ha))

theorem readsDated_month : ReadsDated monthAt :=
  ((readsDated_behind (by decide) (by decide) (by decide)).append
    (readsDated_behind (by decide) (by decide) (by decide))).append readsDated_nonzero

theorem readsDated_day : ReadsDated dayAt := by
  have htens : ReadsDated (pair (between '1' '2') isDigit) :=
    readsDated_pair fun a b ha hb => .of_isDigit (List.forall_mem_cons.mpr
      ⟨isDigit_of_between (by decide) (by decide) ha, List.forall_mem_singleton.mpr hb⟩)
  have hspaced : ReadsDated (pair (· == ' ') (between '1' '9')) :=
    readsDated_pair fun a b ha hb => by
      have hdigit : isDigit b = true := isDigit_of_between (by decide) (by decide) hb
      rw [eq_of_beq ha]
      exact .spaced hdigit .nil
  exact ((((readsDated_behind (by decide) (by decide) (by decide)).append htens).append
    (readsDated_behind (by decide) (by decide) (by decide))).append
    readsDated_nonzero).append hspaced

theorem readsDated_year : ReadsDated yearAt := by
  intro t n rest hm
  unfold yearAt at hm
  dsimp only at hm
  split at hm
  next htest =>
    obtain ⟨-, hdigits⟩ := Bool.and_eq_true _ _ ▸ htest
    cases List.mem_singleton.mp hm
    exact ⟨t.take 4, (List.take_append_drop 4 t).symm, .of_isDigit (List.all_eq_true.mp hdigits)⟩
  next => cases hm

/-- The marks of a layout. -/
def marksOf : List Piece → List Char
  | [] => []
  | .mark c :: more => c :: marksOf more
  | _ :: more => marksOf more

/-- **A date is read off what dates are spelled with**, its marks included. -/
theorem readings_dated : ∀ {layout : List Piece} {d d' : Date} {t rest : Text},
    (∀ c ∈ marksOf layout, c ∈ marks) → (d', rest) ∈ readings layout d t →
    ∃ x, t = x ++ rest ∧ IsDated x ∧ ∀ c ∈ marksOf layout, c ∈ x
  | [], _, _, _, _, _, h => by
      cases List.mem_singleton.mp h
      exact ⟨[], rfl, .nil, fun _ hc => absurd hc List.not_mem_nil⟩
  | piece :: more, d, d', t, rest, hlayout, h => by
      -- A number is read off its characters, and the rest of the layout behind it.
      have number : ∀ {read : Text → List (Nat × Text)} (upd : Nat → Date), ReadsDated read →
          marksOf (piece :: more) = marksOf more →
          (d', rest) ∈ (read t).flatMap (fun x => readings more (upd x.1) x.2) →
          ∃ x, t = x ++ rest ∧ IsDated x ∧ ∀ c ∈ marksOf (piece :: more), c ∈ x := by
        intro read upd hread hpiece hm
        rw [hpiece] at hlayout ⊢
        obtain ⟨⟨n, after⟩, hn, hrest⟩ := List.mem_flatMap.mp hm
        obtain ⟨x, rfl, hx⟩ := hread _ _ _ hn
        obtain ⟨y, rfl, hy, hmarks⟩ := readings_dated hlayout hrest
        exact ⟨x ++ y, (List.append_assoc _ _ _).symm, hx.append hy,
          fun c hc => List.mem_append_right _ (hmarks c hc)⟩
      cases piece with
      | year => exact number (fun n => { d with year := n }) readsDated_year rfl h
      | month => exact number (fun n => { d with month := n }) readsDated_month rfl h
      | day => exact number (fun n => { d with day := n }) readsDated_day rfl h
      | mark c =>
          obtain ⟨hc, hmore⟩ := List.forall_mem_cons.mp (show ∀ e ∈ c :: marksOf more, e ∈ marks
            from hlayout)
          unfold readings at h
          split at h
          next c' after =>
            split at h
            next hc' =>
              obtain ⟨y, rfl, hy, hmarks⟩ := readings_dated hmore h
              rw [eq_of_beq hc']
              exact ⟨c :: y, rfl, .mark hc hy, List.forall_mem_cons.mpr
                ⟨List.mem_cons_self, fun e he => List.mem_cons_of_mem _ (hmarks e he)⟩⟩
            next => cases h
          next => cases h

/-- **A date is spelled with a mark** among its characters. -/
theorem absolute?_spec {t : Text} {m : Moment} (h : absolute? t = some m) :
    IsDated t ∧ ∃ c ∈ marks, c ∈ t := by
  have hlayouts : ∀ layout ∈ layouts, ((marksOf layout).all fun c => decide (c ∈ marks)) = true ∧
      (marks.any fun c => decide (c ∈ marksOf layout)) = true := by decide
  obtain ⟨layout, hlayout, hin⟩ := List.exists_of_findSome?_eq_some h
  obtain ⟨hall, hany⟩ := hlayouts layout hlayout
  have hmarks : ∀ c ∈ marksOf layout, c ∈ marks := forall_mem_of_all hall
  obtain ⟨c, hc, hmem⟩ := List.any_eq_true.mp hany
  unfold inLayout? at hin
  split at hin
  next d more hreadings =>
    have hfirst : (d, []) ∈ readings layout ⟨0, 0, 0⟩ t := by
      rw [hreadings]
      exact List.mem_cons_self
    obtain ⟨x, hx, hdated, hread⟩ := readings_dated hmarks hfirst
    rw [hx, List.append_nil]
    exact ⟨hdated, c, hc, hread c (of_decide_eq_true hmem)⟩
  next => cases hin

/-- A text without marks is no date. -/
theorem absolute?_of_forall {t : Text} (h : ∀ c ∈ t, c ∉ marks) : absolute? t = none := by
  cases hdate : absolute? t with
  | none => rfl
  | some m =>
      obtain ⟨-, c, hc, hm⟩ := absolute?_spec hdate
      exact absurd hc (h c hm)

/-! ## 5. Names and distances -/

/-- What may occur in the lower case of a day that is no date. -/
def IsPlainPart (c : Char) : Prop := isBlank c = false ∧ isSmallSigma c = false ∧ c ∉ marks

instance (c : Char) : Decidable (IsPlainPart c) :=
  inferInstanceAs (Decidable (_ ∧ _ ∧ _))

theorem isPlainPart_of_isDigit {c : Char} (h : isDigit c = true) : IsPlainPart c := by
  refine ⟨not_isBlank_of_isDigit h,
    (Duration.isPart_spec (Duration.isPart_of_isDigit h)).2, fun hc => ?_⟩
  have hall : ∀ d ∈ marks, isDigit d = false := forall_mem_of_all (by decide)
  rw [hall c hc] at h
  cases h

/-- The names of days. -/
def names : List Text := ["today", "yesterday", "tomorrow", "thisweek", "lastweek", "thismonth",
  "lastmonth"].map String.toList

theorem mem_names {t : Text} {name : Named} (h : Named.ofText? t = some name) : t ∈ names := by
  by_contra hno
  simp only [names, List.map_cons, List.map_nil, List.mem_cons, List.not_mem_nil, or_false,
    not_or] at hno
  obtain ⟨h1, h2, h3, h4, h5, h6, h7⟩ := hno
  rw [Named.ofText?, if_neg h1, if_neg h2, if_neg h3, if_neg h4, if_neg h5, if_neg h6,
    if_neg h7] at h
  cases h

/-- A name is spelled with letters. -/
theorem Named.isPlainPart {t : Text} {name : Named} (h : Named.ofText? t = some name) :
    ∀ c ∈ t, IsPlainPart c := by
  have hnames : ∀ t ∈ names, (t.all fun c => decide (IsPlainPart c)) = true := by decide
  exact forall_mem_of_all (hnames t (mem_names h))

/-- The units of a distance, in either letter case. -/
def units : List Char := ['d', 'D', 'w', 'W', 'm', 'M', 'y', 'Y']

theorem mem_units {c : Char} {n : Nat} (h : unitDays? c = some n) : c ∈ units := by
  by_contra hno
  simp only [units, List.mem_cons, List.not_mem_nil, or_false, not_or] at hno
  obtain ⟨h1, h2, h3, h4, h5, h6, h7, h8⟩ := hno
  simp [unitDays?, h1, h2, h3, h4, h5, h6, h7, h8] at h

/-- A unit in lower case is the same unit, and is spelled with a letter. -/
theorem unit_lower : ∀ c ∈ units, (∀ inWord : Bool, lowerFrom inWord [c] = [c.toLower]) ∧
    unitDays? c.toLower = unitDays? c ∧ IsPlainPart c.toLower :=
  forall_mem_of_all (by decide)

/-- **A distance** is a run of digits and a unit. -/
theorem distance?_eq_some_iff {t : Text} {n : Nat} : distance? t = some n ↔
    ∃ run c days, t = run ++ [c] ∧ IsRun 1 run ∧ unitDays? c = some days ∧
      numeral run * days = n := by
  constructor
  · intro h
    unfold distance? at h
    split at h
    next c hc =>
      dsimp only at h
      split at h
      next => cases h
      next hrun =>
        obtain ⟨days, hdays, hn⟩ := Option.map_eq_some_iff.mp h
        rw [Bool.or_eq_true, List.isEmpty_iff, decide_eq_true_iff, not_or] at hrun
        obtain ⟨hne, hle⟩ := hrun
        refine ⟨t.takeWhile isDigit, c, days, ?_, ?_, hdays, hn⟩
        · rw [← hc, List.takeWhile_append_dropWhile]
        · exact ⟨fun e he => List.mem_takeWhile_imp he, List.length_pos_iff.mpr hne,
            Nat.le_of_not_lt hle⟩
    next => cases h
  · rintro ⟨run, c, days, rfl, hrun, hdays, rfl⟩
    have hunit : ∀ c ∈ units, isDigit c = false := forall_mem_of_all (by decide)
    have hstop : ∀ d, [c].head? = some d → isDigit d = false := by
      intro d hd
      obtain rfl : c = d := Option.some.inj hd
      exact hunit c (mem_units hdays)
    obtain ⟨htake, hdrop⟩ := span_append hrun.digits hstop
    have hlength : (run.isEmpty || decide (maxRun < run.length)) = false := by
      rw [Bool.or_eq_false_iff]
      exact ⟨List.isEmpty_eq_false_iff.mpr (List.ne_nil_of_length_pos hrun.least_le),
        decide_eq_false (Nat.not_lt.mpr hrun.le_nine)⟩
    unfold distance?
    rw [htake, hdrop]
    dsimp only
    rw [hlength, if_neg Bool.false_ne_true, hdays]
    rfl

/-- **A distance is the same distance in lower case**, spelled with digits and a letter. -/
theorem distance?_lower {t : Text} {n : Nat} (h : distance? t = some n) :
    distance? (lower t) = some n ∧ ∀ c ∈ lower t, IsPlainPart c := by
  obtain ⟨run, c, days, rfl, hrun, hdays, hn⟩ := distance?_eq_some_iff.mp h
  obtain ⟨hsettled, hunit, hpart⟩ := unit_lower c (mem_units hdays)
  obtain ⟨inWord, hlower⟩ :=
    lowerFrom_append (fun e he => stays_of_isDigit (hrun.digits e he)) [c] false
  rw [hsettled] at hlower
  have hlower : lower (run ++ [c]) = run ++ [c.toLower] := hlower
  rw [hlower]
  refine ⟨distance?_eq_some_iff.mpr ⟨run, c.toLower, days, rfl, hrun, ?_, hn⟩, fun e he => ?_⟩
  · rw [hunit]
    exact hdays
  · rcases List.mem_append.mp he with he | he
    · exact isPlainPart_of_isDigit (hrun.digits e he)
    · rw [List.mem_singleton.mp he]
      exact hpart

/-! ## 6. Days -/

/-- A text that, but for blanks around it and in lower case, is spelled with plain parts is tidied
    to that, and no date. -/
theorem tidy_of_isPlainPart {t : Text} (h : ∀ c ∈ lower (strip t), IsPlainPart c)
    (hne : strip t ≠ []) :
    strip (tidy t) = lower (strip t) ∧ IsSettled t ∧ absolute? (lower (strip t)) = none := by
  have hcollapse : collapse t = lower (strip t) :=
    collapse_of_strip hne (not_isBlank_of_lower fun c hc => (h c hc).1)
  refine ⟨(strip_tidy t).trans hcollapse, isSettled_of_collapse fun c hc => ?_,
    absolute?_of_forall fun c hc => (h c hc).2.2⟩
  rw [hcollapse] at hc
  exact (h c hc).2.1

/-- A stretch with blanks around it is tidied to itself. -/
theorem tidy_of_isStretch {t : Text} (h : IsStretch (strip t)) :
    strip (tidy t) = strip t ∧ IsSettled t := by
  have hcore : squeeze (strip t) = strip t := by
    have hsqueeze := h.squeeze []
    rwa [List.append_nil, show squeeze [] = [] from rfl, List.append_nil] at hsqueeze
  have hstays : ∀ c ∈ t, Text.stays c = true := fun c hc => by
    cases hblank : isBlank c with
    | true => exact stays_of_isBlank hblank
    | false =>
        have hmem := mem_strip hc hblank
        rw [hcore] at hmem
        exact h.stays c hmem
  refine ⟨?_, fun inWord => ?_⟩
  · rw [tidy, lower_of_stays hstays, strip_squeeze, ← squeeze_strip, hcore]
  · rw [lowerFrom_of_stays hstays, lower_of_stays hstays]

/-- **A tidied day is the same day**, and is settled. -/
theorem read_tidy {now : Moment} {t : Text} {m : Moment} (h : read now t = .ok (some m)) :
    read now (tidy t) = .ok (some m) ∧ IsSettled t := by
  unfold read at h ⊢
  dsimp only at h ⊢
  split at h
  next d hdate =>
    obtain ⟨hstrip, hsettled⟩ := tidy_of_isStretch (absolute?_spec hdate).1.isStretch
    refine ⟨?_, hsettled⟩
    rw [hstrip, hdate]
    exact h
  next hdate =>
    split at h
    next name hname =>
      obtain ⟨hstrip, hsettled, hnone⟩ := tidy_of_isPlainPart (Named.isPlainPart hname) fun e => by
        rw [e] at hname
        cases hname
      refine ⟨?_, hsettled⟩
      rw [hstrip, hnone, lower_lower, hname]
      exact h
    next hname =>
      split at h
      next n hdistance =>
        obtain ⟨hlower, hparts⟩ := distance?_lower hdistance
        obtain ⟨hstrip, hsettled, hnone⟩ := tidy_of_isPlainPart hparts fun e => by
          rw [e] at hdistance
          cases hdistance
        refine ⟨?_, hsettled⟩
        rw [hstrip, hnone, lower_lower, hname, hlower]
        exact h
      next => cases h

end Day

end Worklog
