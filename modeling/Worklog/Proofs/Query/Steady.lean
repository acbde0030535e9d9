import Worklog.Proofs.Query.Filter

/-!
# Steady tokens

Most tokens ask the same once they are in lower case with one space for each run of blanks. Three
kinds do not: a comparison whose word is spelled with a dotted capital `i`; a token that would be a
comparison but for a line break between its quotes; and a filter for an app or a project whose value
starts with a capital sigma that no letter follows. All others are steady (`Query.IsSteady`):

* **`Query.comparison?_lowerFrom`**: without a dotted capital `i`, a comparison is the same
  comparison in lower case;
* **`Query.comparison?_of_tidy`**: without a line break, what is a comparison once it is tidied was
  one before;
* `Query.quote_notMem_of_comparison`: a comparison with a length holds no quote, and so no blank;
* **`Query.partOf_tidy`**: a steady token, tidied, contributes what it does, tidied.
-/

namespace Worklog.Query

open Worklog.Text

/-! ## 1. Comparisons -/

/-- What counts as a letter stays one in lower case, but for the dotted capital `i`. -/
theorem isLetter_lowerIn {w c : Char} (hw : w ∈ letters) (h : isLetter w c = true)
    (hdotted : c ≠ Char.ofNat 0x130) (inWord : Bool) (rest : Text) :
    ∃ d, lowerIn inWord c rest = [d] ∧ isLetter w d = true := by
  have hletters : ∀ w ∈ letters, Text.stays w = true ∧ (w.toUpper.toNat == 0x3A3) = false ∧
      lowerChar w.toUpper = [w] := forall_mem_of_all (by decide)
  obtain ⟨hstays, hsigma, hupper⟩ := hletters w hw
  have hself : isLetter w w = true := by simp [isLetter]
  have hcases := h
  simp only [isLetter, Bool.or_eq_true, Bool.and_eq_true, beq_iff_eq] at hcases
  rcases hcases with (rfl | rfl) | ⟨-, e | e⟩
  · exact ⟨c, lowerIn_of_stays hstays _ _, hself⟩
  · refine ⟨w, ?_, hself⟩
    rw [lowerIn, hsigma]
    exact hupper
  · exact absurd e hdotted
  · refine ⟨c, lowerIn_of_stays ?_ _ _, h⟩
    rw [e]
    decide

/-- **A word is found in lower case** where it was found before, without a dotted capital `i`. -/
theorem afterWord?_lower : ∀ {ws x r : Text}, (∀ w ∈ ws, w ∈ letters) →
    Char.ofNat 0x130 ∉ x → afterWord? ws x = some r → ∀ inWord : Bool,
    ∃ inWord', afterWord? ws (lowerFrom inWord x) = some (lowerFrom inWord' r)
  | [], _, _, _, _, h, inWord => by
      cases h
      exact ⟨inWord, rfl⟩
  | _ :: _, [], _, _, _, h, _ => nomatch h
  | w :: ws, c :: x, r, hws, hdotted, h, inWord => by
      rw [afterWord?_cons] at h
      split at h
      next hletter =>
        obtain ⟨d, hd, hletter⟩ := isLetter_lowerIn (hws w List.mem_cons_self) hletter
          (fun e => hdotted (e ▸ List.mem_cons_self)) inWord x
        obtain ⟨inWord', ih⟩ := afterWord?_lower (fun v hv => hws v (List.mem_cons_of_mem w hv))
          (fun hm => hdotted (List.mem_cons_of_mem c hm)) h
          (if isIgnorable c then inWord else isCased c)
        refine ⟨inWord', ?_⟩
        rw [lowerFrom, hd, List.singleton_append, afterWord?_cons, if_pos hletter]
        exact ih
      next => cases h

/-- The words that start a comparison. -/
def openers : List Text := ["duration".toList, "dur".toList]

theorem mem_letters_of_opener : ∀ ws ∈ openers, ∀ w ∈ ws, w ∈ letters := fun ws hws => by
  have hopeners : ∀ ws ∈ openers, (ws.all fun w => decide (w ∈ letters)) = true := by decide
  exact forall_mem_of_all (hopeners ws hws)

/-- **A comparison** is one of two words, a sign and a value. -/
theorem comparison?_iff {t : Text} {c : LengthBound × Text} : comparison? t = some c ↔
    ∃ ws ∈ openers, (afterWord? ws t >>= comparisonTail?) = some c := by
  constructor
  · intro h
    rcases Option.or_eq_some_iff.mp h with h | ⟨-, h⟩
    · exact ⟨_, List.mem_cons_self, h⟩
    · exact ⟨_, List.mem_cons_of_mem _ List.mem_cons_self, h⟩
  · rintro ⟨ws, hws, h⟩
    rcases List.mem_cons.mp hws with rfl | hws
    · unfold comparison?
      rw [h]
      rfl
    · rw [List.mem_singleton.mp hws] at h
      exact comparison?_of_short h

theorem not_isBlank_lowerFrom {t : Text} (h : ∀ c ∈ t, isBlank c = false) (inWord : Bool) :
    ∀ c ∈ lowerFrom inWord t, isBlank c = false := fun c hc => by
  obtain ⟨d, hd, ⟨rfl, -⟩ | ⟨-, -, hblank, -⟩⟩ := exists_becomes hc
  · exact h c hd
  · exact hblank

/-- Without blanks, tidying is lower-casing. -/
theorem tidy_of_forall {t : Text} (h : ∀ c ∈ t, isBlank c = false) : tidy t = lower t :=
  squeeze_of_forall (not_isBlank_lowerFrom h false)

/-- A sign and a line make a comparison, and the sign tells the bound. -/
theorem comparisonTail?_inv {t v : Text} {bound : LengthBound}
    (h : comparisonTail? t = some (bound, v)) : ∃ s ∈ signs, ∃ line, t = s :: line ∧
      onlyLine? line = some v ∧
      ∀ line' v', onlyLine? line' = some v' → comparisonTail? (s :: line') = some (bound, v') := by
  unfold comparisonTail? at h
  split at h
  next line =>
    obtain ⟨_, hline, hpair⟩ := Option.map_eq_some_iff.mp h
    cases hpair
    refine ⟨'>', by decide, line, rfl, hline, fun line' v' h' => ?_⟩
    rw [comparisonTail?, h']
    rfl
  next line =>
    obtain ⟨_, hline, hpair⟩ := Option.map_eq_some_iff.mp h
    cases hpair
    refine ⟨'<', by decide, line, rfl, hline, fun line' v' h' => ?_⟩
    rw [comparisonTail?, h']
    rfl
  next => cases h

/-- **A comparison in lower case is the same comparison**, without a dotted capital `i`. -/
theorem comparison?_lowerFrom {x v : Text} {bound : LengthBound}
    (hblank : ∀ c ∈ x, isBlank c = false) (hdotted : Char.ofNat 0x130 ∉ x)
    (h : comparison? x = some (bound, v)) :
    v <:+ x ∧ ∃ inWord, comparison? (lower x) = some (bound, lowerFrom inWord v) := by
  obtain ⟨ws, hws, h⟩ := comparison?_iff.mp h
  obtain ⟨rest, hrest, htail⟩ := Option.bind_eq_some_iff.mp h
  have hsuffix := suffix_of_afterWord? hrest
  obtain ⟨s, hs, rfl, hbound⟩ :=
    comparisonTail?_spec (fun c hc => hblank c (hsuffix.subset hc)) htail
  have hstays : ∀ s ∈ signs, Text.stays s = true := forall_mem_of_all (by decide)
  obtain ⟨inWord, hlower⟩ := afterWord?_lower (mem_letters_of_opener ws hws) hdotted hrest false
  have hvalue : v <:+ x := (List.suffix_cons s v).trans hsuffix
  rw [lowerFrom, lowerIn_of_stays (hstays s hs), List.singleton_append] at hlower
  obtain ⟨behind, hlower⟩ : ∃ behind, afterWord? ws (lower x) = some (s :: lowerFrom behind v) :=
    ⟨_, hlower⟩
  refine ⟨hvalue, behind, comparison?_iff.mpr ⟨ws, hws, ?_⟩⟩
  rw [hlower]
  exact hbound _ (not_isBlank_lowerFrom (fun c hc => hblank c (hvalue.subset hc)) behind)

/-- A word and a sign in a squeezed text stand in the text. -/
theorem afterWord?_squeeze {s : Char} (hs : isBlank s = false) : ∀ {ws x rest : Text},
    (∀ w ∈ ws, w ∈ letters) → afterWord? ws (squeeze x) = some (s :: rest) →
    ∃ rest', afterWord? ws x = some (s :: rest')
  | [], [], _, _, h => nomatch h
  | _ :: _, [], _, _, h => nomatch h
  | ws, c :: x, rest, hws, h => by
      cases hc : isBlank c with
      | true =>
          rw [squeeze, squeezeFrom_blank hc] at h
          cases ws with
          | nil =>
              cases h
              exact absurd hs (by decide)
          | cons w ws =>
              have hspace : ∀ w ∈ letters, isLetter w ' ' = false := forall_mem_of_all (by decide)
              rw [afterWord?_cons, hspace w (hws w List.mem_cons_self)] at h
              cases h
      | false =>
          rw [squeeze, squeezeFrom_cons hc] at h
          cases ws with
          | nil =>
              cases h
              exact ⟨x, rfl⟩
          | cons w ws =>
              rw [afterWord?_cons] at h ⊢
              split at h
              next hletter =>
                rw [if_pos hletter]
                exact afterWord?_squeeze hs (fun v hv => hws v (List.mem_cons_of_mem w hv)) h
              next => cases h

/-- Without a line break a text is one line. -/
theorem onlyLine?_of_notMem {t : Text} (h : '\n' ∉ t) : onlyLine? t = some t := by
  have hnone : t.dropWhile (· != '\n') = [] := by
    rw [List.dropWhile_eq_nil_iff]
    intro c hc
    rw [bne_iff_ne]
    rintro rfl
    exact h hc
  unfold onlyLine?
  rw [hnone]

/-- **What is a comparison once it is tidied was one before**, without a line break. -/
theorem comparison?_of_tidy {t : Text} {c : LengthBound × Text} (hline : '\n' ∉ t)
    (h : comparison? (tidy t) = some c) : (comparison? t).isSome = true := by
  obtain ⟨ws, hws, h⟩ := comparison?_iff.mp h
  obtain ⟨rest, hrest, htail⟩ := Option.bind_eq_some_iff.mp h
  obtain ⟨bound, v⟩ := c
  obtain ⟨s, hs, line, rfl, -, hbound⟩ := comparisonTail?_inv htail
  have hsigns : ∀ s ∈ signs, isBlank s = false ∧ Text.stays s = true ∧ s.toNat ≤ 0x60 :=
    forall_mem_of_all (by decide)
  obtain ⟨hblank, hstays, hsmall⟩ := hsigns s hs
  have hletters := mem_letters_of_opener ws hws
  obtain ⟨rest', hrest'⟩ := afterWord?_squeeze hblank hletters hrest
  obtain ⟨-, y, hy, -⟩ := afterWord?_lowerFrom hstays hsmall hletters hrest'
  have hone : onlyLine? y = some y := onlyLine?_of_notMem fun hm =>
    hline ((suffix_of_afterWord? hy).subset (List.mem_cons_of_mem s hm))
  have hcomparison : (afterWord? ws t >>= comparisonTail?) = some (bound, y) := by
    rw [hy]
    exact hbound y y hone
  rw [comparison?_iff.mpr ⟨ws, hws, hcomparison⟩]
  rfl

/-- What counts as no letter stands behind the word. -/
theorem mem_of_afterWord? {c : Char} (hc : ∀ w ∈ letters, isLetter w c = false) :
    ∀ {ws t r : Text}, (∀ w ∈ ws, w ∈ letters) → afterWord? ws t = some r → c ∈ t → c ∈ r
  | [], _, _, _, h, hm => by
      cases h
      exact hm
  | _ :: _, [], _, _, h, _ => nomatch h
  | w :: ws, d :: t, r, hws, h, hm => by
      rw [afterWord?_cons] at h
      split at h
      next hletter =>
        refine mem_of_afterWord? hc (fun v hv => hws v (List.mem_cons_of_mem w hv)) h
          ((List.mem_cons.mp hm).resolve_left fun e => ?_)
        rw [← e, hc w (hws w List.mem_cons_self)] at hletter
        cases hletter
      next => cases h

theorem mem_onlyLine? {c : Char} (hc : c ≠ '\n') {t v : Text} (h : onlyLine? t = some v)
    (hm : c ∈ t) : c ∈ v := by
  have hsplit : t.takeWhile (· != '\n') ++ t.dropWhile (· != '\n') = t :=
    List.takeWhile_append_dropWhile
  unfold onlyLine? at h
  split at h
  next hnone =>
    cases h
    exact hm
  next hline =>
    cases h
    rw [hline] at hsplit
    rw [← hsplit] at hm
    exact (List.mem_append.mp hm).resolve_right fun e => hc (List.mem_singleton.mp e)
  next => cases h

/-- **A comparison with a length holds no quote.** -/
theorem quote_notMem_of_comparison {p : Precision} {t v : Text} {bound : LengthBound}
    {seconds : Rat} (h : comparison? t = some (bound, v))
    (hparse : Duration.parse p v = some seconds) : '"' ∉ t := by
  intro hm
  obtain ⟨ws, hws, h⟩ := comparison?_iff.mp h
  obtain ⟨rest, hrest, htail⟩ := Option.bind_eq_some_iff.mp h
  have hletters : ∀ w ∈ letters, isLetter w '"' = false := forall_mem_of_all (by decide)
  have hm := mem_of_afterWord? hletters (mem_letters_of_opener ws hws) hrest hm
  obtain ⟨s, hs, line, rfl, hline, -⟩ := comparisonTail?_inv htail
  have hsigns : ∀ s ∈ signs, '"' ≠ s := forall_mem_of_all (by decide)
  have hvalue : '"' ∈ v :=
    mem_onlyLine? (by decide) hline ((List.mem_cons.mp hm).resolve_left (hsigns s hs))
  -- A quote would be left by stripping, and would be spelled out in the length.
  have hparts := Duration.isPart_of_parse hparse
  have hstrip : '"' ∈ strip v :=
    (mem_squeezeFrom (mem_strip hvalue (by decide))).resolve_left (by decide)
  have hpart := hparts '"' (mem_lowerFrom_of_stays (by decide) hstrip)
  exact absurd hpart (by decide)

/-- A token without quotes holds no blank. -/
theorem IsToken.not_isBlank {t : Text} (h : IsToken t) (hquote : '"' ∉ t) :
    ∀ c ∈ t, isBlank c = false := by
  have htokens := h.tokens
  rw [tokens_eq_words hquote] at htokens
  exact (mem_words (htokens ▸ List.mem_singleton_self t : t ∈ words t)).2.2

/-! ## 2. Tokens -/

/-- The key of a filter. -/
def keyOf? (t : Text) : Option Key := Key.ofText? (t.takeWhile (· != ':'))

/-- The value of a filter. -/
def valueOf (t : Text) : Text := (t.dropWhile (· != ':')).tail

/-- **A token asks the same once it is tidied.** Three things can change it: a dotted capital `i` in
    the word of a comparison becomes two characters; a line break between quotes keeps a token from
    being a comparison, and is squeezed; and behind a colon a lone capital sigma becomes the final
    one. -/
structure IsSteady (t : Text) : Prop where
  dotted : ':' ∉ t → (comparison? t).isSome = true → Char.ofNat 0x130 ∉ t
  broken : ':' ∉ t → (comparison? (tidy t)).isSome = true → '\n' ∉ t
  lone : keyOf? t = some .app ∨ keyOf? t = some .project → startsLoneSigma (valueOf t) = false

instance (t : Text) : Decidable (IsSteady t) :=
  decidable_of_iff ((':' ∉ t → (comparison? t).isSome = true → Char.ofNat 0x130 ∉ t) ∧
      (':' ∉ t → (comparison? (tidy t)).isSome = true → '\n' ∉ t) ∧
      (keyOf? t = some .app ∨ keyOf? t = some .project → startsLoneSigma (valueOf t) = false))
    ⟨fun ⟨hd, hb, hl⟩ => ⟨hd, hb, hl⟩, fun h => ⟨h.dotted, h.broken, h.lone⟩⟩

section Token

variable {p : Precision} {now : Moment} {t : Text}

theorem takeWhile_colon {key : Text} (hkey : ':' ∉ key) (value : Text) :
    (key ++ ':' :: value).takeWhile (· != ':') = key ∧
      (key ++ ':' :: value).dropWhile (· != ':') = ':' :: value := by
  have hall : ∀ c ∈ key, (c != ':') = true := fun c hc => bne_iff_ne.mpr fun e => hkey (e ▸ hc)
  rw [List.takeWhile_append_of_pos hall, List.dropWhile_append_of_pos hall,
    List.takeWhile_cons_of_neg (by decide), List.dropWhile_cons_of_neg (by decide), List.append_nil]
  exact ⟨rfl, rfl⟩

theorem partOf_colon {key value : Text} (hkey : ':' ∉ key)
    (hhead : ∀ rest, key ++ ':' :: value ≠ '-' :: rest) : partOf p now (key ++ ':' :: value) =
      (colonPart p now (key ++ ':' :: value) key value).map some := by
  obtain ⟨htake, hdrop⟩ := takeWhile_colon hkey value
  unfold partOf
  split
  next rest h => exact absurd h (hhead rest)
  next => rw [hdrop, htake]

theorem partOf_plain (hcolon : ':' ∉ t) (hhead : ∀ rest, t ≠ '-' :: rest) :
    partOf p now t = .ok (plainPart p t) := by
  have hdrop : t.dropWhile (· != ':') = [] := List.dropWhile_eq_nil_iff.mpr fun c hc =>
    bne_iff_ne.mpr fun e => hcolon (e ▸ hc)
  unfold partOf
  split
  next rest => exact absurd rfl (hhead rest)
  next => rw [hdrop]

theorem nonEmpty_tidy {part : Text → Part} (hpart : ∀ x, part (tidy x) = (part x).tidy) (x : Text) :
    nonEmpty part (tidy x) = (nonEmpty part x).map Part.tidy := by
  unfold nonEmpty
  by_cases hx : x = []
  · rw [hx]
    rfl
  · rw [if_neg fun e => hx (List.isEmpty_iff.mp e),
      if_neg fun e => tidy_ne_nil hx (List.isEmpty_iff.mp e), hpart]
    rfl

/-- A filter, or a text with a colon. -/
theorem colonPart_tidy {key value : Text} {part : Part} (hkey : ':' ∉ key)
    (hsteady : IsSteady (key ++ ':' :: value))
    (h : colonPart p now (key ++ ':' :: value) key value = .ok part)
    (hno : part.isProblem = false) {key' : Text} (hsame : Key.ofText? key' = Key.ofText? key)
    (inWord : Bool) :
    colonPart p now (tidy (key ++ ':' :: value)) key' (squeeze (lowerFrom inWord value)) =
      .ok part.tidy := by
  unfold colonPart at h ⊢
  rw [hsame]
  cases hk : Key.ofText? key with
  | none =>
      rw [hk] at h
      cases h
      rfl
  | some k =>
      rw [hk] at h
      dsimp only at h ⊢
      obtain ⟨htidy, hsettled⟩ := filterPart_tidy h hno (tidy (key ++ ':' :: value))
      obtain ⟨htake, hdrop⟩ := takeWhile_colon hkey value
      have hof : keyOf? (key ++ ':' :: value) = some k := by rw [keyOf?, htake, hk]
      have hbehind : valueOf (key ++ ':' :: value) = value := by
        rw [valueOf, hdrop]
        rfl
      have hsettled : IsSettled value := by
        by_cases hquote : ∃ rest, value = '"' :: rest
        · obtain ⟨rest, rfl⟩ := hquote
          exact isSettled_quote rest
        · rw [unquote_of_head fun rest e => hquote ⟨rest, e⟩] at hsettled
          have hlone : k = .app ∨ k = .project → IsSettled value := fun hk => by
            have hno := hsteady.lone (hof ▸ hk.imp (congrArg some) (congrArg some))
            rw [hbehind] at hno
            exact isSettled_of_not_startsLoneSigma hno
          exact hsettled.elim id hlone
      have htidied : squeeze (lowerFrom inWord value) = tidy value := by
        rw [hsettled inWord]
        rfl
      rw [htidied, unquote_tidy]
      exact htidy

/-- A comparison, a phrase or a word. -/
theorem plainPart_tidy (ht : IsToken t) (hsteady : IsSteady t) (hcolon : ':' ∉ t)
    (hno : ∀ part, plainPart p t = some part → part.isProblem = false) :
    plainPart p (tidy t) = (plainPart p t).map Part.tidy := by
  cases hcomparison : comparison? t with
  | some c =>
      obtain ⟨bound, v⟩ := c
      cases hparse : Duration.parse p v with
      | none =>
          have hproblem : plainPart p t = some (.problem (.noLength t)) := by
            unfold plainPart
            rw [hcomparison]
            simp only [hparse]
          exact nomatch hno _ hproblem
      | some s =>
          have hblank := ht.not_isBlank (quote_notMem_of_comparison hcomparison hparse)
          have hdotted := hsteady.dotted hcolon (by rw [hcomparison]; rfl)
          obtain ⟨hsuffix, inWord, hlower⟩ := comparison?_lowerFrom hblank hdotted hcomparison
          obtain ⟨hvalue, hparse'⟩ := Duration.parse_lowerFrom
            (fun c hc => hblank c (hsuffix.subset hc)) hparse inWord
          unfold plainPart
          rw [tidy_of_forall hblank, hlower, hcomparison, hvalue]
          simp only [hparse, hparse']
          rfl
  | none =>
      have hnone : comparison? (tidy t) = none := by
        cases htidy : comparison? (tidy t) with
        | none => rfl
        | some c =>
            have hsome := comparison?_of_tidy (hsteady.broken hcolon (by rw [htidy]; rfl)) htidy
            rw [hcomparison] at hsome
            cases hsome
      unfold plainPart
      rw [hcomparison, hnone]
      dsimp only
      by_cases hquote : ∃ rest, t = '"' :: rest
      · obtain ⟨rest, rfl⟩ := hquote
        have hhead : (tidy ('"' :: rest)).head? = some '"' := by rw [tidy_quote]; rfl
        have hhead' : ('"' :: rest).head? = some '"' := rfl
        rw [if_pos (beq_iff_eq.mpr hhead), if_pos (beq_iff_eq.mpr hhead'), unquote_tidy]
        exact nonEmpty_tidy (fun _ => rfl) _
      · have hno : ∀ {x : Text}, (x.head? == some '"') = true → ∃ rest, x = '"' :: rest :=
          fun {x} h => List.head?_eq_some_iff.mp (eq_of_beq h)
        rw [if_neg fun h => hquote (hno h), if_neg fun h => ?_]
        · rfl
        · obtain ⟨rest, h⟩ := hno h
          exact hquote (head_tidy (by decide) (by decide) h)

/-- An exclusion is tidied to an exclusion. -/
theorem partOf_tidy_excluded {o : Option Part} {rest : Text}
    (h : partOf p now ('-' :: rest) = .ok o) :
    partOf p now (tidy ('-' :: rest)) = .ok (o.map Part.tidy) := by
  cases h
  have htidy : tidy ('-' :: rest) = '-' :: tidy rest :=
    tidy_append_barrier isBarrier_hyphen [] rest
  rw [htidy]
  exact congrArg Except.ok (nonEmpty_tidy (fun _ => rfl) rest)

/-- **A steady token, tidied**, contributes what the token does, tidied. -/
theorem partOf_tidy {o : Option Part} (ht : IsToken t) (hsteady : IsSteady t)
    (h : partOf p now t = .ok o) (hno : ∀ part, o = some part → part.isProblem = false) :
    partOf p now (tidy t) = .ok (o.map Part.tidy) := by
  by_cases hhyphen : ∃ rest, t = '-' :: rest
  · obtain ⟨rest, rfl⟩ := hhyphen
    exact partOf_tidy_excluded h
  · have hhead : ∀ rest, t ≠ '-' :: rest := fun rest e => hhyphen ⟨rest, e⟩
    have htidy : ∀ rest, tidy t ≠ '-' :: rest := fun rest e =>
      hhyphen (head_tidy (by decide) (by decide) e)
    by_cases hcolon : ':' ∈ t
    · obtain ⟨key, value, rfl, hkey⟩ := List.eq_append_cons_of_mem hcolon
      rw [partOf_colon hkey hhead] at h
      obtain ⟨part, hpart, rfl⟩ : ∃ part,
          colonPart p now (key ++ ':' :: value) key value = .ok part ∧ some part = o := by
        cases hc : colonPart p now (key ++ ':' :: value) key value with
        | error e =>
            rw [hc] at h
            cases h
        | ok part =>
            rw [hc] at h
            cases h
            exact ⟨part, rfl, rfl⟩
      obtain ⟨key', inWord, hsplit, hkey', hsame⟩ := tidy_colon key value hkey
      have hread := colonPart_tidy hkey hsteady hpart (hno part rfl) hsame inWord
      rw [hsplit] at htidy hread ⊢
      rw [partOf_colon hkey' htidy, hread]
      rfl
    · rw [partOf_plain hcolon hhead] at h
      cases h
      have hcolon' : ':' ∉ tidy t := fun hm =>
        hcolon (mem_of_mem_tidy (by decide) (by decide) (by decide) hm)
      rw [partOf_plain hcolon' htidy, plainPart_tidy ht hsteady hcolon hno]

end Token

end Worklog.Query
