import Worklog.Proofs.Fault
import Worklog.Proofs.Query.Tidy

/-!
# Filters, tidied

A filter is a key, a colon and a value. Lower case and squeezed blanks leave the key what it is; the
value is lower-cased behind the colon, which only matters to a sigma at its start, and quotes around
it stay where they are:

* `Query.lowerFrom_split`: the lower case of a beginning may depend on what follows, but only in
  sigmas;
* **`Query.tidy_colon`**: a tidied filter has the same key;
* **`Query.isSettled_of_not_startsLoneSigma`**: what is not a lone sigma at the start of a text is
  lower-cased alike behind anything;
* `Query.unquote_tidy`: quotes are taken off a tidied text as off the text;
* **`Query.filterPart_tidy`**: a filter with a tidied value asks the same, tidied.
-/

namespace Worklog.Query

open Worklog.Text

/-! ## 1. Keys -/

theorem mem_squeezeFrom : ∀ {b : Bool} {t : Text} {c : Char}, c ∈ squeezeFrom b t →
    c = ' ' ∨ c ∈ t
  | _, [], _, h => absurd h List.not_mem_nil
  | b, d :: t, c, h => by
      have more : ∀ {b' : Bool}, c ∈ squeezeFrom b' t → c = ' ' ∨ c ∈ d :: t :=
        fun hm => (mem_squeezeFrom hm).imp_right (List.mem_cons_of_mem d)
      cases hd : isBlank d with
      | false =>
          rw [squeezeFrom_cons hd] at h
          rcases List.mem_cons.mp h with rfl | h
          · exact Or.inr List.mem_cons_self
          · exact more h
      | true =>
          cases b with
          | true =>
              rw [squeezeFrom_blank_blank hd] at h
              exact more h
          | false =>
              rw [squeezeFrom_blank hd] at h
              rcases List.mem_cons.mp h with rfl | h
              · exact Or.inl rfl
              · exact more h

/-- What is no blank is not squeezed away. -/
theorem mem_squeezeFrom_of_mem {c : Char} (hc : isBlank c = false) {t : Text} (h : c ∈ t)
    (b : Bool) : c ∈ squeezeFrom b t := by
  obtain ⟨x, y, rfl⟩ := List.append_of_mem h
  rw [squeezeFrom_append hc]
  exact List.mem_append_right _ List.mem_cons_self

/-- A blank leaves a space. -/
theorem space_mem_squeeze : ∀ {t : Text} {c : Char}, c ∈ t → isBlank c = true → ' ' ∈ squeeze t
  | d :: t, c, h, hc => by
      cases hd : isBlank d with
      | true =>
          rw [squeeze, squeezeFrom_blank hd]
          exact List.mem_cons_self
      | false =>
          have hne : c ≠ d := fun e => by
            rw [e, hd] at hc
            cases hc
          rw [squeeze, squeezeFrom_cons hd]
          have ht : c ∈ t := (List.mem_cons.mp h).resolve_left hne
          exact List.mem_cons_of_mem d (space_mem_squeeze ht hc)

/-- In front of a text the lower case of a beginning may depend on what follows, but only in the
    sigmas. -/
theorem lowerFrom_split : ∀ (x y : Text) (inWord : Bool), ∃ x' inWord',
    lowerFrom inWord (x ++ y) = x' ++ lowerFrom inWord' y ∧
      (∀ d ∈ x', ∃ c ∈ x, Becomes c d) ∧
      (x' = lowerFrom inWord x ∨
        (∃ c ∈ x', isSmallSigma c = true) ∧ ∃ c ∈ lowerFrom inWord x, isSmallSigma c = true)
  | [], y, inWord => ⟨[], inWord, rfl, fun _ hd => absurd hd List.not_mem_nil, Or.inl rfl⟩
  | c :: x, y, inWord => by
      obtain ⟨x', inWord', hlower, hmem, hsame⟩ :=
        lowerFrom_split x y (if isIgnorable c then inWord else isCased c)
      refine ⟨lowerIn inWord c (x ++ y) ++ x', inWord', ?_, ?_, ?_⟩
      · rw [List.cons_append, lowerFrom, hlower, List.append_assoc]
      · intro d hd
        rcases List.mem_append.mp hd with hd | hd
        · exact ⟨c, List.mem_cons_self, mem_lowerIn hd⟩
        · obtain ⟨e, he, hbecomes⟩ := hmem d hd
          exact ⟨e, List.mem_cons_of_mem c he, hbecomes⟩
      · rw [lowerFrom]
        by_cases hsigma : (c.toNat == 0x3A3) = true
        · have hin : ∀ rest, ∃ s ∈ lowerIn inWord c rest, isSmallSigma s = true := fun rest => by
            rw [lowerIn, if_pos hsigma]
            refine ⟨_, List.mem_singleton_self _, ?_⟩
            split
            · decide
            · decide
          obtain ⟨s, hs, hsmall⟩ := hin (x ++ y)
          obtain ⟨s', hs', hsmall'⟩ := hin x
          exact Or.inr ⟨⟨s, List.mem_append_left _ hs, hsmall⟩,
            s', List.mem_append_left _ hs', hsmall'⟩
        · have hin : lowerIn inWord c (x ++ y) = lowerIn inWord c x := by
            rw [lowerIn, lowerIn, if_neg hsigma, if_neg hsigma]
          rw [hin]
          rcases hsame with rfl | ⟨⟨s, hs, hsmall⟩, s', hs', hsmall'⟩
          · exact Or.inl rfl
          · exact Or.inr ⟨⟨s, List.mem_append_right _ hs, hsmall⟩,
              s', List.mem_append_right _ hs', hsmall'⟩

/-- The known keys hold no blank and no sigma. -/
theorem Key.spec {t : Text} {k : Key} (h : Key.ofText? t = some k) :
    ∀ c ∈ lower t, isBlank c = false ∧ isSmallSigma c = false := by
  have hkeys : ∀ k ∈ keys, (k.1.toList.all fun c =>
      decide (isBlank c = false ∧ isSmallSigma c = false)) = true := by decide
  obtain ⟨entry, hfind, -⟩ := Option.map_eq_some_iff.mp h
  have hname : entry.1.toList = lower t :=
    eq_of_beq (List.find?_some (p := fun k : String × Key => k.1.toList == lower t) hfind)
  rw [← hname]
  exact forall_mem_of_all (hkeys entry (List.mem_of_find?_eq_some hfind))

/-- A text with a blank or a sigma is no key. -/
theorem Key.ofText?_eq_none {t : Text} {c : Char} (hc : c ∈ lower t)
    (h : isBlank c = true ∨ isSmallSigma c = true) : Key.ofText? t = none := by
  cases hkey : Key.ofText? t with
  | none => rfl
  | some k =>
      obtain ⟨hblank, hsigma⟩ := Key.spec hkey c hc
      rcases h with h | h
      · rw [hblank] at h
        cases h
      · rw [hsigma] at h
        cases h

/-- **A token with a colon, tidied**: its key is the same, and its value is lower-cased behind the
    colon and squeezed. -/
theorem tidy_colon (key value : Text) (hkey : ':' ∉ key) : ∃ key' inWord,
    tidy (key ++ ':' :: value) = key' ++ ':' :: squeeze (lowerFrom inWord value) ∧
      ':' ∉ key' ∧ Key.ofText? key' = Key.ofText? key := by
  obtain ⟨x, inWord, hlower, hmem, hsame⟩ := lowerFrom_split key (':' :: value) false
  have hx : ∀ c ∈ x, Text.stays c = true := fun d hd => by
    obtain ⟨c, -, ⟨rfl, h⟩ | ⟨-, h, -⟩⟩ := hmem d hd
    · exact h
    · exact h
  have hlower' : lower (squeeze x) = squeeze x := lower_of_stays (stays_of_mem_squeezeFrom hx)
  refine ⟨squeeze x, if isIgnorable ':' then inWord else isCased ':', ?_, fun hc => ?_, ?_⟩
  · rw [tidy, lower, hlower, lowerFrom, lowerIn_of_stays (by decide), List.singleton_append,
      squeeze, squeezeFrom_append (by decide)]
    rfl
  · obtain ⟨c, hc, ⟨rfl, -⟩ | ⟨-, -, -, hlow⟩⟩ :=
      hmem _ ((mem_squeezeFrom hc).resolve_left (by decide))
    · exact hkey hc
    · exact absurd hlow (by decide)
  · rcases hsame with hx | ⟨⟨c, hc, hsigma⟩, d, hd, hsigma'⟩
    · have hx : x = lower key := hx
      by_cases hblank : ∀ c ∈ lower key, isBlank c = false
      · rw [hx, squeeze_of_forall hblank]
        unfold Key.ofText?
        rw [lower_lower]
      · obtain ⟨c, hc⟩ := not_forall.mp hblank
        obtain ⟨hc, hblank⟩ := Classical.not_imp.mp hc
        have hblank : isBlank c = true := Bool.not_eq_false _ ▸ hblank
        rw [Key.ofText?_eq_none hc (Or.inl hblank)]
        refine Key.ofText?_eq_none (c := ' ') ?_ (Or.inl (by decide))
        rw [hlower', hx]
        exact space_mem_squeeze hc hblank
    · rw [Key.ofText?_eq_none hd (Or.inr hsigma')]
      refine Key.ofText?_eq_none (c := c) ?_ (Or.inr hsigma)
      rw [hlower']
      exact mem_squeezeFrom_of_mem (not_isBlank_of_isSmallSigma hsigma) hc false

/-! ## 2. Values -/

/-- Whether a text starts, as far as case rules see, with a capital sigma that no letter follows;
    the lower case of that depends on what stands before. -/
def startsLoneSigma (t : Text) : Bool :=
  match t.dropWhile isIgnorable with
  | [] => false
  | c :: rest => c == Char.ofNat 0x3A3 && !startsCased rest

theorem startsLoneSigma_cons {c : Char} (hc : isIgnorable c = true) (t : Text) :
    startsLoneSigma (c :: t) = startsLoneSigma t := by
  unfold startsLoneSigma
  rw [List.dropWhile_cons_of_pos hc]

/-- **Nothing else depends on what stands before it.** -/
theorem isSettled_of_not_startsLoneSigma : ∀ {t : Text}, startsLoneSigma t = false → IsSettled t
  | [], _ => fun _ => rfl
  | c :: t, h => fun inWord => by
      have hsigma : ¬ (c.toNat == 0x3A3) = true → ∀ b : Bool, lowerIn b c t = lowerIn false c t :=
        fun hc b => by rw [lowerIn, lowerIn, if_neg hc, if_neg hc]
      show lowerIn inWord c t ++ lowerFrom _ t = lowerIn false c t ++ lowerFrom _ t
      by_cases hc : isIgnorable c = true
      · have hne : ¬ (c.toNat == 0x3A3) = true := fun e => by
          rw [isIgnorable, eq_of_beq e] at hc
          exact absurd hc (by decide +kernel)
        rw [startsLoneSigma_cons hc] at h
        have ih := isSettled_of_not_startsLoneSigma h
        rw [hsigma hne, ih, ih]
      · rw [if_neg hc, if_neg hc]
        by_cases hne : (c.toNat == 0x3A3) = true
        · have hchar : c = Char.ofNat 0x3A3 := by rw [← Char.ofNat_toNat c, eq_of_beq hne]
          have hcased : startsCased t = true := by
            unfold startsLoneSigma at h
            rw [List.dropWhile_cons_of_neg hc, hchar] at h
            simpa using h
          rw [lowerIn, lowerIn, if_pos hne, if_pos hne, hcased, Bool.not_true, Bool.and_false,
            Bool.and_false]
        · rw [hsigma hne]

/-- What stands behind a quote is settled with it. -/
theorem isSettled_quote (t : Text) : IsSettled ('"' :: t) := fun inWord =>
  (lowerFrom_append_barrier isBarrier_quote t [] inWord).trans
    (lowerFrom_append_barrier isBarrier_quote t [] false).symm

/-- Marks of a tidied text are marks of the text. -/
theorem mem_of_mem_tidy {c : Char} (hstays : Text.stays c = true) (hsmall : c.toNat ≤ 0x60)
    (hne : c ≠ ' ') {t : Text} (h : c ∈ tidy t) : c ∈ t :=
  (mem_lower_iff hstays hsmall).mp ((mem_squeezeFrom h).resolve_left hne)

theorem tidy_ne_nil {t : Text} (h : t ≠ []) : tidy t ≠ [] := by
  have hlower : lower t ≠ [] := fun e => h (lowerFrom_eq_nil e)
  obtain ⟨c, x, hc⟩ := List.exists_cons_of_ne_nil hlower
  rw [tidy, squeeze, hc]
  cases hblank : isBlank c with
  | true =>
      rw [squeezeFrom_blank hblank]
      exact List.cons_ne_nil _ _
  | false =>
      rw [squeezeFrom_cons hblank]
      exact List.cons_ne_nil _ _

/-- A sign starts a tidied text only if it starts the text. -/
theorem head_tidy {s : Char} (hsmall : s.toNat ≤ 0x60) (hspace : s ≠ ' ') {t rest : Text}
    (h : tidy t = s :: rest) : ∃ t', t = s :: t' := by
  cases t with
  | nil => cases h
  | cons c t =>
      refine ⟨t, congrArg (· :: t) ?_⟩
      obtain ⟨d, more, hd⟩ := List.exists_cons_of_ne_nil (lowerIn_ne_nil false c t)
      rw [tidy, lower, lowerFrom, hd, List.cons_append, squeeze] at h
      have hsame : d = s := by
        cases hblank : isBlank d with
        | true =>
            rw [squeezeFrom_blank hblank] at h
            exact absurd (List.cons.inj h).1.symm hspace
        | false =>
            rw [squeezeFrom_cons hblank] at h
            exact (List.cons.inj h).1
      have hmem : d ∈ lowerIn false c t := hd ▸ List.mem_cons_self
      rcases mem_lowerIn hmem with ⟨rfl, -⟩ | ⟨-, -, -, hbig⟩
      · exact hsame
      · rw [hsame] at hbig
        omega

/-- A tidied text ends with a quote only if the text does. -/
theorem getLast?_tidy {t : Text} (h : (tidy t).getLast? = some '"') : t.getLast? = some '"' := by
  have hmem : '"' ∈ t.reverse :=
    List.mem_reverse.mpr (mem_of_mem_tidy (by decide) (by decide) (by decide)
      (List.mem_of_getLast? h))
  obtain ⟨y, x, hreverse, hy⟩ := List.eq_append_cons_of_mem hmem
  have ht : t = x.reverse ++ '"' :: y.reverse := by
    rw [← List.reverse_reverse t, hreverse, List.reverse_append, List.reverse_cons,
      List.append_assoc]
    rfl
  cases y with
  | nil =>
      rw [ht]
      exact List.getLast?_concat
  | cons c y =>
      have hne : tidy (c :: y).reverse ≠ [] := tidy_ne_nil (List.reverse_ne_nil_iff.mpr nofun)
      rw [ht, tidy_append_barrier isBarrier_quote, ← List.singleton_append, ← List.append_assoc,
        List.getLast?_append] at h
      rcases Option.or_eq_some_iff.mp h with h | ⟨hnone, -⟩
      · have hquote : '"' ∈ (c :: y).reverse := mem_of_mem_tidy (by decide) (by decide)
          (by decide) (List.mem_of_getLast? h)
        exact absurd (List.mem_reverse.mp hquote) hy
      · exact absurd (List.getLast?_eq_none_iff.mp hnone) hne

theorem unquote_of_head {t : Text} (h : ∀ rest, t ≠ '"' :: rest) : unquote t = t := by
  unfold unquote
  split
  · exact absurd rfl (h _)
  · rfl

theorem tidy_quote (t : Text) : tidy ('"' :: t) = '"' :: tidy t :=
  tidy_append_barrier isBarrier_quote [] t

/-- **The quotes are taken off a tidied text** as off the text. -/
theorem unquote_tidy (t : Text) : unquote (tidy t) = tidy (unquote t) := by
  by_cases hhead : ∃ rest, t = '"' :: rest
  · obtain ⟨rest, rfl⟩ := hhead
    rw [tidy_quote]
    show (if (tidy rest).getLast? == some '"' then _ else _) =
      tidy (if rest.getLast? == some '"' then _ else _)
    by_cases hlast : rest.getLast? = some '"'
    · obtain ⟨m, rfl⟩ := List.getLast?_eq_some_iff.mp hlast
      have htidy : tidy (m ++ ['"']) = tidy m ++ ['"'] := tidy_append_barrier isBarrier_quote m []
      rw [htidy, List.getLast?_concat, List.getLast?_concat, if_pos (beq_self_eq_true _),
        if_pos (beq_self_eq_true _), List.dropLast_concat, List.dropLast_concat]
    · rw [if_neg fun e => hlast (getLast?_tidy (eq_of_beq e)), if_neg fun e => hlast (eq_of_beq e)]
  · have hnone : ∀ rest, t ≠ '"' :: rest := fun rest e => hhead ⟨rest, e⟩
    have htidy : ∀ rest, tidy t ≠ '"' :: rest := fun rest e =>
      hhead (head_tidy (by decide) (by decide) e)
    rw [unquote_of_head hnone, unquote_of_head htidy]

/-! ## 3. Parts -/

/-- A part in lower case with one space for each run of blanks. -/
def Part.tidy : Part → Part
  | .text t => .text (Query.tidy t)
  | .excluded t => .excluded (Query.tidy t)
  | .app t => .app (Query.tidy t)
  | .project t => .project (Query.tidy t)
  | part => part

/-- Whether a part is a problem. -/
def Part.isProblem : Part → Bool
  | .problem _ => true
  | _ => false

/-- **A filter with a tidied value** contributes what the filter does, tidied. Its value is settled,
    unless it asks for an app or a project. -/
theorem filterPart_tidy {p : Precision} {now : Moment} {token value : Text} {key : Key}
    {part : Part} (h : filterPart p now token key value = .ok part) (hno : part.isProblem = false)
    (token' : Text) : filterPart p now token' key (tidy value) = .ok part.tidy ∧
      (IsSettled value ∨ key = .app ∨ key = .project) := by
  unfold filterPart at h ⊢
  by_cases hempty : value.isEmpty = true
  · rw [if_pos hempty] at h
    cases h
    cases hno
  · rw [if_neg hempty] at h
    have htidy : ¬ (tidy value).isEmpty = true := fun e =>
      tidy_ne_nil (fun e => hempty (List.isEmpty_iff.mpr e)) (List.isEmpty_iff.mp e)
    rw [if_neg htidy]
    cases key with
    | app =>
        cases h
        exact ⟨rfl, Or.inr (Or.inl rfl)⟩
    | project =>
        cases h
        exact ⟨rfl, Or.inr (Or.inr rfl)⟩
    | day bound =>
        obtain ⟨day, hday, hpart⟩ := bind_eq_ok.mp h
        cases day with
        | none =>
            cases hpart
            cases hno
        | some day =>
            cases hpart
            obtain ⟨htidy, hsettled⟩ := Day.read_tidy hday
            refine ⟨?_, Or.inl hsettled⟩
            dsimp only
            rw [htidy]
            rfl
    | length bound =>
        dsimp only at h ⊢
        cases hparse : Duration.parse p value with
        | none =>
            rw [hparse] at h
            cases h
            cases hno
        | some seconds =>
            rw [hparse] at h
            cases h
            obtain ⟨htidy, hsettled⟩ := Duration.parse_tidy hparse
            rw [htidy]
            exact ⟨rfl, Or.inl hsettled⟩

end Worklog.Query
