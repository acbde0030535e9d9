import Worklog.Proofs.Query.Stray

/-!
# Queries put together

A query is read token by token, and a blank behind a query with all quotes in pairs cuts its tokens
off. So two queries with a blank between them ask what the first asks and then what the second
asks, sort by sort. And nothing is lost on the way: each token is one entry of one sort, but for a
bare hyphen and for quotes around nothing.

* `Query.read_eq`: what a query asks is what its tokens contribute, and the quote without a partner;
* `Query.perm_entries`: each part of a query is one entry of one sort;
* `Query.part?_eq_none_iff`: the tokens that contribute nothing;
* `Query.IsUnreadable`, `Query.isUnreadable_iff`: the tokens that contribute problems;
* `Query.refusal?_eq_none_iff`: what is accepted asks something, and no part of it is a problem;
* **`Query.read_composes`**: queries put together, what tokens contribute and what is accepted.
-/

namespace Worklog.Query

open Text

variable {p : Precision} {now : Moment} {t : Text}

/-! ## 1. Reading by parts -/

/-- The parts of a query: those of its tokens, and a problem if a quote has no partner. -/
def parts (p : Precision) (now : Moment) (q : Text) : List Part :=
  (tokens q).filterMap (part? p now) ++ quoteProblem q

theorem partOf_of_isInner (h : now.IsInner) (t : Text) : partOf p now t = .ok (part? p now t) := by
  rcases partOf_cases p now t with ⟨-, o, ho⟩ | ⟨hout, -⟩
  · rw [part?_eq ho, ho]
  · rw [not_strays_of_isInner h] at hout
    cases hout

/-- **A query asks what its tokens contribute**, and whether its quotes have partners. -/
theorem read_eq (h : now.IsInner) (q : Text) : read p now q = .ok (ofParts (parts p now q)) := by
  unfold read
  rw [mapM_ok fun t _ => partOf_of_isInner h t]
  show Except.ok (ofParts (((tokens q).map (part? p now)).filterMap id ++ quoteProblem q)) = _
  rw [List.filterMap_map]
  rfl

theorem quoteProblem_of_even {q : Text} (h : quoteCount q % 2 = 0) : quoteProblem q = [] :=
  if_neg (by omega)

/-- Behind a query with all quotes in pairs, a query keeps its quotes. -/
theorem quoteProblem_append {q₁ : Text} (h : quoteCount q₁ % 2 = 0) (q₂ : Text) :
    quoteProblem (q₁ ++ ' ' :: q₂) = quoteProblem q₂ := by
  have hcount : quoteCount (q₁ ++ ' ' :: q₂) = quoteCount q₁ + quoteCount q₂ := by
    unfold quoteCount
    rw [List.count_append, List.count_cons_of_ne (by decide)]
  have hsame : quoteCount (q₁ ++ ' ' :: q₂) % 2 = quoteCount q₂ % 2 := by omega
  unfold quoteProblem
  rw [hsame]

/-- **The parts of two queries** with a blank between them. -/
theorem parts_append {q₁ : Text} (h : quoteCount q₁ % 2 = 0) (q₂ : Text) :
    parts p now (q₁ ++ ' ' :: q₂) = parts p now q₁ ++ parts p now q₂ := by
  unfold parts
  rw [tokens_append_blank (by decide) (isClosed_iff.mpr h), List.filterMap_append,
    quoteProblem_append h, quoteProblem_of_even h, List.append_nil, List.append_assoc]

/-! ## 2. Entries -/

/-- The entries of a query, sort by sort. -/
def entries (q : Query) : List Part :=
  q.texts.map .text ++ q.excluded.map .excluded ++ q.apps.map .app ++ q.projects.map .project ++
    q.days.map .day ++ q.lengths.map .length ++ q.problems.map .problem

theorem perm_entries_cons (part : Part) (q : Query) :
    (entries (cons part q)).Perm (part :: entries q) := by
  refine List.perm_iff_count.mpr fun entry => ?_
  cases part with
  | _ =>
      simp only [entries, cons, List.map_cons, List.count_append, List.count_cons]
      omega

/-- **Each part of a query is one entry of one sort.** -/
theorem perm_entries : ∀ parts : List Part, (entries (ofParts parts)).Perm parts
  | [] => List.Perm.refl []
  | part :: parts =>
      (perm_entries_cons part (ofParts parts)).trans ((perm_entries parts).cons part)

/-- A query asks nothing if nothing but problems is among its parts. -/
theorem isEmpty_ofParts : ∀ {parts : List Part},
    (ofParts parts).isEmpty = true ↔ ∀ part ∈ parts, part.isProblem = true
  | [] => iff_of_true rfl fun _ h => absurd h List.not_mem_nil
  | part :: parts => by
      have ih : (ofParts parts).isEmpty = true ↔ _ := isEmpty_ofParts
      rw [List.forall_mem_cons, ← ih]
      show (cons part (ofParts parts)).isEmpty = true ↔ _
      cases part with
      | _ => simp [cons, isEmpty, Part.isProblem]

theorem problems_ofParts {parts : List Part} :
    (ofParts parts).problems = [] ↔ ∀ part ∈ parts, part.isProblem = false := by
  rw [ofParts_eq, List.filterMap_eq_nil_iff]
  refine forall₂_congr fun part _ => ?_
  cases part with
  | _ => simp [Part.problem?, Part.isProblem]

/-- **What is accepted asks something**, and no part of it is a problem. -/
theorem refusal?_eq_none_iff {parts : List Part} : refusal? (ofParts parts) = none ↔
    parts ≠ [] ∧ ∀ part ∈ parts, part.isProblem = false := by
  have hrefusal : refusal? (ofParts parts) = none ↔
      (ofParts parts).problems = [] ∧ (ofParts parts).isEmpty = false := by
    unfold refusal?
    split
    next problem more hproblems =>
      rw [hproblems]
      exact iff_of_false nofun fun h => nomatch h.1
    next hproblems =>
      rw [hproblems]
      cases (ofParts parts).isEmpty with
      | _ => simp
  rw [hrefusal, problems_ofParts, and_comm]
  refine and_congr_left fun hno => ?_
  rw [Bool.eq_false_iff, ne_eq, isEmpty_ofParts]
  cases parts with
  | nil => simp
  | cons part parts => simp [hno part List.mem_cons_self]

/-! ## 3. Tokens that contribute nothing -/

/-- A bare hyphen, and quotes around nothing. -/
def silent : List Text := [['-'], ['"'], ['"', '"']]

theorem nonEmpty_eq_none {part : Text → Part} : nonEmpty part t = none ↔ t = [] := by
  unfold nonEmpty
  cases t with
  | _ => simp

theorem eq_of_nonEmpty {part : Text → Part} {x : Part} (h : nonEmpty part t = some x) :
    x = part t := by
  unfold nonEmpty at h
  split at h
  · cases h
  · exact (Option.some.inj h).symm

/-- Quotes around nothing. -/
theorem unquote_eq_nil {rest : Text} : unquote ('"' :: rest) = [] ↔ rest = [] ∨ rest = ['"'] := by
  show (if rest.getLast? == some '"' then rest.dropLast else rest) = [] ↔ _
  split
  next hlast =>
    obtain ⟨x, rfl⟩ := List.getLast?_eq_some_iff.mp (eq_of_beq hlast)
    rw [List.dropLast_concat]
    cases x with
    | _ => simp
  next hlast =>
    refine (or_iff_left_of_imp fun e => ?_).symm
    rw [e] at hlast
    exact absurd rfl hlast

/-- What starts with a quote is no comparison. -/
theorem comparison?_quote (rest : Text) : comparison? ('"' :: rest) = none := rfl

/-- What starts with a quote is a phrase. -/
theorem plainPart_quote (rest : Text) :
    plainPart p ('"' :: rest) = nonEmpty .text (unquote ('"' :: rest)) := by
  unfold plainPart
  rw [comparison?_quote]
  rfl

/-- A text without a colon contributes nothing if it is quotes around nothing. -/
theorem plainPart_eq_none :
    plainPart p t = none ↔ ∃ rest, t = '"' :: rest ∧ unquote ('"' :: rest) = [] := by
  by_cases hquote : t.head? = some '"'
  · obtain ⟨rest, rfl⟩ := List.head?_eq_some_iff.mp hquote
    rw [plainPart_quote, nonEmpty_eq_none]
    exact ⟨fun h => ⟨rest, rfl, h⟩, fun ⟨_, e, h⟩ => List.cons.inj e |>.2 ▸ h⟩
  · refine iff_of_false (fun e => ?_) fun ⟨rest, e, _⟩ => hquote (e ▸ rfl)
    unfold plainPart at e
    split at e
    · split at e
      · cases e
      · cases e
    · rw [if_neg fun h => hquote (eq_of_beq h)] at e
      cases e

/-- **The tokens that contribute nothing.** -/
theorem part?_eq_none_iff (h : now.IsInner) : part? p now t = none ↔ t ∈ silent := by
  have hpart : part? p now t = none ↔ partOf p now t = .ok none := by
    rw [partOf_of_isInner h, Except.ok.injEq]
  rw [hpart]
  have hsilent : ':' ∈ t → t ∉ silent := fun hcolon hm => by
    have hall : ∀ t ∈ silent, ':' ∉ t := by decide
    exact hall t hm hcolon
  cases shape t with
  | excluded rest =>
      show Except.ok (nonEmpty Part.excluded rest) = Except.ok none ↔ _
      rw [Except.ok.injEq, nonEmpty_eq_none]
      simp [silent]
  | @filter _ key hfilter =>
      refine iff_of_false (fun e => ?_) (hsilent hfilter.colon)
      rw [hfilter.partOf] at e
      cases hvalue : filterPart p now t key (unquote (valueOf t)) with
      | _ =>
          rw [hvalue] at e
          cases e
  | colon hhead hcolon hkey =>
      rw [partOf_unknown hhead hcolon hkey]
      exact iff_of_false nofun (hsilent hcolon)
  | plain hhead hcolon =>
      rw [partOf_plain hcolon (ne_hyphen hhead), Except.ok.injEq, plainPart_eq_none]
      constructor
      · rintro ⟨rest, rfl, hrest⟩
        rcases unquote_eq_nil.mp hrest with rfl | rfl
        · decide
        · decide
      · intro hm
        rcases List.mem_cons.mp hm with rfl | hm
        · exact absurd rfl hhead
        · rcases List.mem_cons.mp hm with rfl | hm
          · exact ⟨[], rfl, rfl⟩
          · exact ⟨['"'], List.mem_singleton.mp hm, rfl⟩

/-! ## 4. Tokens that cannot be read -/

/-- **A token is a filter without a value, or with one that is no day or no length where one is
    asked for, or a comparison with what is no length.** -/
inductive IsUnreadable (p : Precision) (now : Moment) (t : Text) : Prop where
  | noValue {key : Key} (hfilter : IsFilter t key) (hvalue : unquote (valueOf t) = [])
  | noDay {bound : DayBound} (hfilter : IsFilter t (.day bound))
      (hvalue : Day.read now (unquote (valueOf t)) = .ok none)
  | noLength {bound : LengthBound} (hfilter : IsFilter t (.length bound))
      (hvalue : Duration.parse p (unquote (valueOf t)) = none)
  | noComparison {bound : LengthBound} {value : Text} (hcolon : ':' ∉ t)
      (hcomparison : comparison? t = some (bound, value)) (hvalue : Duration.parse p value = none)

/-- A filter is a problem if its value is missing or not what the key asks for. -/
theorem filterPart_isProblem {token value : Text} {key : Key} {part : Part}
    (h : filterPart p now token key value = .ok part) : part.isProblem = true ↔
      value = [] ∨ (∃ bound, key = .day bound ∧ Day.read now value = .ok none) ∨
        ∃ bound, key = .length bound ∧ Duration.parse p value = none := by
  unfold filterPart at h
  by_cases hempty : value = []
  · rw [hempty] at h
    cases h
    exact iff_of_true rfl (Or.inl hempty)
  · rw [if_neg fun e => hempty (List.isEmpty_iff.mp e)] at h
    cases key with
    | app =>
        cases h
        simp [Part.isProblem, hempty]
    | project =>
        cases h
        simp [Part.isProblem, hempty]
    | day bound =>
        obtain ⟨day, hday, h⟩ := bind_eq_ok.mp h
        cases day with
        | _ =>
            cases h
            simp [Part.isProblem, hempty, hday]
    | length bound =>
        dsimp only at h
        cases hparse : Duration.parse p value with
        | _ =>
            rw [hparse] at h
            cases h
            simp [Part.isProblem, hempty]

/-- A filter cannot be read if its value is missing or not what the key asks for. -/
theorem IsFilter.isUnreadable_iff {key : Key} (hfilter : IsFilter t key) :
    IsUnreadable p now t ↔ unquote (valueOf t) = [] ∨
      (∃ bound, key = .day bound ∧ Day.read now (unquote (valueOf t)) = .ok none) ∨
        ∃ bound, key = .length bound ∧ Duration.parse p (unquote (valueOf t)) = none := by
  constructor
  · intro h
    cases h with
    | noValue _ hvalue => exact Or.inl hvalue
    | noDay hday hvalue =>
        have hsame := Option.some.inj (hfilter.key.symm.trans hday.key)
        exact Or.inr (Or.inl ⟨_, hsame, hvalue⟩)
    | noLength hlength hvalue =>
        have hsame := Option.some.inj (hfilter.key.symm.trans hlength.key)
        exact Or.inr (Or.inr ⟨_, hsame, hvalue⟩)
    | noComparison hcolon _ _ => exact absurd hfilter.colon hcolon
  · rintro (hvalue | ⟨bound, rfl, hvalue⟩ | ⟨bound, rfl, hvalue⟩)
    · exact .noValue hfilter hvalue
    · exact .noDay hfilter hvalue
    · exact .noLength hfilter hvalue

/-- Without a colon, only a comparison cannot be read. -/
theorem isUnreadable_of_plain (hcolon : ':' ∉ t) : IsUnreadable p now t ↔
    ∃ bound value, comparison? t = some (bound, value) ∧ Duration.parse p value = none := by
  constructor
  · intro h
    cases h with
    | noComparison _ hcomparison hvalue => exact ⟨_, _, hcomparison, hvalue⟩
    | _ hfilter _ => exact absurd hfilter.colon hcolon
  · rintro ⟨bound, value, hcomparison, hvalue⟩
    exact .noComparison hcolon hcomparison hvalue

/-- With a colon, only a filter cannot be read. -/
theorem not_isUnreadable (hno : ∀ key, ¬ IsFilter t key)
    (hcomparison : ':' ∈ t ∨ comparison? t = none) : ¬ IsUnreadable p now t := fun h => by
  cases h with
  | noComparison hcolon hsome _ =>
      rw [hcomparison.resolve_left hcolon] at hsome
      cases hsome
  | _ hfilter _ => exact hno _ hfilter

/-- A filter contributes what its value asks for. -/
theorem IsFilter.part? {key : Key} (hfilter : IsFilter t key) (h : now.IsInner) :
    ∃ part, filterPart p now t key (unquote (valueOf t)) = .ok part ∧
      Query.part? p now t = some part := by
  have hpart := partOf_of_isInner (p := p) h t
  rw [hfilter.partOf] at hpart
  cases hvalue : filterPart p now t key (unquote (valueOf t)) with
  | error fault =>
      rw [hvalue] at hpart
      cases hpart
  | ok part =>
      rw [hvalue] at hpart
      exact ⟨part, rfl, (Except.ok.inj hpart).symm⟩

/-- A hyphen starts no comparison. -/
theorem comparison?_hyphen (rest : Text) : comparison? ('-' :: rest) = none := rfl

/-- A token without a colon is a problem if it is a comparison with what is no length. -/
theorem plainPart_isProblem : (∃ part, plainPart p t = some part ∧ part.isProblem = true) ↔
    ∃ bound value, comparison? t = some (bound, value) ∧ Duration.parse p value = none := by
  have hnonEmpty : ∀ x, ¬ ∃ part, nonEmpty .text x = some part ∧ part.isProblem = true := by
    rintro x ⟨part, hpart, hproblem⟩
    rw [eq_of_nonEmpty hpart] at hproblem
    cases hproblem
  unfold plainPart
  cases hcomparison : comparison? t with
  | none =>
      refine iff_of_false ?_ fun h => nomatch h
      dsimp only
      split
      · exact hnonEmpty _
      · rintro ⟨part, hpart, hproblem⟩
        cases hpart
        cases hproblem
  | some c =>
      obtain ⟨bound, value⟩ := c
      cases hvalue : Duration.parse p value with
      | none =>
          simp only [hvalue]
          exact iff_of_true ⟨_, rfl, rfl⟩ ⟨bound, value, rfl, hvalue⟩
      | some seconds =>
          simp only [hvalue]
          refine iff_of_false ?_ ?_
          · rintro ⟨part, hpart, hproblem⟩
            cases hpart
            cases hproblem
          · rintro ⟨_, _, hsame, hnone⟩
            cases hsame
            rw [hvalue] at hnone
            cases hnone

/-- **The tokens that contribute problems** are those that cannot be read. -/
theorem isUnreadable_iff (h : now.IsInner) : IsUnreadable p now t ↔
    ∃ part, part? p now t = some part ∧ part.isProblem = true := by
  cases shape t with
  | excluded rest =>
      have hnone : ¬ IsUnreadable p now ('-' :: rest) :=
        not_isUnreadable (fun _ hfilter => hfilter.head rfl) (Or.inr (comparison?_hyphen rest))
      refine iff_of_false hnone ?_
      rintro ⟨part, hpart, hproblem⟩
      have hexcluded : nonEmpty Part.excluded rest = some part := hpart
      rw [eq_of_nonEmpty hexcluded] at hproblem
      cases hproblem
  | filter hfilter =>
      obtain ⟨part, hpart, hsome⟩ := hfilter.part? (p := p) h
      rw [hfilter.isUnreadable_iff, ← filterPart_isProblem hpart, hsome]
      simp
  | colon hhead hcolon hkey =>
      have hno : ∀ key, ¬ IsFilter t key := fun key hfilter => by
        rw [hfilter.key] at hkey
        cases hkey
      refine iff_of_false (not_isUnreadable hno (Or.inl hcolon)) ?_
      rw [part?_eq (partOf_unknown hhead hcolon hkey)]
      rintro ⟨part, hsame, hproblem⟩
      cases hsame
      cases hproblem
  | plain hhead hcolon =>
      rw [part?_eq (partOf_plain hcolon (ne_hyphen hhead)), isUnreadable_of_plain hcolon,
        plainPart_isProblem]

/-- The problem of a filter names the token. -/
theorem problem_of_filterPart {token value : Text} {key : Key} {problem : Problem}
    (h : filterPart p now token key value = .ok (.problem problem)) :
    problem = .noValue token ∨ problem = .noDay token ∨ problem = .noLength token := by
  unfold filterPart at h
  split at h
  · cases h
    exact Or.inl rfl
  · cases key with
    | app => cases h
    | project => cases h
    | day bound =>
        obtain ⟨day, -, h⟩ := bind_eq_ok.mp h
        cases day with
        | none =>
            cases h
            exact Or.inr (Or.inl rfl)
        | some day => cases h
    | length bound =>
        dsimp only at h
        split at h
        · cases h
        · cases h
          exact Or.inr (Or.inr rfl)

/-- The problem of a text without a colon is that it is no length. -/
theorem problem_of_plainPart {problem : Problem} (h : plainPart p t = some (.problem problem)) :
    problem = .noLength t := by
  unfold plainPart at h
  split at h
  · split at h
    · cases h
    · cases h
      rfl
  · split at h
    · cases eq_of_nonEmpty h
    · cases h

/-- **The problem of a token names the token.** -/
theorem problem_of_partOf {problem : Problem}
    (h : partOf p now t = .ok (some (.problem problem))) :
    problem = .noValue t ∨ problem = .noDay t ∨ problem = .noLength t := by
  cases shape t with
  | excluded rest =>
      have hexcluded : nonEmpty Part.excluded rest = some (.problem problem) := Except.ok.inj h
      cases eq_of_nonEmpty hexcluded
  | @filter _ key hfilter =>
      rw [hfilter.partOf] at h
      cases hpart : filterPart p now t key (unquote (valueOf t)) with
      | error fault =>
          rw [hpart] at h
          cases h
      | ok part =>
          rw [hpart] at h
          cases h
          exact problem_of_filterPart hpart
  | colon hhead hcolon hkey =>
      rw [partOf_unknown hhead hcolon hkey] at h
      cases h
  | plain hhead hcolon =>
      rw [partOf_plain hcolon (ne_hyphen hhead)] at h
      exact Or.inr (Or.inr (problem_of_plainPart (Except.ok.inj h)))

/-! ## 5. Queries -/

/-- The problems of a query are those of its tokens, and behind them that of a quote without a
    partner. -/
theorem problems_parts (h : now.IsInner) (q : Text) : ∃ own,
    (ofParts (parts p now q)).problems =
        own ++ (if quoteCount q % 2 = 1 then [.unmatchedQuote] else []) ∧
      .unmatchedQuote ∉ own := by
  refine ⟨((tokens q).filterMap (part? p now)).filterMap Part.problem?, ?_, fun hm => ?_⟩
  · rw [ofParts_eq]
    show (parts p now q).filterMap Part.problem? = _
    rw [parts, List.filterMap_append, quoteProblem]
    congr 1
    split
    · rfl
    · rfl
  · obtain ⟨part, hpart, hproblem⟩ := List.mem_filterMap.mp hm
    obtain ⟨t, -, ht⟩ := List.mem_filterMap.mp hpart
    have hpart : part = .problem .unmatchedQuote := by
      cases part with
      | problem problem => rw [Option.some.inj hproblem]
      | _ => cases hproblem
    have hread := partOf_of_isInner (p := p) h t
    rw [ht, hpart] at hread
    rcases problem_of_partOf hread with h | h | h <;> cases h

/-- **A query is accepted** if its quotes are in pairs, some token contributes something and every
    token can be read. -/
theorem verdict_eq_none_iff (h : now.IsInner) (q : Text) : verdict p now q = .ok none ↔
    quoteCount q % 2 = 0 ∧ (∃ t ∈ tokens q, t ∉ silent) ∧
      ∀ t ∈ tokens q, ¬ IsUnreadable p now t := by
  have hasks : (∃ t ∈ tokens q, t ∉ silent) ↔ (tokens q).filterMap (part? p now) ≠ [] := by
    rw [ne_eq, List.filterMap_eq_nil_iff]
    simp only [not_forall, part?_eq_none_iff h, exists_prop]
  have hreads : (∀ t ∈ tokens q, ¬ IsUnreadable p now t) ↔
      ∀ part ∈ (tokens q).filterMap (part? p now), part.isProblem = false := by
    simp only [isUnreadable_iff h, List.mem_filterMap, not_exists, not_and, Bool.not_eq_true]
    exact ⟨fun hall part ⟨t, ht, hpart⟩ => hall t ht part hpart,
      fun hall t ht part hpart => hall part ⟨t, ht, hpart⟩⟩
  rw [hasks, hreads]
  unfold verdict
  split
  next hblank =>
    rw [tokens_of_isBlankText hblank]
    exact iff_of_false nofun fun hm => hm.2.1 rfl
  next hblank =>
    have hrefusal : (read p now q).map refusal? = .ok none ↔
        refusal? (ofParts (parts p now q)) = none := by
      rw [read_eq h]
      exact ⟨Except.ok.inj, congrArg Except.ok⟩
    rw [hrefusal, refusal?_eq_none_iff, parts]
    by_cases heven : quoteCount q % 2 = 0
    · rw [quoteProblem_of_even heven, List.append_nil]
      exact (and_iff_right heven).symm
    · have hodd : quoteProblem q = [.problem .unmatchedQuote] := if_pos (by omega)
      refine iff_of_false (fun hm => ?_) fun hm => heven hm.1
      have hproblem := hm.2 (.problem .unmatchedQuote)
        (List.mem_append_right _ (hodd ▸ List.mem_singleton_self _))
      cases hproblem

/-- **Queries are read part by part.** Two queries with a blank between them ask what the first one
    asks and then what the second one asks, if the quotes of the first are in pairs. Each token of
    a query is one entry of one sort, except for bare hyphens and quotes around nothing, and a quote
    without a partner is one problem more, at the end. And a query is accepted if its quotes are in
    pairs, some token contributes something and every token can be read. -/
theorem read_composes (p : Precision) {now : Moment} (h : now.IsInner) :
    (∀ q₁ q₂, quoteCount q₁ % 2 = 0 → ∃ query₁ query₂, read p now q₁ = .ok query₁ ∧
      read p now q₂ = .ok query₂ ∧
      read p now (q₁ ++ ' ' :: q₂) = .ok (query₁.append query₂)) ∧
    (∀ q, ∃ query own, read p now q = .ok query ∧
      query = ofParts ((tokens q).filterMap (part? p now) ++ quoteProblem q) ∧
      (entries query).Perm ((tokens q).filterMap (part? p now) ++ quoteProblem q) ∧
      (∀ t ∈ tokens q, partOf p now t = .ok (part? p now t) ∧
        (part? p now t = none ↔ t ∈ [['-'], ['"'], ['"', '"']])) ∧
      query.problems = own ++ (if quoteCount q % 2 = 1 then [.unmatchedQuote] else []) ∧
      .unmatchedQuote ∉ own) ∧
    ∀ q, verdict p now q = .ok none ↔ quoteCount q % 2 = 0 ∧
      (∃ t ∈ tokens q, part? p now t ≠ none) ∧ ∀ t ∈ tokens q, ¬ IsUnreadable p now t := by
  refine ⟨fun q₁ q₂ heven => ⟨_, _, read_eq h q₁, read_eq h q₂, ?_⟩, fun q => ?_, fun q => ?_⟩
  · rw [read_eq h, parts_append heven, ofParts_append]
  · obtain ⟨own, hproblems, hown⟩ := problems_parts (p := p) h q
    exact ⟨_, own, read_eq h q, rfl, perm_entries _,
      fun t _ => ⟨partOf_of_isInner h t, part?_eq_none_iff h⟩, hproblems, hown⟩
  · rw [verdict_eq_none_iff h]
    simp only [ne_eq, part?_eq_none_iff h]

/-- A query with a phrase and a filter without a value, in front of one with an exclusion, a day
    and a quote without a partner; the day is one of 1999. -/
theorem read_composes_report : (⟨730000 * Moment.dayMicros, by decide⟩ : Moment).IsInner ∧
    quoteCount "report \"two words\" app:".toList % 2 = 0 ∧
    ∃ query₁ query₂,
      read .double ⟨730000 * Moment.dayMicros, by decide⟩
        "report \"two words\" app:".toList = .ok query₁ ∧
      read .double ⟨730000 * Moment.dayMicros, by decide⟩
        "-draft - on:yesterday \"".toList = .ok query₂ ∧
      read .double ⟨730000 * Moment.dayMicros, by decide⟩
        "report \"two words\" app: -draft - on:yesterday \"".toList =
          .ok (query₁.append query₂) ∧
      (query₁.append query₂).texts = ["report".toList, "two words".toList] ∧
      (query₁.append query₂).excluded = ["draft".toList] ∧
      (query₁.append query₂).problems = [.noValue "app:".toList, .unmatchedQuote] := by
  have hinner : (⟨730000 * Moment.dayMicros, by decide⟩ : Moment).IsInner := by decide +kernel
  obtain ⟨query₁, query₂, hread₁, hread₂, hread⟩ := (read_composes .double hinner).1
    "report \"two words\" app:".toList "-draft - on:yesterday \"".toList (by decide)
  have hsorts : (read .double ⟨730000 * Moment.dayMicros, by decide⟩
      "report \"two words\" app: -draft - on:yesterday \"".toList).map
        (fun query => (query.texts, query.excluded, query.problems)) =
      .ok (["report".toList, "two words".toList], ["draft".toList],
        [.noValue "app:".toList, .unmatchedQuote]) := by decide +kernel
  have hsplit : "report \"two words\" app: -draft - on:yesterday \"".toList =
      "report \"two words\" app:".toList ++ ' ' :: "-draft - on:yesterday \"".toList := by decide
  rw [hsplit, hread] at hsorts
  rw [← hsplit] at hread
  have hsorts := Except.ok.inj hsorts
  exact ⟨hinner, by decide, query₁, query₂, hread₁, hread₂, hread,
    congrArg Prod.fst hsorts, congrArg (·.2.1) hsorts, congrArg (·.2.2) hsorts⟩

end Worklog.Query
