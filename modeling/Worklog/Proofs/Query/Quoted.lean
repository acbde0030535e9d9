import Worklog.Proofs.Query.Composed

/-!
# Quoted texts

Between quotes a blank is a character like any other, so a text in quotes is one token, and so it is
behind a hyphen or behind the key of a filter. What the token contributes is what stands between the
quotes, with one exception: a colon is looked for before the quotes are taken off, and a phrase that
holds one is text with its quotes.

* `Query.tokens_quoted`: a text in quotes is one token, whatever stands directly before it;
* `Query.partOf_quoted`, `Query.partOf_quoted_colon`: a phrase, without a colon and with one;
* `Query.partOf_key_quoted`: a filter with a value in quotes;
* **`Query.read_quoted`**: what a text in quotes asks, alone, excluded and as the value of a filter;
* `Query.read_quoted_ratio`: a phrase with a colon keeps its quotes.
-/

namespace Worklog.Query

open Text

variable {p : Precision} {now : Moment} {t : Text}

/-! ## 1. Tokens -/

/-- A text in quotes. -/
def quoted (t : Text) : Text := '"' :: t ++ ['"']

theorem quoted_ne_nil (t : Text) : quoted t ≠ [] := List.cons_ne_nil _ _

theorem scan_quoted (h : '"' ∉ t) : scan false (quoted t) = (quoted t, []) := by
  have hinside : ∀ c ∈ t, c ≠ '"' ∧ (isBlank c = false ∨ true = true) :=
    fun c hc => ⟨fun e => h (e ▸ hc), Or.inr rfl⟩
  show scan false ('"' :: (t ++ ['"'])) = _
  rw [scan_quote, Bool.not_false, scan_append hinside]
  rfl

/-- **A text in quotes is one token**, with what stands directly before it. -/
theorem tokens_quoted {x : Text} (hx : ∀ c ∈ x, c ≠ '"' ∧ isBlank c = false) (h : '"' ∉ t) :
    tokens (x ++ quoted t) = [x ++ quoted t] := by
  refine tokens_of_scan (List.append_ne_nil_of_right_ne_nil _ (quoted_ne_nil t)) ?_
  rw [scan_append fun c hc => ⟨(hx c hc).1, Or.inl (hx c hc).2⟩, scan_quoted h]

/-- Its quotes are in a pair. -/
theorem quoteCount_quoted {x : Text} (hx : ∀ c ∈ x, c ≠ '"' ∧ isBlank c = false) (h : '"' ∉ t) :
    quoteCount (x ++ quoted t) = 2 := by
  have hbefore : x.count '"' = 0 := List.count_eq_zero.mpr fun hm => (hx _ hm).1 rfl
  have hbetween : t.count '"' = 0 := List.count_eq_zero.mpr h
  show (x ++ ('"' :: (t ++ ['"']))).count '"' = 2
  rw [List.count_append, List.count_cons_self, List.count_append, hbefore, hbetween]
  rfl

/-- A query that is one token with a text in quotes asks what the token contributes. -/
theorem read_of_quoted {x : Text} (hx : ∀ c ∈ x, c ≠ '"' ∧ isBlank c = false) (h : '"' ∉ t)
    {part : Part} (hpart : partOf p now (x ++ quoted t) = .ok (some part)) :
    read p now (x ++ quoted t) = .ok (ofParts [part]) := by
  have heven : quoteCount (x ++ quoted t) % 2 = 0 := by rw [quoteCount_quoted hx h]
  unfold read
  rw [tokens_quoted hx h, quoteProblem_of_even heven]
  simp only [List.mapM_cons, List.mapM_nil, hpart]
  rfl

/-! ## 2. Phrases -/

/-- What starts with a quote is no key. -/
theorem Key.ofText?_quote (t : Text) : Key.ofText? ('"' :: t) = none := by
  have hkeys : ∀ k ∈ keys, k.1.toList.head? ≠ some '"' := by decide
  have hlower : (lower ('"' :: t)).head? = some '"' := by
    rw [lower, lowerFrom, lowerIn_of_stays (by decide)]
    rfl
  unfold Key.ofText?
  refine Option.map_eq_none_iff.mpr (List.find?_eq_none.mpr fun k hk e => hkeys k hk ?_)
  rw [eq_of_beq e, hlower]

theorem partOf_quoted (hne : t ≠ []) (hcolon : ':' ∉ t) :
    partOf p now (quoted t) = .ok (some (.text t)) := by
  have hnone : ':' ∉ quoted t := by
    unfold quoted
    simp [hcolon]
  rw [partOf_plain hnone fun _ => by unfold quoted; simp]
  show Except.ok (plainPart p ('"' :: (t ++ ['"']))) = _
  rw [plainPart_quote, ← List.cons_append, unquote_quoted, nonEmpty,
    if_neg fun e => hne (List.isEmpty_iff.mp e)]

/-- A phrase with a colon is text as it stands: what is before the colon is no key. -/
theorem partOf_quoted_colon (hcolon : ':' ∈ t) :
    partOf p now (quoted t) = .ok (some (.text (quoted t))) := by
  have hmem : ':' ∈ quoted t := List.mem_cons_of_mem _ (List.mem_append_left _ hcolon)
  refine partOf_unknown (by unfold quoted; simp) hmem ?_
  show Key.ofText? (('"' :: (t ++ ['"'])).takeWhile (· != ':')) = none
  rw [List.takeWhile_cons_of_pos (by decide)]
  exact Key.ofText?_quote _

/-! ## 3. Exclusions and filters -/

theorem partOf_hyphen_quoted (t : Text) :
    partOf p now ('-' :: quoted t) = .ok (some (.excluded (quoted t))) := rfl

/-- The names of keys are spelled without syntax, and are read as the keys. -/
theorem Key.ofText?_name : ∀ k ∈ keys, Key.ofText? k.1.toList = some k.2 ∧
    k.1.toList.head? ≠ some '-' ∧ k.1.toList ≠ [] ∧
    (k.1.toList.all fun c => decide (c ≠ ':' ∧ c ≠ '"' ∧ isBlank c = false)) = true := by
  decide +kernel

/-- **A filter with a value in quotes** asks for what is between them. -/
theorem partOf_key_quoted {name : String} {key : Key} (hname : (name, key) ∈ keys) (t : Text) :
    partOf p now (name.toList ++ ':' :: quoted t) =
      (filterPart p now (name.toList ++ ':' :: quoted t) key t).map some := by
  obtain ⟨hkey, hhead, hne, hspelled⟩ := Key.ofText?_name _ hname
  have hcolon : ':' ∉ name.toList := fun hm => (forall_mem_of_all hspelled _ hm).1 rfl
  have hstart : ∀ rest, name.toList ++ ':' :: quoted t ≠ '-' :: rest := fun rest e => by
    refine hhead ?_
    rw [← List.head?_append_of_ne_nil _ hne, e]
    rfl
  have hvalue : unquote (quoted t) = t := unquote_quoted t
  rw [partOf_colon hcolon hstart, colonPart, hkey, hvalue]

/-! ## 4. Queries -/

/-- **Quotes protect a text.** A text without quotes of its own, put in quotes, is asked for as it
    is, is avoided as it is behind a hyphen, and is the value of a filter behind its key; nothing
    else is asked for. The exception is a phrase with a colon: it is one text, but with the
    quotes. -/
theorem read_quoted (hne : t ≠ []) (hquote : '"' ∉ t) (p : Precision) (now : Moment) :
    (':' ∉ t → read p now (quoted t) = .ok { blank with texts := [t] }) ∧
    (':' ∈ t → read p now (quoted t) = .ok { blank with texts := [quoted t] }) ∧
    (∃ query, read p now ('-' :: quoted t) = .ok query ∧
      query = { blank with excluded := [quoted t] } ∧ excludedTerms query = [lower t]) ∧
    read p now ("app:".toList ++ quoted t) = .ok { blank with apps := [t] } ∧
    read p now ("project:".toList ++ quoted t) = .ok { blank with projects := [t] } := by
  have hgiven : ¬ t.isEmpty = true := fun e => hne (List.isEmpty_iff.mp e)
  have hfilter : ∀ (name : String) (key : Key) {part : Part}, (name, key) ∈ keys →
      filterPart p now (name.toList ++ ':' :: quoted t) key t = .ok part →
      read p now ((name.toList ++ [':']) ++ quoted t) = .ok (ofParts [part]) := by
    intro name key part hname hpart
    obtain ⟨-, -, -, hspelled⟩ := Key.ofText?_name _ hname
    refine read_of_quoted (fun c hc => ?_) hquote ?_
    · rcases List.mem_append.mp hc with hc | hc
      · exact (forall_mem_of_all hspelled c hc).2
      · rw [List.mem_singleton.mp hc]
        decide
    · rw [List.append_assoc, List.singleton_append, partOf_key_quoted hname, hpart]
      rfl
  refine ⟨fun hcolon => ?_, fun hcolon => ?_, ⟨_, ?_, rfl, ?_⟩, ?_, ?_⟩
  · exact read_of_quoted (x := []) (fun _ hc => absurd hc List.not_mem_nil) hquote
      (partOf_quoted hne hcolon)
  · exact read_of_quoted (x := []) (fun _ hc => absurd hc List.not_mem_nil) hquote
      (partOf_quoted_colon hcolon)
  · exact read_of_quoted (x := ['-']) (List.forall_mem_singleton.mpr (by decide)) hquote
      (partOf_hyphen_quoted t)
  · have hvalue : unquote (quoted t) = t := unquote_quoted t
    have hlower : ¬ (lower t).isEmpty = true := fun e =>
      hne (lowerFrom_eq_nil (List.isEmpty_iff.mp e))
    simp [excludedTerms, hvalue, hlower]
  · exact hfilter "app" .app (by decide) (if_neg hgiven)
  · exact hfilter "project" .project (by decide) (if_neg hgiven)

/-- A phrase of what would be an exclusion and a comparison, with a line break between them. -/
theorem read_quoted_syntax : "-draft\ndur>3h".toList ≠ [] ∧ '"' ∉ "-draft\ndur>3h".toList ∧
    ':' ∉ "-draft\ndur>3h".toList ∧
    read .double default "\"-draft\ndur>3h\"".toList =
      .ok { blank with texts := ["-draft\ndur>3h".toList] } ∧
    read .double default "app:\"-draft\ndur>3h\"".toList =
      .ok { blank with apps := ["-draft\ndur>3h".toList] } := by
  obtain ⟨hphrase, -, -, happ, -⟩ := read_quoted (t := "-draft\ndur>3h".toList) (by decide)
    (by decide) .double default
  exact ⟨by decide, by decide, by decide, hphrase (by decide), happ⟩

/-- A phrase with a colon is asked for with its quotes. -/
theorem read_quoted_ratio : "16:9".toList ≠ [] ∧ '"' ∉ "16:9".toList ∧
    (read .double default "\"16:9\"".toList).map (·.texts) = .ok ["\"16:9\"".toList] ∧
    (read .double default "\"16:9\"".toList).map (·.texts) ≠ .ok ["16:9".toList] := by
  decide +kernel

end Worklog.Query
