import Worklog.Proofs.Query.Comparison
import Worklog.Proofs.Query.Plain

/-!
# The shorthand for a least length

A least length can be asked for by a filter, as in `mindur:30m`, or by a comparison, as in
`dur>30m`. A comparison is the one thing that carries no syntax and is no text:

* **`Query.ofParts_words`**: without syntax, a query asks for its words, and for a length for each
  comparison among them;
* `Query.normalize_of_word`: a query of one word is in normal form once it is in lower case;
* **`Query.read_shorthand`**, **`Query.read_longhand`**: the two spellings are read alike.
-/

namespace Worklog.Query

open Worklog.Text

/-! ## 1. Queries without syntax -/

theorem wordPart_of_none {p : Precision} {w : Text} (h : comparison? w = none) :
    wordPart p w = .text w := by rw [wordPart, h]

/-- A comparison contributes a length, or a problem. -/
theorem wordPart_of_some {p : Precision} {w : Text} {bound : LengthBound} {value : Text}
    (h : comparison? w = some (bound, value)) :
    (∃ s, Duration.parse p value = some s ∧ wordPart p w = .length ⟨bound, .ofRat s⟩) ∨
      Duration.parse p value = none ∧ wordPart p w = .problem (.noLength w) := by
  rw [wordPart, h]
  cases hparse : Duration.parse p value with
  | some s => exact Or.inl ⟨s, rfl, by simp only [hparse]⟩
  | none => exact Or.inr ⟨rfl, by simp only [hparse]⟩

/-- **Without syntax a query asks for its words**, and for a length for each comparison. -/
theorem ofParts_words (p : Precision) (ws : List Text) :
    ((ofParts (ws.map (wordPart p))).excluded = [] ∧ (ofParts (ws.map (wordPart p))).apps = [] ∧
      (ofParts (ws.map (wordPart p))).projects = [] ∧ (ofParts (ws.map (wordPart p))).days = []) ∧
    (ofParts (ws.map (wordPart p))).texts = ws.filter (fun w => (comparison? w).isNone) ∧
    ((ofParts (ws.map (wordPart p))).lengths = [] ∧
        (ofParts (ws.map (wordPart p))).problems = [] ↔ ∀ w ∈ ws, comparison? w = none) := by
  induction ws with
  | nil => exact ⟨⟨rfl, rfl, rfl, rfl⟩, rfl, by simp [ofParts, blank]⟩
  | cons w ws ih =>
      obtain ⟨hothers, htexts, hlengths⟩ := ih
      have hcons : ofParts ((w :: ws).map (wordPart p)) =
          cons (wordPart p w) (ofParts (ws.map (wordPart p))) := rfl
      rw [hcons]
      cases hc : comparison? w with
      | none =>
          rw [wordPart_of_none hc]
          refine ⟨hothers, ?_, ?_⟩
          · rw [List.filter_cons_of_pos (by rw [hc]; rfl), ← htexts]
            rfl
          · rw [List.forall_mem_cons]
            exact hlengths.trans (and_iff_right hc).symm
      | some c =>
          have hno : ¬ ∀ w' ∈ w :: ws, comparison? w' = none := fun h => by
            rw [h w List.mem_cons_self] at hc
            cases hc
          have hdrop : (w :: ws).filter (fun w => (comparison? w).isNone) =
              ws.filter (fun w => (comparison? w).isNone) :=
            List.filter_cons_of_neg (by rw [hc]; exact Bool.false_ne_true)
          rw [hdrop]
          rcases wordPart_of_some (p := p) hc with ⟨s, -, hpart⟩ | ⟨-, hpart⟩
          · rw [hpart]
            exact ⟨hothers, htexts, iff_of_false (fun h => List.cons_ne_nil _ _ h.1) hno⟩
          · rw [hpart]
            exact ⟨hothers, htexts, iff_of_false (fun h => List.cons_ne_nil _ _ h.2) hno⟩

/-! ## 2. Queries of one word -/

section Word

variable {x : Text}

theorem quote_notMem_lower (h : '"' ∉ x) : '"' ∉ lower x := fun hm =>
  h ((mem_lower_iff (by decide) (by decide)).mp hm)

theorem words_lower_of_word (hne : x ≠ []) (hblank : ∀ c ∈ x, isBlank c = false) :
    words (lower x) = [lower x] := by
  rw [words_lower, words_of_forall hne hblank]
  rfl

/-- **A query of one word is in normal form in lower case**, if it is kept at all. -/
theorem normalize_of_word (hne : x ≠ []) (hblank : ∀ c ∈ x, isBlank c = false) (hquote : '"' ∉ x)
    (hkeeps : keeps (lower x) = true) : normalize x = lower x := by
  have hcollapse : collapse x = lower x := by
    unfold collapse
    rw [words_lower_of_word hne hblank]
    rfl
  have htokens : tokens (lower x) = [lower x] := by
    rw [tokens_eq_words (quote_notMem_lower hquote), words_lower_of_word hne hblank]
  unfold normalize
  rw [hcollapse, htokens, List.filter_cons_of_pos hkeeps]
  rfl

end Word

/-! ## 3. The two spellings -/

/-- The comparison that asks for a least length. -/
def shorthand (v : Text) : Text := "dur>".toList ++ v

/-- The filter that does. -/
def longhand (v : Text) : Text := "mindur:".toList ++ v

theorem shorthand_ne_nil (v : Text) : shorthand v ≠ [] := List.cons_ne_nil _ _

theorem longhand_ne_nil (v : Text) : longhand v ≠ [] := List.cons_ne_nil _ _

/-- The query that asks for a least length only. -/
def leastLength (s : Rat) : Query := { blank with lengths := [⟨.above, .ofRat s⟩] }

section Length

variable {p : Precision} {v : Text} {s : Rat}

/-- A length without blanks holds no syntax. -/
theorem notMem_of_parse (hblank : ∀ c ∈ v, isBlank c = false) (h : Duration.parse p v = some s)
    {c : Char} (hc : c ∈ Plan.operators) : c ∉ v := by
  intro hv
  have hall : ∀ c ∈ Plan.operators,
      Text.stays c = true ∧ c.toNat ≤ 0x60 ∧ Duration.isPart c = false :=
    forall_mem_of_all (by decide)
  obtain ⟨hstays, hsmall, hpart⟩ := hall c hc
  have hlower : c ∈ lower v := (mem_lower_iff hstays hsmall).mpr hv
  have hparts := Duration.isPart_of_parse h
  rw [strip_of_forall hblank] at hparts
  rw [hparts c hlower] at hpart
  cases hpart

theorem not_isBlank_append {x : Text} (hx : ∀ c ∈ x, isBlank c = false)
    (hblank : ∀ c ∈ v, isBlank c = false) : ∀ c ∈ x ++ v, isBlank c = false := fun c hc =>
  (List.mem_append.mp hc).elim (hx c) (hblank c)

theorem quote_notMem_append {x : Text} (hx : '"' ∉ x) (hblank : ∀ c ∈ v, isBlank c = false)
    (h : Duration.parse p v = some s) : '"' ∉ x ++ v := fun hm =>
  (List.mem_append.mp hm).elim hx (notMem_of_parse hblank h (by decide))

theorem not_isBlank_shorthand (hblank : ∀ c ∈ v, isBlank c = false) :
    ∀ c ∈ shorthand v, isBlank c = false :=
  not_isBlank_append (forall_mem_of_all (by decide)) hblank

theorem not_isBlank_longhand (hblank : ∀ c ∈ v, isBlank c = false) :
    ∀ c ∈ longhand v, isBlank c = false := not_isBlank_append (forall_mem_of_all (by decide)) hblank

theorem noOperators_shorthand (hblank : ∀ c ∈ v, isBlank c = false)
    (h : Duration.parse p v = some s) : Plan.hasOperators (shorthand v) = false := by
  refine List.any_eq_false.mpr fun c hc hop => ?_
  have hmem : c ∈ Plan.operators := List.contains_iff_mem.mp hop
  rcases List.mem_append.mp hc with hc | hc
  · have hnone : ∀ c ∈ "dur>".toList, c ∉ Plan.operators := forall_mem_of_all (by decide)
    exact hnone c hc hmem
  · exact notMem_of_parse hblank h hmem hc

theorem comparison?_shorthand (hblank : ∀ c ∈ v, isBlank c = false) :
    comparison? (shorthand v) = some (.above, v) := by
  show (onlyLine? v).map (LengthBound.above, ·) = _
  rw [onlyLine?_of_forall hblank]
  rfl

/-- **A comparison is read as a least length.** -/
theorem read_shorthand (hblank : ∀ c ∈ v, isBlank c = false) (h : Duration.parse p v = some s)
    (now : Moment) : read p now (shorthand v) = .ok (leastLength s) := by
  have hwords : words (shorthand v) = [shorthand v] :=
    words_of_forall (shorthand_ne_nil v) (not_isBlank_shorthand hblank)
  rw [read_of_noOperators (noOperators_shorthand hblank h), hwords, List.map_singleton, wordPart,
    comparison?_shorthand hblank]
  simp only [h]
  rfl

/-- **So is a filter.** -/
theorem read_longhand (hblank : ∀ c ∈ v, isBlank c = false) (h : Duration.parse p v = some s)
    (now : Moment) : read p now (longhand v) = .ok (leastLength s) := by
  have hquote : '"' ∉ longhand v := quote_notMem_append (by decide) hblank h
  have hunquote : unquote v = v := by
    unfold unquote
    split
    · exact absurd List.mem_cons_self (notMem_of_parse hblank h (c := '"') (by decide))
    · rfl
  have hempty : ¬ v.isEmpty = true := fun e =>
    Duration.ne_nil_of_parse h (List.isEmpty_iff.mp e)
  have hpart : partOf p now (longhand v) = .ok (some (.length ⟨.above, .ofRat s⟩)) := by
    show (filterPart p now (longhand v) (.length .above) (unquote v)).map some = _
    rw [hunquote, filterPart, if_neg hempty]
    simp only [h]
    rfl
  have hcount : quoteCount (longhand v) = 0 := List.count_eq_zero.mpr hquote
  have hwords : words (longhand v) = [longhand v] :=
    words_of_forall (longhand_ne_nil v) (not_isBlank_longhand hblank)
  unfold read
  rw [tokens_eq_words hquote, hwords, List.mapM_cons, hpart, quoteProblem, hcount]
  rfl

/-- The normal form of a word that ends in a length is the word with the length in lower case. -/
theorem normalize_append {x : Text} (hlong : 2 ≤ x.length) (hstays : ∀ c ∈ x, Text.stays c = true)
    (hx : ∀ c ∈ x, isBlank c = false) (hquote : '"' ∉ x) (hblank : ∀ c ∈ v, isBlank c = false)
    (h : Duration.parse p v = some s) : normalize (x ++ v) = x ++ lower v := by
  have hlower : lower (x ++ v) = x ++ lower v := by
    obtain ⟨inWord, hsplit⟩ := lowerFrom_append hstays v false
    rw [lower, hsplit, (Duration.parse_lowerFrom hblank h inWord).1]
  have hkeeps : keeps (lower (x ++ v)) = true := by
    have hlength : 2 ≤ (lower (x ++ v)).length := by
      rw [hlower, List.length_append]
      omega
    rw [keeps, decide_eq_true hlength]
    rfl
  have hne : x ++ v ≠ [] := List.append_ne_nil_of_right_ne_nil x (Duration.ne_nil_of_parse h)
  rw [normalize_of_word hne (not_isBlank_append hx hblank)
    (quote_notMem_append hquote hblank h) hkeeps, hlower]

/-- The normal form of a comparison is the comparison with the length in lower case. -/
theorem normalize_shorthand (hblank : ∀ c ∈ v, isBlank c = false)
    (h : Duration.parse p v = some s) : normalize (shorthand v) = shorthand (lower v) :=
  normalize_append (by decide) (forall_mem_of_all (by decide)) (forall_mem_of_all (by decide))
    (by decide) hblank h

/-- The normal form of a filter is the filter with the length in lower case. -/
theorem normalize_longhand (hblank : ∀ c ∈ v, isBlank c = false)
    (h : Duration.parse p v = some s) : normalize (longhand v) = longhand (lower v) :=
  normalize_append (by decide) (forall_mem_of_all (by decide)) (forall_mem_of_all (by decide))
    (by decide) hblank h

/-- The lower case of a length without blanks has none either. -/
theorem not_isBlank_lower (hblank : ∀ c ∈ v, isBlank c = false)
    (h : Duration.parse p v = some s) : ∀ c ∈ lower v, isBlank c = false := by
  have hparts := Duration.isPart_of_parse h
  rw [strip_of_forall hblank] at hparts
  exact fun c hc => (Duration.isPart_spec (hparts c hc)).1

end Length

end Worklog.Query
