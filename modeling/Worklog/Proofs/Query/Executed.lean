import Mathlib.Data.List.Basic
import Worklog.Proofs.Query.Steady
import Worklog.Query.Verdict

/-!
# What is validated and what is executed

A query is validated as it stands, and its normal form is carried out. The normal form joins the
tidied tokens, and leaves out words of one character. So the two ask the same, in lower case and
with one space for each run of blanks, as long as each token is steady:

* `Query.ofParts_eq`: a query sorts the parts that its tokens contribute;
* **`Query.normalize_eq`**: the normal form joins the tidied tokens, but for words of one character;
* `Query.read_of_accepted`, `Query.parts_of_read`: each token of an accepted query can be read, and
  none is a problem;
* **`Query.read_normalize`**: an accepted query of steady tokens asks the same in its normal form;
* `Query.read_normalize_unsteady`: with a token that is not steady it need not.
-/

namespace Worklog.Query

open Worklog.Text

/-! ## 1. Parts and sorts -/

/-- The part that a token contributes, if it can be read and contributes one. -/
def part? (p : Precision) (now : Moment) (token : Text) : Option Part :=
  (partOf p now token).toOption.join

namespace Part

/-- The text that a part asks for. -/
def text? : Part → Option Text
  | .text t => some t
  | _ => none

/-- The text that a part excludes. -/
def excluded? : Part → Option Text
  | .excluded t => some t
  | _ => none

/-- The app that a part asks for. -/
def app? : Part → Option Text
  | .app t => some t
  | _ => none

/-- The project that a part asks for. -/
def project? : Part → Option Text
  | .project t => some t
  | _ => none

/-- The day limit of a part. -/
def day? : Part → Option DayLimit
  | .day l => some l
  | _ => none

/-- The length limit of a part. -/
def length? : Part → Option LengthLimit
  | .length l => some l
  | _ => none

/-- The problem of a part. -/
def problem? : Part → Option Problem
  | .problem p => some p
  | _ => none

/-- Tidying keeps the sort of a part. -/
theorem sorts_tidy (part : Part) : part.tidy.excluded? = part.excluded?.map Query.tidy ∧
    part.tidy.app? = part.app?.map Query.tidy ∧
    part.tidy.project? = part.project?.map Query.tidy ∧
    part.tidy.day? = part.day?.map id ∧ part.tidy.length? = part.length?.map id := by
  cases part with
  | _ => exact ⟨rfl, rfl, rfl, rfl, rfl⟩

end Part

/-- **A query sorts its parts.** -/
theorem ofParts_eq (parts : List Part) : ofParts parts =
    ⟨parts.filterMap Part.text?, parts.filterMap Part.excluded?, parts.filterMap Part.app?,
      parts.filterMap Part.project?, parts.filterMap Part.day?, parts.filterMap Part.length?,
      parts.filterMap Part.problem?⟩ := by
  induction parts with
  | nil => rfl
  | cons part parts ih =>
      show cons part (ofParts parts) = _
      rw [ih]
      cases part with
      | _ => rfl

/-! ## 2. Words of one character -/

/-- **A word of one character** once it is in lower case, without syntax; the normal form drops
    it. -/
def isLetterWord (t : Text) : Bool := (lower t).length == 1 && !Plan.hasOperators t

theorem length_le_lowerFrom : ∀ (t : Text) (inWord : Bool),
    t.length ≤ (lowerFrom inWord t).length
  | [], _ => Nat.le_refl 0
  | c :: t, inWord => by
      have hpos : 0 < (lowerIn inWord c t).length :=
        List.length_pos_iff.mpr (lowerIn_ne_nil inWord c t)
      have ih := length_le_lowerFrom t (if isIgnorable c then inWord else isCased c)
      rw [lowerFrom, List.length_append, List.length_cons]
      omega

/-- A tidied token is kept unless it is a word of one character. -/
theorem keeps_tidy {t : Text} (ht : IsToken t) : keeps (tidy t) = !isLetterWord t := by
  cases hoperators : Plan.hasOperators t with
  | true =>
      obtain ⟨c, hc, hop⟩ := List.any_eq_true.mp hoperators
      have hop : c ∈ Plan.operators := List.contains_iff_mem.mp hop
      have hall : ∀ c ∈ Plan.operators, isBlank c = false ∧ Text.stays c = true :=
        forall_mem_of_all (by decide)
      obtain ⟨hblank, hstays⟩ := hall c hop
      have hmem : c ∈ tidy t :=
        mem_squeezeFrom_of_mem hblank (mem_lowerFrom_of_stays hstays hc) false
      rw [keeps_of_mem hop hmem, isLetterWord, hoperators, Bool.not_true, Bool.and_false,
        Bool.not_false]
  | false =>
      have hblank := ht.not_isBlank (notMem_of_noOperators hoperators (by decide))
      have hnone : ∀ c ∈ Plan.operators, c ∉ lower t := fun c hc hm => by
        have hall : ∀ c ∈ Plan.operators, Text.stays c = true ∧ c.toNat ≤ 0x60 :=
          forall_mem_of_all (by decide)
        obtain ⟨hstays, hsmall⟩ := hall c hc
        exact notMem_of_noOperators hoperators hc ((mem_lower_iff hstays hsmall).mp hm)
      have hhead : ∀ c ∈ Plan.operators, ¬ ((lower t).head? == some c) = true := fun c hc e =>
        hnone c hc (List.mem_of_head? (eq_of_beq e))
      have hcolon : ¬ (lower t).contains ':' = true := fun e =>
        hnone ':' (by decide) (List.contains_iff_mem.mp e)
      have hlength := length_le_lowerFrom t false
      have hpos : 0 < t.length := List.length_pos_iff.mpr ht.ne_nil
      have hlower : 0 < (lower t).length := Nat.lt_of_lt_of_le hpos hlength
      rw [tidy_of_forall hblank, keeps, isLetterWord, hoperators, Bool.eq_false_iff.mpr hcolon,
        Bool.eq_false_iff.mpr (hhead '-' (by decide)),
        Bool.eq_false_iff.mpr (hhead '"' (by decide)), Bool.or_false, Bool.or_false,
        Bool.or_false, Bool.not_false, Bool.and_true, Bool.eq_iff_iff, decide_eq_true_eq,
        Bool.not_eq_true', beq_eq_false_iff_ne]
      omega

/-- A word of one character contributes itself. -/
theorem partOf_isLetterWord {p : Precision} {now : Moment} {t : Text} (h : isLetterWord t = true) :
    partOf p now t = .ok (some (.text t)) := by
  rw [isLetterWord, Bool.and_eq_true, beq_iff_eq, Bool.not_eq_true'] at h
  obtain ⟨hlength, hoperators⟩ := h
  have hle : t.length ≤ (lower t).length := length_le_lowerFrom t false
  have hnone : comparison? t = none := by
    cases t with
    | nil => rfl
    | cons c t =>
        have ht : t = [] := List.length_eq_zero_iff.mp (by rw [List.length_cons] at hle; omega)
        rw [ht]
        cases hcomparison : comparison? [c] with
        | none => rfl
        | some v =>
            obtain ⟨ws, hws, hv⟩ := comparison?_iff.mp hcomparison
            have hlong : ∀ ws ∈ openers, afterWord? ws [c] = none := by
              intro ws hws
              rcases List.mem_cons.mp hws with rfl | hws
              · show (if isLetter 'd' c then none else none) = none
                exact ite_self none
              · rw [List.mem_singleton.mp hws]
                show (if isLetter 'd' c then none else none) = none
                exact ite_self none
            rw [hlong ws hws] at hv
            cases hv
  rw [partOf_of_noOperators hoperators, wordPart, hnone]

/-! ## 3. The normal form -/

/-- The tokens that stay in the normal form, tidied. -/
def keptTokens (q : Text) : List Text := ((tokens q).filter (!isLetterWord ·)).map tidy

theorem isToken_of_mem_keptTokens {q t : Text} (h : isClosed false q = true)
    (ht : t ∈ keptTokens q) : IsToken t := by
  obtain ⟨u, hu, rfl⟩ := List.mem_map.mp ht
  exact (mem_tokens h (List.mem_filter.mp hu).1).2.tidy

/-- **The normal form joins the tidied tokens**, but for words of one character. -/
theorem normalize_eq {q : Text} (h : isClosed false q = true) :
    normalize q = joinWith [' '] (keptTokens q) := by
  have hkept : ((tokens q).map tidy).filter keeps = keptTokens q := by
    rw [List.filter_map]
    exact congrArg _ (List.filter_congr fun t ht => keeps_tidy (mem_tokens h ht).2)
  unfold normalize
  rw [tokens_collapse_eq h, hkept]

theorem tokens_normalize {q : Text} (h : isClosed false q = true) :
    tokens (normalize q) = keptTokens q := by
  rw [normalize_eq h]
  exact tokens_joinWith fun _ ht => isToken_of_mem_keptTokens h ht

theorem isClosed_normalize {q : Text} (h : isClosed false q = true) :
    isClosed false (normalize q) = true := by
  rw [normalize_eq h]
  exact isClosed_joinWith fun _ ht => (isToken_of_mem_keptTokens h ht).closed

/-! ## 4. Accepted queries -/

/-- **One query asks what another one does**, in lower case and with one space for each run of
    blanks, except for its texts. -/
structure IsTidied (query query' : Query) : Prop where
  excluded : query'.excluded = query.excluded.map tidy
  apps : query'.apps = query.apps.map tidy
  projects : query'.projects = query.projects.map tidy
  days : query'.days = query.days
  lengths : query'.lengths = query.lengths

section Accepted

variable {p : Precision} {now : Moment} {q : Text}

/-- A query whose tokens can be read asks what they contribute. -/
theorem read_of_parts (hclosed : isClosed false q = true)
    (h : ∀ t ∈ tokens q, partOf p now t = .ok (part? p now t)) :
    read p now q = .ok (ofParts ((tokens q).filterMap (part? p now))) := by
  have hcount : quoteCount q % 2 = 0 := isClosed_iff.mp hclosed
  unfold read
  rw [mapM_ok h, quoteProblem, hcount, if_neg (by decide)]
  show Except.ok (ofParts (((tokens q).map (part? p now)).filterMap id ++ [])) = _
  rw [List.filterMap_map, List.append_nil]
  rfl

/-- An accepted query can be read, and nothing in it is a problem. -/
theorem read_of_accepted (h : verdict p now q = .ok none) :
    ∃ query, read p now q = .ok query ∧ query.problems = [] ∧ query.isEmpty = false := by
  unfold verdict at h
  split at h
  · cases h
  · cases hread : read p now q with
    | error e =>
        rw [hread] at h
        cases h
    | ok query =>
        rw [hread] at h
        have hrefusal : refusal? query = none := Except.ok.inj h
        refine ⟨query, rfl, ?_⟩
        unfold refusal? at hrefusal
        split at hrefusal
        · cases hrefusal
        next hnone =>
          split at hrefusal
          · cases hrefusal
          next hasks => exact ⟨hnone, Bool.eq_false_iff.mpr hasks⟩

/-- A query without problems is closed, and each of its tokens can be read and is no problem. -/
theorem parts_of_read {query : Query} (hread : read p now q = .ok query)
    (hproblems : query.problems = []) : isClosed false q = true ∧
    ∀ t ∈ tokens q, partOf p now t = .ok (part? p now t) ∧
      ∀ part, part? p now t = some part → part.isProblem = false := by
  obtain ⟨parts, hparts, hquery⟩ := bind_eq_ok.mp hread
  cases hquery
  rw [ofParts_eq] at hproblems
  have hno : ∀ part ∈ parts.filterMap id ++ quoteProblem q, part.problem? = none :=
    List.filterMap_eq_nil_iff.mp hproblems
  constructor
  · refine isClosed_iff.mpr ?_
    by_contra hodd
    have hquote : quoteProblem q = [.problem .unmatchedQuote] :=
      if_pos (by simp only [Bool.false_eq_true, if_false] at hodd; omega)
    have hmem : Part.problem .unmatchedQuote ∈ quoteProblem q :=
      hquote ▸ List.mem_singleton_self _
    cases hno _ (List.mem_append_right _ hmem)
  · intro t ht
    obtain ⟨o, ho, hpart⟩ := exists_of_mapM hparts t ht
    have hof : part? p now t = o := by
      rw [part?, hpart]
      cases o with
      | _ => rfl
    refine ⟨by rw [hof]; exact hpart, fun part hsome => ?_⟩
    rw [hof] at hsome
    have hnone := hno part (List.mem_append_left _ (List.mem_filterMap.mpr ⟨o, ho, hsome⟩))
    cases part with
    | problem => cases hnone
    | _ => rfl

/-- Words of one character contribute nothing but texts, so the other sorts do not miss them. -/
theorem sort_tidy {α : Type} {sort : Part → Option α} {act : α → α}
    (hact : ∀ part, sort part.tidy = (sort part).map act) (htext : ∀ t, sort (.text t) = none)
    (ts : List Text) :
    (((ts.filter (!isLetterWord ·)).filterMap (part? p now)).map Part.tidy).filterMap sort =
      ((ts.filterMap (part? p now)).filterMap sort).map act := by
  have hdropped : ((ts.filter (!isLetterWord ·)).filterMap (part? p now)).filterMap sort =
      (ts.filterMap (part? p now)).filterMap sort := by
    rw [List.filterMap_filterMap, List.filterMap_filterMap, List.filterMap_filter]
    refine List.filterMap_congr fun t _ => ?_
    cases hletter : isLetterWord t with
    | false => rfl
    | true =>
        have hpart : part? p now t = some (.text t) := by
          rw [part?, partOf_isLetterWord hletter]
          rfl
        rw [hpart]
        exact (htext t).symm
  rw [List.filterMap_map, ← hdropped, List.map_filterMap]
  exact List.filterMap_congr fun part _ => hact part

/-- The text that a token asks for. -/
def textOf? (p : Precision) (now : Moment) (token : Text) : Option Text :=
  (part? p now token).bind Part.text?

/-- **What is validated is what is executed**: an accepted query with steady tokens asks in its
    normal form for what it asks for as it stands, tidied; only words of one character are
    dropped. -/
theorem read_normalize (h : verdict p now q = .ok none) (hsteady : ∀ t ∈ tokens q, IsSteady t) :
    ∃ query query', read p now q = .ok query ∧ read p now (normalize q) = .ok query' ∧
      query'.problems = [] ∧ IsTidied query query' ∧
      query.texts = (tokens q).filterMap (textOf? p now) ∧
      query'.texts =
        (((tokens q).filter (!isLetterWord ·)).filterMap (textOf? p now)).map tidy := by
  obtain ⟨_, hraw, hnone, -⟩ := read_of_accepted h
  obtain ⟨hclosed, hparts⟩ := parts_of_read hraw hnone
  have htidy : ∀ t ∈ tokens q, partOf p now (tidy t) = .ok ((part? p now t).map Part.tidy) :=
    fun t ht => partOf_tidy (mem_tokens hclosed ht).2 (hsteady t ht) (hparts t ht).1 (hparts t ht).2
  have hpart : ∀ t ∈ tokens q, part? p now (tidy t) = (part? p now t).map Part.tidy := by
    intro t ht
    rw [part?, htidy t ht]
    cases part? p now t with
    | _ => rfl
  have hread : read p now (normalize q) =
      .ok (ofParts ((((tokens q).filter (!isLetterWord ·)).filterMap (part? p now)).map
        Part.tidy)) := by
    rw [read_of_parts (isClosed_normalize hclosed) fun u hu => ?_, tokens_normalize hclosed,
      keptTokens, List.filterMap_map, List.map_filterMap]
    · exact congrArg (Except.ok ∘ ofParts)
        (List.filterMap_congr fun t ht => hpart t (List.mem_filter.mp ht).1)
    · rw [tokens_normalize hclosed] at hu
      obtain ⟨t, ht, rfl⟩ := List.mem_map.mp hu
      have ht := (List.mem_filter.mp ht).1
      rw [htidy t ht, hpart t ht]
  have hproblems : ((((tokens q).filter (!isLetterWord ·)).filterMap (part? p now)).map
      Part.tidy).filterMap Part.problem? = [] := by
    refine List.filterMap_eq_nil_iff.mpr fun part' hpart' => ?_
    obtain ⟨part, hmem, rfl⟩ := List.mem_map.mp hpart'
    obtain ⟨t, ht, hsome⟩ := List.mem_filterMap.mp hmem
    have hno := (hparts t (List.mem_filter.mp ht).1).2 part hsome
    cases part with
    | problem => cases hno
    | _ => rfl
  refine ⟨_, _, read_of_parts hclosed fun t ht => (hparts t ht).1, hread, ?_, ?_, ?_, ?_⟩
  · rw [ofParts_eq]
    exact hproblems
  · rw [ofParts_eq, ofParts_eq]
    exact ⟨sort_tidy (fun part => part.sorts_tidy.1) (fun _ => rfl) _,
      sort_tidy (fun part => part.sorts_tidy.2.1) (fun _ => rfl) _,
      sort_tidy (fun part => part.sorts_tidy.2.2.1) (fun _ => rfl) _,
      (sort_tidy (fun part => part.sorts_tidy.2.2.2.1) (fun _ => rfl) _).trans (List.map_id _),
      (sort_tidy (fun part => part.sorts_tidy.2.2.2.2) (fun _ => rfl) _).trans (List.map_id _)⟩
  · rw [ofParts_eq]
    exact List.filterMap_filterMap
  · rw [ofParts_eq]
    have htexts : ((tokens q).filter (!isLetterWord ·)).filterMap (textOf? p now) =
        (((tokens q).filter (!isLetterWord ·)).filterMap (part? p now)).filterMap Part.text? :=
      List.filterMap_filterMap.symm
    rw [htexts]
    refine List.filterMap_map.trans ?_
    rw [List.map_filterMap]
    refine List.filterMap_congr fun part _ => ?_
    cases part with
    | _ => rfl

end Accepted

/-- A query with a phrase, an exclusion, filters and a word of one character. -/
theorem read_normalize_report : ∃ query',
    read .double default (normalize "Report x \"Two  Words\" app:Editor dur>30M".toList) =
      .ok query' ∧ query'.problems = [] ∧ query'.apps = ["editor".toList] ∧
      query'.texts = ["report".toList, "two words".toList] := by
  obtain ⟨query, query', hread, hread', hproblems, htidied, -, htexts⟩ := read_normalize
    (show verdict .double default "Report x \"Two  Words\" app:Editor dur>30M".toList = .ok none
      by decide +kernel) (by decide +kernel)
  have happs : (read .double default "Report x \"Two  Words\" app:Editor dur>30M".toList).map
      (·.apps) = .ok ["Editor".toList] := by decide +kernel
  rw [hread] at happs
  have happs : query.apps = ["Editor".toList] := Except.ok.inj happs
  refine ⟨query', hread', hproblems, ?_, htexts.trans (by decide +kernel)⟩
  rw [htidied.apps, happs]
  decide +kernel

/-- A line break between quotes, a dotted capital `i` and a lone sigma: three queries that are
    accepted; carried out, the first is a problem, the second asks for no length, and the third
    for another app. -/
theorem read_normalize_unsteady :
    (verdict .double default "dur>\"a\nb\"".toList = .ok none ∧
      (read .double default (normalize "dur>\"a\nb\"".toList)).map (·.problems) =
        .ok [.noLength "dur>\"a b\"".toList]) ∧
    (verdict .double default "duratİon>30m".toList = .ok none ∧
      (read .double default "duratİon>30m".toList).map (·.lengths.length) = .ok 1 ∧
      (read .double default (normalize "duratİon>30m".toList)).map (·.lengths) = .ok []) ∧
    (verdict .double default "app:Σ".toList = .ok none ∧
      (read .double default "app:Σ".toList).map (·.apps.map tidy) = .ok ["σ".toList] ∧
      (read .double default (normalize "app:Σ".toList)).map (·.apps) = .ok ["ς".toList]) := by
  decide +kernel

end Worklog.Query
