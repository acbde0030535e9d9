import Mathlib.Data.List.Forall2
import Worklog.Proofs.Query.Contentless
import Worklog.Proofs.Query.Layout
import Worklog.Proofs.Query.Restriction
import Worklog.Proofs.Query.Shorthand

/-!
# Queries for days

A filter for days is a key, a colon and a day. Each bound has two keys, in any letter case. A query
of such filters asks for their limits and for nothing else, and so does its normal form, in which
each filter is a word of its own:

* **`Query.Key.ofText?_day_iff`**: the keys of a bound;
* `Query.IsDayFilter`: a filter for days, and its limit;
* `Query.IsDayFilter.partOf_eq`, `Query.IsDayFilter.partOf_tidy`: what it asks, as it stands and
  tidied;
* `Query.isDayFilter_dateText`: a filter with a date that is written out;
* `Query.words_dayFilters`: the words of the normal form;
* **`Query.read_dayFilters`**: what a query of such filters asks.
-/

namespace Worklog.Query

open Worklog.Text

/-! ## 1. Keys -/

/-- The keys of the filters for days, in lower case. -/
def dayKeys : DayBound → List Text
  | .after => ["after".toList, "since".toList]
  | .before => ["before".toList, "until".toList]
  | .on => ["on".toList, "date".toList]

variable {k t : Text} {bound : DayBound} {l : DayLimit}

/-- **These are the keys of a bound**, in any letter case, and there are no others. -/
theorem Key.ofText?_day_iff : Key.ofText? k = some (.day bound) ↔ lower k ∈ dayKeys bound := by
  constructor
  · intro h
    have hkeys : ∀ entry ∈ keys, entry.2 = .day bound → entry.1.toList ∈ dayKeys bound := by
      cases bound with
      | _ => decide
    obtain ⟨entry, hfind, hbound⟩ := Option.map_eq_some_iff.mp h
    have hname : entry.1.toList = lower k :=
      eq_of_beq (List.find?_some (p := fun k' : String × Key => k'.1.toList == lower k) hfind)
    exact hname ▸ hkeys entry (List.mem_of_find?_eq_some hfind) hbound
  · have hkeys : ∀ name ∈ dayKeys bound,
        (keys.find? fun entry => entry.1.toList == name).map (·.2) = some (.day bound) := by
      cases bound with
      | _ => decide
    exact hkeys (lower k)

/-- A key holds no syntax. -/
theorem notMem_of_dayKeys (h : lower k ∈ dayKeys bound) {c : Char} (hc : c ∈ Plan.operators) :
    c ∉ k := by
  have hstays : ∀ c ∈ Plan.operators, Text.stays c = true ∧ c.toNat ≤ 0x60 :=
    forall_mem_of_all (by decide)
  have hkeys : ∀ name ∈ dayKeys bound,
      (Plan.operators.all fun c => decide (c ∉ name)) = true := by
    cases bound with
    | _ => decide
  obtain ⟨hstay, hsmall⟩ := hstays c hc
  exact fun hmem => forall_mem_of_all (hkeys (lower k) h) c hc
    ((mem_lower_iff hstay hsmall).mpr hmem)

/-! ## 2. Filters -/

/-- **A filter for days, and its limit**: a key, a colon and a text that is read as a day. There
    are no blanks and no quotes in the text. -/
inductive IsDayFilter (now : Moment) : Text → DayLimit → Prop where
  | mk {k t : Text} {bound : DayBound} {day : Moment} (hkey : lower k ∈ dayKeys bound)
      (hblank : ∀ c ∈ t, isBlank c = false) (hquote : '"' ∉ t)
      (hday : Day.read now t = .ok (some day)) : IsDayFilter now (k ++ ':' :: t) ⟨bound, day⟩

namespace IsDayFilter

variable {p : Precision} {now : Moment}

theorem colon_mem (h : IsDayFilter now t l) : ':' ∈ t := by
  cases h
  exact List.mem_append_right _ List.mem_cons_self

theorem not_isBlank (h : IsDayFilter now t l) : ∀ c ∈ t, isBlank c = false := by
  cases h with
  | @mk k t bound day hkey hblank hquote hday =>
      have hname : ∀ c ∈ k, isBlank c = false := not_isBlank_of_lower fun c hc =>
        (Key.spec (Key.ofText?_day_iff.mpr hkey) c hc).1
      intro c hc
      rcases List.mem_append.mp hc with hc | hc
      · exact hname c hc
      · rcases List.mem_cons.mp hc with rfl | hc
        · decide
        · exact hblank c hc

theorem quote_notMem (h : IsDayFilter now t l) : '"' ∉ t := by
  cases h with
  | mk hkey hblank hquote hday =>
      intro hc
      rcases List.mem_append.mp hc with hc | hc
      · exact notMem_of_dayKeys hkey (by decide) hc
      · exact hquote ((List.mem_cons.mp hc).resolve_left (by decide))

theorem ne_nil (h : IsDayFilter now t l) : t ≠ [] := List.ne_nil_of_mem h.colon_mem

theorem isToken (h : IsDayFilter now t l) : IsToken t where
  tokens := by rw [tokens_eq_words h.quote_notMem, words_of_forall h.ne_nil h.not_isBlank]
  closed := isClosed_iff.mpr (by rw [quoteCount, List.count_eq_zero.mpr h.quote_notMem]; rfl)

theorem isRestriction (h : IsDayFilter now t l) : IsRestriction t := by
  refine Or.inr ⟨h.colon_mem, Or.inl ⟨l.bound, ?_⟩⟩
  cases h with
  | mk hkey hblank hquote hday =>
      rw [keyOf?, (takeWhile_colon (notMem_of_dayKeys hkey (by decide)) _).1]
      exact Key.ofText?_day_iff.mpr hkey

/-- **A filter for days asks for its limit.** -/
theorem partOf_eq (h : IsDayFilter now t l) : partOf p now t = .ok (some (.day l)) := by
  cases h with
  | @mk k t bound day hkey hblank hquote hday =>
      have hhead : ∀ rest, k ++ ':' :: t ≠ '-' :: rest := by
        intro rest e
        cases k with
        | nil => cases e
        | cons c k =>
            obtain rfl : c = '-' := (List.cons.inj e).1
            exact notMem_of_dayKeys hkey (by decide) List.mem_cons_self
      have hunquote : unquote t = t := by
        refine unquote_of_head ?_
        rintro rest rfl
        exact hquote List.mem_cons_self
      have hsome : ¬ t.isEmpty = true := by
        intro e
        rw [List.isEmpty_iff.mp e] at hday
        cases hday
      rw [partOf_colon (notMem_of_dayKeys hkey (by decide)) hhead, colonPart,
        Key.ofText?_day_iff.mpr hkey, hunquote]
      dsimp only
      rw [filterPart, if_neg hsome, hday]
      rfl

/-- **So does it when it is tidied.** -/
theorem partOf_tidy (h : IsDayFilter now t l) : partOf p now (tidy t) = .ok (some (.day l)) :=
  (partOf_tidy_restriction h.isToken h.isRestriction h.partOf_eq fun part hpart => by
    cases hpart
    rfl).1

/-- Tidied, it is one word, with a colon in it. -/
theorem tidy_spec (h : IsDayFilter now t l) :
    words (tidy t) = [tidy t] ∧ Plan.hasOperators (tidy t) = true := by
  have hlower : tidy t = lower t := tidy_of_forall h.not_isBlank
  refine ⟨?_, List.any_eq_true.mpr ⟨':', ?_, by decide⟩⟩
  · rw [hlower, words_lower_of_word h.ne_nil h.not_isBlank]
  · rw [hlower]
    exact (mem_lower_iff (by decide) (by decide)).mpr h.colon_mem

end IsDayFilter

/-- **A filter with a date that is written out** is a filter for the day of that date. -/
theorem isDayFilter_dateText (now : Moment) (hkey : lower k ∈ dayKeys bound) {day : Moment}
    (hday : day.IsMidnight) :
    IsDayFilter now (k ++ ':' :: Moment.dateText day.date) ⟨bound, day⟩ := by
  refine ⟨hkey, fun c hc => ?_, fun hc => ?_, Day.read_dateText now hday⟩
  · rcases Day.mem_dateText hc with hdigit | rfl
    · exact not_isBlank_of_isDigit hdigit
    · decide
  · rcases Day.mem_dateText hc with hdigit | hhyphen
    · exact absurd hdigit (by decide)
    · exact absurd hhyphen (by decide)

/-! ## 3. Queries -/

/-- The query that asks for days only. -/
def ofDays (ls : List DayLimit) : Query := { blank with days := ls }

theorem ofParts_day (ls : List DayLimit) : ofParts (ls.map .day) = ofDays ls := by
  simp [ofParts_eq, ofDays, blank, List.filterMap_map, Function.comp_def, Part.text?,
    Part.excluded?, Part.app?, Part.project?, Part.day?, Part.length?, Part.problem?]

section Filters

variable {p : Precision} {now : Moment} {ts : List Text} {ls : List DayLimit}

/-- Tokens that ask for limits give the query that asks for these. -/
theorem ofParts_limits {tokens : List Text} (h : List.Forall₂
    (fun t l => partOf p now t = .ok (some (.day l))) tokens ls) :
    ofParts (tokens.filterMap (part? p now)) = ofDays ls := by
  have hparts : tokens.filterMap (part? p now) = ls.map .day := by
    induction h with
    | nil => rfl
    | cons hpart _ ih => rw [List.filterMap_cons_some (part?_eq hpart), ih, List.map_cons]
  rw [hparts, ofParts_day]

variable (h : List.Forall₂ (IsDayFilter now) ts ls) (hne : ts ≠ [])
include h

theorem exists_limit {t : Text} (ht : t ∈ ts) : ∃ l, IsDayFilter now t l := by
  induction h with
  | nil => cases ht
  | cons hl _ ih =>
      rcases List.mem_cons.mp ht with rfl | ht
      · exact ⟨_, hl⟩
      · exact ih ht

theorem tokens_dayFilters :
    tokens (joinWith [' '] ts) = ts ∧ isClosed false (joinWith [' '] ts) = true := by
  have htoken : ∀ t ∈ ts, IsToken t := by
    intro t ht
    obtain ⟨l, hl⟩ := exists_limit h ht
    exact hl.isToken
  exact ⟨tokens_joinWith htoken, isClosed_joinWith fun t ht => (htoken t ht).closed⟩

/-- All filters stay in the normal form. -/
theorem keptTokens_dayFilters : keptTokens (joinWith [' '] ts) = ts.map tidy := by
  have hkept : ∀ t ∈ ts, (!isLetterWord t) = true := by
    intro t ht
    obtain ⟨l, hl⟩ := exists_limit h ht
    rw [isLetterWord_of_isRestriction hl.isRestriction, Bool.not_false]
  unfold keptTokens
  rw [(tokens_dayFilters h).1, List.filter_eq_self.mpr hkept]

/-- **The words of the normal form** are the filters, tidied. -/
theorem words_dayFilters : words (normalize (joinWith [' '] ts)) = ts.map tidy := by
  rw [normalize_eq (tokens_dayFilters h).2, keptTokens_dayFilters h, words_joinWith]
  intro u hu
  obtain ⟨t, ht, rfl⟩ := List.mem_map.mp hu
  obtain ⟨l, hl⟩ := exists_limit h ht
  exact (mem_words (hl.tidy_spec.1 ▸ List.mem_singleton_self (tidy t))).2

include hne

/-- **A query of filters for days asks for their limits** and for nothing else. It is accepted, and
    its normal form asks the same. -/
theorem read_dayFilters : verdict p now (joinWith [' '] ts) = .ok none ∧
    read p now (normalize (joinWith [' '] ts)) = .ok (ofDays ls) := by
  obtain ⟨htokens, hclosed⟩ := tokens_dayFilters h
  have hblank : ¬ isBlankText (joinWith [' '] ts) = true := by
    intro e
    exact hne (htokens ▸ tokens_of_isBlankText e)
  have hraw : read p now (joinWith [' '] ts) = .ok (ofDays ls) := by
    have hparts : ∀ t ∈ tokens (joinWith [' '] ts), partOf p now t = .ok (part? p now t) := by
      intro t ht
      obtain ⟨l, hl⟩ := exists_limit h (htokens ▸ ht)
      rw [part?_eq hl.partOf_eq]
      exact hl.partOf_eq
    rw [read_of_parts hclosed hparts, htokens, ofParts_limits (h.imp fun _ _ hl => hl.partOf_eq)]
  have haccepted : verdict p now (joinWith [' '] ts) = .ok none := by
    unfold verdict
    rw [if_neg hblank, hraw]
    show Except.ok (refusal? (ofDays ls)) = _
    cases h with
    | nil => exact absurd rfl hne
    | cons _ _ => rfl
  refine ⟨haccepted, ?_⟩
  rw [read_normalize_ok haccepted, keptTokens_dayFilters h, ofParts_limits]
  exact List.forall₂_map_left_iff.mpr (h.imp fun _ _ hl => hl.partOf_tidy)

end Filters

end Worklog.Query
