import Worklog.Proofs.Query.Tidy

/-!
# The normal form of a normal form

The normal form collapses a query, cuts it into tokens, drops some and joins the others with spaces.
Nothing of this changes what has been through it: only the last token can have open quotes, and it
stays the last one whatever is dropped, and no token has blanks at its ends. So the kept tokens are
the tokens of the text that joins them, and that text is collapsed already:

* `Query.tokens_joinWith_of_sublist`: dropping tokens of a query leaves the others as they are;
* `Query.collapse_joinWith`: what joins tokens of a collapsed query is collapsed;
* `Query.keeps_iff`: which tokens are dropped;
* **`Query.normalize_normalize`**: the normal form is its own normal form, and its tokens are those
  that were kept.
-/

namespace Worklog.Query

open Text

variable {q : Text} {ts : List Text}

/-! ## 1. Dropped tokens -/

/-- **Dropping tokens leaves the others as they are**, whether or not the last one is open. -/
theorem tokens_joinWith_of_sublist (h : ts.Sublist (tokens q)) :
    tokens (joinWith [' '] ts) = ts :=
  tokens_joinWith_of_pairwise (fun _ ht => (tokens_of_mem (h.subset ht)).2)
    ((pairwise_tokens q).sublist h)

/-! ## 2. Collapsed texts -/

theorem rejoin_rejoin (t : Text) : rejoin (rejoin t) = rejoin t := by
  rw [rejoin, words_rejoin]
  rfl

/-- Texts that are joined words are joined words once they are joined. -/
theorem rejoin_joinWith : ∀ {ts : List Text}, (∀ t ∈ ts, t ≠ [] ∧ rejoin t = t) →
    rejoin (joinWith [' '] ts) = joinWith [' '] ts
  | [], _ => rfl
  | [t], h => (h t List.mem_cons_self).2
  | t :: u :: rest, h => by
      have hwords : ∀ {x : Text}, x ≠ [] → rejoin x = x → words x ≠ [] := fun hne hx e =>
        hne (by rw [← hx, rejoin, e]; rfl)
      have hjoined : joinWith [' '] (u :: rest) ≠ [] := by
        obtain ⟨c, hc⟩ := List.exists_mem_of_ne_nil u (h u (by simp)).1
        exact List.ne_nil_of_mem (mem_joinWith_of_mem hc List.mem_cons_self)
      have ih : rejoin (joinWith [' '] (u :: rest)) = joinWith [' '] (u :: rest) :=
        rejoin_joinWith fun v hv => h v (List.mem_cons_of_mem _ hv)
      obtain ⟨hne, ht⟩ := h t List.mem_cons_self
      have hcut : words (t ++ ' ' :: joinWith [' '] (u :: rest)) =
          words t ++ words (joinWith [' '] (u :: rest)) := words_append_blank (by decide) _ _
      rw [joinWith_cons_cons, List.append_assoc, List.singleton_append, rejoin, hcut,
        joinWith_append _ (hwords hjoined ih) (hwords hne ht), ← rejoin, ← rejoin, ht, ih,
        List.append_assoc]
      rfl

/-- A token of a collapsed query joins its words. -/
theorem rejoin_of_mem_tokens {t : Text} (h : t ∈ tokens (collapse q)) : rejoin t = t := by
  rw [tokens_collapse] at h
  obtain ⟨u, -, rfl⟩ := List.mem_map.mp h
  exact rejoin_rejoin (lower u)

/-- **What joins tokens of a collapsed query is collapsed.** -/
theorem collapse_joinWith (h : ts.Sublist (tokens (collapse q))) :
    collapse (joinWith [' '] ts) = joinWith [' '] ts := by
  have hstays : ∀ c ∈ joinWith [' '] ts, Text.stays c = true := fun c hc => by
    rcases mem_joinWith hc with hc | ⟨t, ht, hc⟩
    · exact List.mem_singleton.mp hc ▸ rfl
    · rcases mem_collapse ((tokens_of_mem (h.subset ht)).1.subset hc) with rfl | hc
      · rfl
      · exact stays_of_mem_lower hc
  rw [collapse_eq, lower_of_stays hstays]
  refine rejoin_joinWith fun t ht => ⟨fun e => ?_, rejoin_of_mem_tokens (h.subset ht)⟩
  have htokens := (tokens_of_mem (h.subset ht)).2
  rw [e] at htokens
  cases htokens

/-! ## 3. The normal form -/

/-- **Of the tokens of one character**, only those that carry syntax are kept. -/
theorem keeps_iff {t : Text} (hne : t ≠ []) :
    keeps t = true ↔ t.length ≠ 1 ∨ t ∈ [[':'], ['-'], ['"']] := by
  obtain ⟨c, rest, rfl⟩ := List.exists_cons_of_ne_nil hne
  cases rest with
  | nil => simp [keeps, or_assoc, eq_comm (a := ':')]
  | cons d rest => simp [keeps]

/-- **The normal form is a normal form**: it is its own, and its tokens are the tokens of the
    collapsed query without those of one character that carry no syntax. Whichever tokens of a
    collapsed query are dropped, the others are the tokens of what joins them, which is
    collapsed. -/
theorem normalize_normalize (q : Text) :
    normalize (normalize q) = normalize q ∧
    tokens (normalize q) = (tokens (collapse q)).filter
      (fun t => decide (t.length ≠ 1 ∨ t ∈ [[':'], ['-'], ['"']])) ∧
    ∀ ts : List Text, ts.Sublist (tokens (collapse q)) → tokens (joinWith [' '] ts) = ts ∧
      collapse (joinWith [' '] ts) = joinWith [' '] ts := by
  have hkept : ((tokens (collapse q)).filter keeps).Sublist (tokens (collapse q)) :=
    List.filter_sublist
  have htokens : tokens (normalize q) = (tokens (collapse q)).filter keeps :=
    tokens_joinWith_of_sublist hkept
  have hcollapse : collapse (normalize q) = normalize q := collapse_joinWith hkept
  refine ⟨?_, ?_, fun ts h => ⟨tokens_joinWith_of_sublist h, collapse_joinWith h⟩⟩
  · rw [normalize, hcollapse, htokens, List.filter_filter]
    simp only [Bool.and_self]
    rfl
  · rw [htokens]
    refine List.filter_congr fun t ht => ?_
    have hne : t ≠ [] := fun e => by
      have hsingle := (tokens_of_mem ht).2
      rw [e] at hsingle
      cases hsingle
    rw [Bool.eq_iff_iff, decide_eq_true_eq]
    exact keeps_iff hne

/-- A query with a quote that stays open, and what is left of it without its first token and without
    its second one. -/
theorem normalize_normalize_open :
    normalize (normalize "Report x \"Two  Words y".toList) = "report \"two words y".toList ∧
    ["report".toList, "\"two words y".toList].Sublist
      (tokens (collapse "Report x \"Two  Words y".toList)) ∧
    tokens "report \"two words y".toList = ["report".toList, "\"two words y".toList] ∧
    ["x".toList, "\"two words y".toList].Sublist
      (tokens (collapse "Report x \"Two  Words y".toList)) ∧
    tokens "x \"two words y".toList = ["x".toList, "\"two words y".toList] := by
  obtain ⟨hnormal, -, hdropped⟩ := normalize_normalize "Report x \"Two  Words y".toList
  have hform : normalize "Report x \"Two  Words y".toList = "report \"two words y".toList := by
    decide +kernel
  have hfirst : ["x".toList, "\"two words y".toList].Sublist
      (tokens (collapse "Report x \"Two  Words y".toList)) := by decide +kernel
  have hsecond : ["report".toList, "\"two words y".toList].Sublist
      (tokens (collapse "Report x \"Two  Words y".toList)) := by decide +kernel
  exact ⟨hnormal.trans hform, hsecond, (hdropped _ hsecond).1, hfirst, (hdropped _ hfirst).1⟩

end Worklog.Query
