import Worklog.Proofs.Query.Comparison
import Worklog.Proofs.Query.Normal
import Worklog.Proofs.Query.Shorthand
import Worklog.Search.Desk

/-!
# Queries without content

A query may carry nothing that a record could be compared with: no filter, and no text that is
looked for or excluded once stop words and quotes are gone (`Query.IsContentless`).

* `Query.problems_of_accepted`: an accepted query without syntax has no problems;
* **`Query.noComparison_of_accepted`**: so a comparison in its normal form is readable, and there
  is none if it asks for no length;
* **`Query.contentWords_of_isContentless`**: without content and without syntax, the normal form of
  an accepted query has no content words.
-/

namespace Worklog.Query

open Worklog.Text

/-! ## 1. Parts -/

/-- Each part is in front of its sort, with the parts behind it. -/
theorem ofParts_of_mem {part : Part} {parts : List Part} (h : part ∈ parts) :
    ∃ before behind, ofParts parts = append before (cons part behind) := by
  obtain ⟨as, bs, rfl⟩ := List.append_of_mem h
  exact ⟨ofParts as, ofParts bs, ofParts_append as (part :: bs)⟩

theorem mem_problems_ofParts {problem : Problem} {parts : List Part}
    (h : .problem problem ∈ parts) : problem ∈ (ofParts parts).problems := by
  obtain ⟨before, behind, hparts⟩ := ofParts_of_mem h
  rw [hparts]
  exact List.mem_append_right _ List.mem_cons_self

theorem mem_lengths_ofParts {limit : LengthLimit} {parts : List Part}
    (h : .length limit ∈ parts) : limit ∈ (ofParts parts).lengths := by
  obtain ⟨before, behind, hparts⟩ := ofParts_of_mem h
  rw [hparts]
  exact List.mem_append_right _ List.mem_cons_self

/-! ## 2. Accepted queries -/

/-- **A query without content**: it has no filter, and no text of it is looked for or excluded. -/
structure IsContentless (q : Query) : Prop where
  apps : q.apps = []
  projects : q.projects = []
  days : q.days = []
  lengths : q.lengths = []
  texts : q.textTerms = []
  excluded : q.excludedTerms = []

instance (q : Query) : Decidable q.IsContentless :=
  decidable_of_iff (q.apps = [] ∧ q.projects = [] ∧ q.days = [] ∧ q.lengths = [] ∧
      q.textTerms = [] ∧ q.excludedTerms = [])
    ⟨fun ⟨ha, hp, hd, hl, ht, he⟩ => ⟨ha, hp, hd, hl, ht, he⟩,
      fun h => ⟨h.apps, h.projects, h.days, h.lengths, h.texts, h.excluded⟩⟩

section Accepted

variable {p : Precision} {now : Moment} {t : Text}

theorem tokens_of_isBlankText (h : isBlankText t = true) : tokens t = [] := by
  have hquote : '"' ∉ t := fun hm => by
    have hblank := List.all_eq_true.mp h '"' hm
    exact absurd hblank (by decide)
  rw [tokens_eq_words hquote, words_of_isBlankText h]

/-- Without syntax, nothing stops a query from being refused or accepted. -/
theorem refusal_of_noOperators (h : Plan.hasOperators t = false) (p : Precision) (now : Moment) :
    ∃ why, Desk.refusal p now t = .ok why := by
  unfold Desk.refusal verdict
  split
  · exact ⟨_, rfl⟩
  · rw [read_of_noOperators h]
    exact ⟨_, rfl⟩

/-- What an accepted query without syntax asks for can be read. -/
theorem problems_of_accepted (h : Plan.hasOperators t = false)
    (haccepted : Desk.refusal p now t = .ok none) :
    (ofParts ((words t).map (wordPart p))).problems = [] := by
  unfold Desk.refusal at haccepted
  split at haccepted
  next hblank =>
    rw [words_of_isBlankText hblank]
    rfl
  next hblank =>
    unfold verdict at haccepted
    rw [if_neg hblank, read_of_noOperators h] at haccepted
    have hnone : refusal? (ofParts ((words t).map (wordPart p))) = none :=
      Except.ok.inj haccepted
    unfold refusal? at hnone
    split at hnone
    · cases hnone
    next hproblems => exact hproblems

/-- **No word of the normal form is a comparison** if an accepted query without syntax asks for no
    length there. -/
theorem noComparison_of_accepted (h : Plan.hasOperators t = false)
    (haccepted : Desk.refusal p now t = .ok none)
    (hlengths : (ofParts ((words (normalize t)).map (wordPart p))).lengths = []) :
    ∀ w ∈ words (normalize t), comparison? w = none := by
  intro w hw
  refine Option.eq_none_iff_forall_not_mem.mpr fun c hc => ?_
  obtain ⟨bound, v⟩ := c
  have hkept := hw
  rw [words_normalize h] at hkept
  obtain ⟨x, hx, rfl⟩ := List.mem_map.mp (List.mem_filter.mp hkept).1
  have hblank := (mem_words hx).2.2
  obtain ⟨inWord, v', hraw, hsuffix, rfl⟩ := comparison?_lower hblank hc
  rcases wordPart_of_some (p := p) hraw with ⟨s, hparse, -⟩ | ⟨-, hproblem⟩
  · -- The value can be read in lower case too, so that the word asks for a length.
    obtain ⟨hlower, hparse⟩ := Duration.parse_lowerFrom
      (fun c hc => hblank c (hsuffix.subset hc)) hparse inWord
    have hpart : wordPart p (lower x) = .length ⟨bound, .ofRat s⟩ := by
      rw [wordPart, show comparison? (lower x) = some (bound, lowerFrom inWord v') from hc, hlower]
      simp only [hparse]
    have hmem := mem_lengths_ofParts (List.mem_map.mpr ⟨_, hw, hpart⟩)
    rw [hlengths] at hmem
    cases hmem
  · have hmem := mem_problems_ofParts (List.mem_map.mpr ⟨x, hx, hproblem⟩)
    rw [problems_of_accepted h haccepted] at hmem
    cases hmem

/-! ## 3. Content -/

/-- **Without content and syntax there are no content words** in the normal form of an accepted
    query. -/
theorem contentWords_of_isContentless (h : Plan.hasOperators t = false)
    (haccepted : Desk.refusal p now t = .ok none) {query : Query}
    (hread : read p now (normalize t) = .ok query) (hquery : query.IsContentless) :
    Term.contentWords (normalize t) = [] := by
  have hnormal : Plan.hasOperators (normalize t) = false := (hasOperators_normalize t).trans h
  rw [read_of_noOperators hnormal] at hread
  obtain rfl := Except.ok.inj hread
  have hnone := noComparison_of_accepted h haccepted hquery.lengths
  have htexts : (ofParts ((words (normalize t)).map (wordPart p))).texts = words (normalize t) := by
    rw [(ofParts_words p (words (normalize t))).2.1]
    exact List.filter_eq_self.mpr fun w hw => by rw [hnone w hw]; rfl
  have hlower : ∀ {w : Text}, (∀ c ∈ w, c ∈ normalize t) → lower w = w := fun hw =>
    lower_of_stays fun c hc => stays_of_mem_normalize (hw c hc)
  unfold Term.contentWords
  rw [hlower fun _ hc => hc]
  refine List.filter_eq_nil_iff.mpr fun w hw hcontent => ?_
  have hsought : isSought w = true := by
    rw [isSought, hcontent, Bool.or_true]
  have hmem : w ∈ (ofParts ((words (normalize t)).map (wordPart p))).textTerms := by
    refine List.mem_filter.mpr ⟨List.mem_map.mpr ⟨w, by rw [htexts]; exact hw, ?_⟩, hsought⟩
    exact hlower fun _ hc => (mem_words hw).1.subset hc
  rw [hquery.texts] at hmem
  cases hmem

end Accepted

end Worklog.Query
