import Worklog.Proofs.Text.Casing
import Worklog.Term

/-!
# Terms, looked up again

A term of a text is a content word of it or a lead of one. Both are words in lower case with two
characters at least, and what a term gives when it is taken for a text is among the terms of the
text: the leads of a lead are leads of its word. The stop words are the exception. No content word
is one, but a lead may be, such as the first three characters of `there`, and a stop word has no
terms:

* `Term.mem_ofText_iff`: what the terms of a text are;
* **`Term.mem_leads_iff`**: the leads of a word are its beginnings of three to eight characters;
* `Term.ofText_of_word`, `Term.ofText_of_isStopWord`: a term that is no stop word has itself and its
  leads as terms, a stop word has none;
* **`Term.ofText_ofText`**: terms are in normal form, and have no terms but those of the text;
* `Term.stop_word_emitted`: a stop word that is a term.
-/

namespace Worklog.Term

open Text

variable {t u v w : Text}

/-! ## 1. Terms of a text -/

theorem mem_ofText_iff : w ∈ ofText t ↔ ∃ v ∈ contentWords t, w = v ∨ w ∈ leads v := by
  rw [ofText, List.mem_flatMap]
  exact exists_congr fun v => and_congr_right fun _ => List.mem_cons

theorem mem_ofText_of_mem (h : w ∈ contentWords t) : w ∈ ofText t :=
  mem_ofText_iff.mpr ⟨w, h, Or.inl rfl⟩

/-- A term of a text is the beginning of a content word. -/
theorem exists_word_of_mem (h : w ∈ ofText t) : ∃ v ∈ contentWords t, w <+: v := by
  obtain ⟨v, hv, rfl | hw⟩ := mem_ofText_iff.mp h
  · exact ⟨w, hv, List.prefix_rfl⟩
  · exact ⟨v, hv, prefix_of_mem_leads hw⟩

/-- **The leads of a word** of four characters or more are its beginnings of three to eight. -/
theorem mem_leads_iff : w ∈ leads v ↔
    w <+: v ∧ minLead < v.length ∧ minLead ≤ w.length ∧ w.length ≤ maxLead := by
  unfold leads
  split
  next hlong =>
    rw [List.mem_map]
    constructor
    · rintro ⟨n, hn, rfl⟩
      rw [List.mem_range'_1] at hn
      have hlength : (v.take n).length = n := List.length_take_of_le (by omega)
      exact ⟨List.take_prefix n v, hlong, by omega, by omega⟩
    · rintro ⟨hbegins, -, hleast, hmost⟩
      have hle := hbegins.length_le
      exact ⟨w.length, List.mem_range'_1.mpr (by omega), (List.prefix_iff_eq_take.mp hbegins).symm⟩
  next hshort => exact iff_of_false List.not_mem_nil fun h => hshort h.2.1

/-- The leads of a lead are leads of its word. -/
theorem mem_leads_trans (hw : w ∈ leads v) (hu : u ∈ leads w) : u ∈ leads v := by
  obtain ⟨hwv, hlong, -, -⟩ := mem_leads_iff.mp hw
  obtain ⟨huw, -, hleast, hmost⟩ := mem_leads_iff.mp hu
  exact mem_leads_iff.mpr ⟨huw.trans hwv, hlong, hleast, hmost⟩

/-! ## 2. Terms as texts -/

/-- **What is filed is in normal form**: in lower case, with two characters at least, and without
    blanks. -/
structure IsNormal (w : Text) : Prop where
  lower : lower w = w
  length : minLength ≤ w.length
  not_blank : ∀ c ∈ w, isBlank c = false

theorem isNormal_of_mem (h : w ∈ ofText t) : IsNormal w := by
  obtain ⟨v, hv, hw⟩ := mem_ofText_iff.mp h
  obtain ⟨hword, hcontent⟩ := List.mem_filter.mp hv
  obtain ⟨hwithin, -, hblank⟩ := mem_words hword
  have hbegins : w <+: v := by
    rcases hw with rfl | hw
    · exact List.prefix_rfl
    · exact prefix_of_mem_leads hw
  refine ⟨lower_of_stays fun c hc => ?_, ?_, fun c hc => hblank c (hbegins.subset hc)⟩
  · exact stays_of_mem_lower (hwithin.subset (hbegins.subset hc))
  · rcases hw with rfl | hw
    · exact of_decide_eq_true (Bool.and_eq_true _ _ ▸ hcontent).1
    · have hleast := (mem_leads_iff.mp hw).2.2.1
      exact Nat.le_trans (by decide) hleast

/-- A word in lower case has no content word but itself. -/
theorem contentWords_of_word (hlower : lower w = w) (hne : w ≠ [])
    (hblank : ∀ c ∈ w, isBlank c = false) : contentWords w = [w].filter isContent := by
  rw [contentWords, hlower, words_of_forall hne hblank]

/-- **A term that is no stop word** has itself and its leads as terms. -/
theorem ofText_of_word (h : IsNormal w) (hstop : isStopWord w = false) :
    ofText w = w :: leads w := by
  have hne : w ≠ [] := List.length_pos_iff.mp (Nat.lt_of_lt_of_le (by decide) h.length)
  have hcontent : isContent w = true := by
    rw [isContent, hstop, decide_eq_true h.length]
    rfl
  rw [ofText, contentWords_of_word h.lower hne h.not_blank, List.filter_cons_of_pos hcontent]
  exact List.append_nil _

/-! ## 3. Stop words -/

/-- Stop words are short, and spelled with characters that are no blanks and stay in lower case. -/
theorem stopWords_spec : ∀ w ∈ stopWords, w ≠ [] ∧ w.length ≤ maxLead ∧
    (w.all fun c => decide (c.toNat < 0x80 ∧ ¬ (0x41 ≤ c.toNat ∧ c.toNat ≤ 0x5A) ∧
      isBlank c = false)) = true := by
  decide +kernel

theorem isContent_of_isStopWord (hstop : isStopWord w = true) : isContent w = false := by
  rw [isContent, hstop, Bool.not_true, Bool.and_false]

/-- **A stop word has no terms.** -/
theorem ofText_of_isStopWord (hstop : isStopWord w = true) : ofText w = [] := by
  obtain ⟨hne, -, hspelled⟩ := stopWords_spec w (List.contains_iff_mem.mp hstop)
  have hchars := forall_mem_of_all hspelled
  have hlower : lower w = w :=
    lower_of_stays fun c hc => stays_of_ascii (hchars c hc).1 (hchars c hc).2.1
  rw [ofText, contentWords_of_word hlower hne fun c hc => (hchars c hc).2.2,
    List.filter_cons_of_neg (Bool.eq_false_iff.mp (isContent_of_isStopWord hstop))]
  rfl

/-- A stop word is a term of a text if a content word begins with it, and it has three characters
    at least. -/
theorem mem_ofText_of_isStopWord (hstop : isStopWord w = true) :
    w ∈ ofText t ↔ minLead ≤ w.length ∧ ∃ v ∈ contentWords t, w <+: v := by
  have hother : ∀ v ∈ contentWords t, w ≠ v := fun v hv e => by
    have hcontent := (List.mem_filter.mp hv).2
    rw [← e, isContent_of_isStopWord hstop] at hcontent
    cases hcontent
  rw [mem_ofText_iff]
  constructor
  · rintro ⟨v, hv, hw⟩
    obtain ⟨hbegins, -, hleast, -⟩ := mem_leads_iff.mp (hw.resolve_left (hother v hv))
    exact ⟨hleast, v, hv, hbegins⟩
  · rintro ⟨hleast, v, hv, hbegins⟩
    have hshorter : w.length < v.length :=
      Nat.lt_of_le_of_ne hbegins.length_le fun e => hother v hv (hbegins.eq_of_length e)
    exact ⟨v, hv, Or.inr (mem_leads_iff.mpr ⟨hbegins, Nat.lt_of_le_of_lt hleast hshorter, hleast,
      (stopWords_spec w (List.contains_iff_mem.mp hstop)).2.1⟩)⟩

/-! ## 4. Terms of terms -/

/-- **Terms, looked up again.** Each term of a text is in normal form, and one that is no stop word
    has terms, of which it is the first, and all of which are terms of the text. A stop word has no
    terms, and it is a term of a text just if it has three characters at least and a content word
    of the text begins with it. -/
theorem ofText_ofText (t : Text) :
    (∀ w ∈ ofText t, Text.lower w = w ∧ 2 ≤ w.length ∧ (∀ c ∈ w, isBlank c = false) ∧
      (isStopWord w = false →
        (∃ rest, ofText w = w :: rest) ∧ ∀ u ∈ ofText w, u ∈ ofText t)) ∧
    ∀ w, isStopWord w = true →
      ofText w = [] ∧ (w ∈ ofText t ↔ 3 ≤ w.length ∧ ∃ v ∈ contentWords t, w <+: v) := by
  refine ⟨fun w hw => ?_, fun w hstop =>
    ⟨ofText_of_isStopWord hstop, mem_ofText_of_isStopWord hstop⟩⟩
  have hnormal := isNormal_of_mem hw
  refine ⟨hnormal.lower, hnormal.length, hnormal.not_blank, fun hstop => ?_⟩
  have hterms := ofText_of_word hnormal hstop
  refine ⟨⟨_, hterms⟩, fun u hu => ?_⟩
  rw [hterms] at hu
  rcases List.mem_cons.mp hu with rfl | hu
  · exact hw
  · obtain ⟨v, hv, rfl | hlead⟩ := mem_ofText_iff.mp hw
    · exact mem_ofText_iff.mpr ⟨w, hv, Or.inr hu⟩
    · exact mem_ofText_iff.mpr ⟨v, hv, Or.inr (mem_leads_trans hlead hu)⟩

/-- A lead that has terms, and a shorter one of the same word that is a stop word. -/
theorem ofText_ofText_lead : "theor".toList ∈ ofText "Another Theorem".toList ∧
    isStopWord "theor".toList = false ∧
    (∀ u ∈ ofText "theor".toList, u ∈ ofText "Another Theorem".toList) ∧
    isStopWord "the".toList = true ∧ "the".toList ∈ ofText "Another Theorem".toList := by
  obtain ⟨hterms, hstop⟩ := ofText_ofText "Another Theorem".toList
  have hlead : "theor".toList ∈ ofText "Another Theorem".toList := by decide +kernel
  have hword : "theorem".toList ∈ contentWords "Another Theorem".toList := by decide +kernel
  exact ⟨hlead, by decide, ((hterms _ hlead).2.2.2 (by decide)).2, by decide,
    (hstop _ (by decide)).2.mpr ⟨by decide, _, hword, by decide⟩⟩

/-- A stop word that is a term, and has no terms. -/
theorem stop_word_emitted : "the".toList ∈ ofText "there".toList ∧
    isStopWord "the".toList = true ∧ ofText "the".toList = [] := by
  decide +kernel

end Worklog.Term
