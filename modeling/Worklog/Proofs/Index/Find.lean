import Worklog.Proofs.Index.Roster
import Worklog.Proofs.Term

/-!
# What the index finds

Texts are filed and looked up with leads: a content word emits its beginnings as terms of their own.
They change no answer. A lead is a beginning of its word, so where a lead contains a text its word
does (`Term.exists_infix_iff`), and what contains a word contains its leads.

`Record.HasWord r w` says without terms what it is to match: some content word of some text of the
record contains `w`.

* `Index.Holds.mem_lookup`: a look-up in all fields of a kind finds the records that have the word;
* **`Index.Holds.mem_find`**: a search finds the records that have all content words of the query,
  each in some field, and nothing if there are none.
-/

namespace Worklog

/-! ## 1. Leads are redundant -/

namespace Term

variable {t w : Text}

/-- **Leads match nothing that words do not match.** -/
theorem exists_infix_iff :
    (∃ term ∈ ofText t, w <:+: term) ↔ ∃ v ∈ contentWords t, w <:+: v := by
  constructor
  · intro h
    obtain ⟨term, hterm, hw⟩ := h
    obtain ⟨v, hv, hp⟩ := exists_word_of_mem hterm
    exact ⟨v, hv, hw.trans hp.isInfix⟩
  · intro h
    obtain ⟨v, hv, hw⟩ := h
    exact ⟨v, mem_ofText_of_mem hv, hw⟩

/-- What all words of a text pass, and with a word its beginnings, all terms pass. -/
theorem forall_ofText_iff {P : Text → Prop} (hP : ∀ u v, u <+: v → P v → P u) :
    (∀ term ∈ ofText t, P term) ↔ ∀ v ∈ contentWords t, P v := by
  constructor
  · exact fun h v hv => h v (mem_ofText_of_mem hv)
  · intro h term hterm
    obtain ⟨v, hv, hp⟩ := exists_word_of_mem hterm
    exact hP term v hp (h v hv)

theorem ofText_eq_nil_iff : ofText t = [] ↔ contentWords t = [] := by
  constructor
  · intro h
    refine List.eq_nil_iff_forall_not_mem.mpr fun w hw => ?_
    have := mem_ofText_of_mem hw
    rw [h] at this
    exact List.not_mem_nil this
  · intro h
    rw [ofText, h]
    rfl

end Term

/-! ## 2. Records that have a word -/

/-- Some content word of some text of the record contains the word. -/
def Record.HasWord (r : Record) (w : Text) : Prop :=
  ∃ f t, (f, .str t) ∈ r.fields ∧ ∃ v ∈ Term.contentWords t, w <:+: v

/-- Whether a content word of a value contains a text. -/
def Json.hasWord (w : Text) : Json → Bool
  | .str t => (Term.contentWords t).any w.occursIn
  | _ => false

/-- Whether a record has a word can be found out field by field. -/
theorem Record.any_hasWord_iff {r : Record} {w : Text} :
    (r.fields.any fun f => f.2.hasWord w) = true ↔ r.HasWord w := by
  rw [List.any_eq_true]
  constructor
  · intro h
    obtain ⟨⟨f, v⟩, hf, hv⟩ := h
    cases v with
    | str t =>
        obtain ⟨u, hu, hw⟩ := List.any_eq_true.mp hv
        exact ⟨f, t, hf, u, hu, Text.occursIn_iff.mp hw⟩
    | _ => cases hv
  · intro h
    obtain ⟨f, t, hf, u, hu, hw⟩ := h
    exact ⟨(f, .str t), hf, List.any_eq_true.mpr ⟨u, hu, Text.occursIn_iff.mpr hw⟩⟩

instance (r : Record) (w : Text) : Decidable (r.HasWord w) :=
  decidable_of_iff _ Record.any_hasWord_iff

theorem Record.HasWord.of_prefix {r : Record} {u v : Text} (huv : u <+: v) (h : r.HasWord v) :
    r.HasWord u := by
  obtain ⟨f, t, hf, x, hx, hi⟩ := h
  exact ⟨f, t, hf, x, hx, huv.isInfix.trans hi⟩

/-- A record has a word if it is filed under a term that contains it. -/
theorem Record.hasWord_iff {r : Record} (h : r.HasTexts) {w : Text} :
    r.HasWord w ↔ ∃ f term, (f, term) ∈ r.filing.terms ∧ w <:+: term := by
  constructor
  · intro hx
    obtain ⟨f, t, hf, hv⟩ := hx
    obtain ⟨term, hterm, hw⟩ := Term.exists_infix_iff.mpr hv
    exact ⟨f, term, (filing_terms h).mpr ⟨t, hf, hterm⟩, hw⟩
  · intro hx
    obtain ⟨f, term, hm, hw⟩ := hx
    obtain ⟨t, hf, hterm⟩ := (filing_terms h).mp hm
    exact ⟨f, t, hf, Term.exists_infix_iff.mp ⟨term, hterm, hw⟩⟩

/-! ## 3. Look-ups -/

namespace Index

/-- Several terms are looked up one by one. -/
theorem mem_lookupAll {i : Index} {kind : RecordKind} {id : Text} : ∀ {terms : List Text},
    id ∈ i.lookupAll kind terms ↔ terms ≠ [] ∧ ∀ term ∈ terms, id ∈ i.lookup kind term
  | [] => by simp [lookupAll]
  | [term] => by simp [lookupAll]
  | term :: u :: more => by
      have e : i.lookupAll kind (term :: u :: more) =
          (i.lookup kind term).filter (i.lookupAll kind (u :: more)).contains := rfl
      rw [e, List.mem_filter, List.contains_iff_mem, mem_lookupAll]
      simp
  termination_by terms => terms.length

theorem nodup_lookup (i : Index) (kind : RecordKind) (term : Text) :
    (i.lookup kind term).Nodup :=
  nodup_eraseDups _

theorem nodup_lookupAll (i : Index) (kind : RecordKind) : ∀ terms : List Text,
    (i.lookupAll kind terms).Nodup
  | [] => List.nodup_nil
  | [term] => i.nodup_lookup kind term
  | term :: _ :: _ => (i.nodup_lookup kind term).filter _

theorem nodup_find (i : Index) (kind : RecordKind) (q : Text) : (i.find kind q).Nodup :=
  i.nodup_lookupAll kind _

namespace Holds

variable {i : Index} {live : List Record} {kind : RecordKind} {id w q : Text}

/-- **A look-up finds the records that have the word.** -/
theorem mem_lookup (h : i.Holds live) :
    id ∈ i.lookup kind w ↔ ∃ r ∈ live, r.key = (kind, id) ∧ r.HasWord w := by
  simp only [Index.lookup, List.mem_eraseDups, List.mem_flatMap, (h.postings _).mem_lookup]
  constructor
  · intro hx
    obtain ⟨f, hf, term, ⟨r, hr, hid, hm⟩, hw⟩ := hx
    have hk : r.kind = kind :=
      (Record.kind_of_mem_filing (h.texts r hr) hm).symm.trans (Field.mem_fields_iff.mp hf)
    exact ⟨r, hr, Prod.ext hk hid, (Record.hasWord_iff (h.texts r hr)).mpr ⟨f, term, hm, hw⟩⟩
  · intro hx
    obtain ⟨r, hr, hkey, hw⟩ := hx
    obtain ⟨f, term, hm, hw⟩ := (Record.hasWord_iff (h.texts r hr)).mp hw
    have hk : f.kind = kind :=
      (Record.kind_of_mem_filing (h.texts r hr) hm).trans (congrArg Prod.fst hkey)
    exact ⟨f, Field.mem_fields_iff.mpr hk, term, ⟨r, hr, congrArg Prod.snd hkey, hm⟩, hw⟩

/-- Looking up some words, at least one, finds the records that have all of them. -/
theorem mem_lookupAll (h : i.Holds live) {words : List Text} :
    id ∈ i.lookupAll kind words ↔
      words ≠ [] ∧ ∃ r ∈ live, r.key = (kind, id) ∧ ∀ w ∈ words, r.HasWord w := by
  rw [Index.mem_lookupAll]
  refine and_congr_right fun hne => ?_
  simp only [h.mem_lookup]
  constructor
  · intro hall
    obtain ⟨w, hw⟩ := List.exists_mem_of_ne_nil _ hne
    obtain ⟨r, hr, hkey, _⟩ := hall w hw
    refine ⟨r, hr, hkey, fun u hu => ?_⟩
    obtain ⟨s, hs, hskey, hsu⟩ := hall u hu
    rwa [Roster.eq_of_key_eq h.keys hs hr (hskey.trans hkey.symm)] at hsu
  · intro hrec w hw
    obtain ⟨r, hr, hkey, hall⟩ := hrec
    exact ⟨r, hr, hkey, hall w hw⟩

/-- **A search finds the records that have all content words of the query**, and nothing if there
    are none. -/
theorem mem_find (h : i.Holds live) :
    id ∈ i.find kind q ↔ Term.contentWords q ≠ [] ∧
      ∃ r ∈ live, r.key = (kind, id) ∧ ∀ w ∈ Term.contentWords q, r.HasWord w := by
  have hnil : (Term.ofText q).eraseDups = [] ↔ Term.contentWords q = [] := by
    rw [← Term.ofText_eq_nil_iff, List.eq_nil_iff_forall_not_mem, List.eq_nil_iff_forall_not_mem]
    simp only [List.mem_eraseDups]
  have hall : ∀ r : Record, (∀ term ∈ (Term.ofText q).eraseDups, r.HasWord term) ↔
      ∀ w ∈ Term.contentWords q, r.HasWord w := fun r => by
    simp only [List.mem_eraseDups]
    exact Term.forall_ofText_iff fun _ _ => Record.HasWord.of_prefix
  rw [Index.find, h.mem_lookupAll, ne_eq, hnil]
  simp only [hall]

end Holds

end Index

end Worklog
