import Worklog.Index.Basic

/-!
# What a record contributes to the index

A document may put anything into the fields of a record. `Record.HasTexts` says that the fields hold
what they are for: a text, or null where a field may be left out. Such a record has no flaw, and
what it contributes can be said without its filing:

* `Record.filing_terms`: **it is filed under the terms of the texts of its fields**;
* `Record.filing_app`, `Record.filing_project`: the names that it carries are texts.
-/

namespace Worklog

/-! ## 1. Fields -/

namespace Field

/-- The kind whose records have a field. -/
def kind : Field → RecordKind
  | .appName | .windowTitle | .url | .documentPath => .activity
  | .title | .notes => .timeEntry
  | .projectName => .project

/-- Whether a record may leave a field out. -/
def isOptional : Field → Bool
  | .windowTitle | .url | .documentPath | .notes => true
  | .appName | .title | .projectName => false

/-- Whether a value is what a field is for: a text, or null if the field may be left out. -/
def admits (f : Field) : Json → Bool
  | .str _ => true
  | .null => f.isOptional
  | _ => false

theorem mem_fields_iff {f : Field} {kind : RecordKind} : f ∈ kind.fields ↔ f.kind = kind := by
  cases kind <;> cases f <;> decide

end Field

namespace Record

/-- The key of a record: its kind and its identifier. -/
def key (r : Record) : RecordKind × Text := (r.kind, r.id)

/-- **The fields of a record hold what they are for.** -/
def HasTexts (r : Record) : Prop := ∀ f ∈ r.fields, f.1.admits f.2 = true

instance (r : Record) : Decidable r.HasTexts :=
  inferInstanceAs (Decidable (∀ f ∈ r.fields, f.1.admits f.2 = true))

/-- What a record is filed with. -/
def filing (r : Record) : Filing := (Index.contribution r).1

theorem kind_of_mem_fields {r : Record} {f : Field × Json} (h : f ∈ r.fields) :
    f.1.kind = r.kind := by
  have hm : f.1 ∈ r.fields.map (·.1) := List.mem_map_of_mem h
  rwa [r.map_fst_fields, Field.mem_fields_iff] at hm

end Record

/-! ## 2. One field after the other -/

namespace Index

variable {f : Field × Json} {F : Filing}

/-- What a field that holds what it is for adds to a filing. -/
theorem exists_gather_cons (h : f.1.admits f.2 = true) (F : Filing) (rest : List (Field × Json)) :
    ∃ G : Filing, gather F (f :: rest) = gather G rest ∧
      (∀ e, e ∈ G.terms ↔ e ∈ F.terms ∨ ∃ t, f = (e.1, .str t) ∧ e.2 ∈ Term.ofText t) ∧
      (G.app = F.app ∨ ∃ t, G.app = some (.text t)) ∧
      (G.project = F.project ∨ ∃ t, G.project = some (.text t)) := by
  obtain ⟨field, v⟩ := f
  cases v with
  | null =>
      have hopt : field.isOptional = true := h
      refine ⟨F, ?_, fun e => by simp, Or.inl rfl, Or.inl rfl⟩
      cases field <;> simp only [Field.isOptional, Bool.false_eq_true] at hopt <;>
        simp [gather, termsOf, withName, bind, Except.bind, pure, Except.pure]
  | str t =>
      have hterms : ∀ e : Field × Text, e ∈ F.terms ++ (Term.ofText t).map (field, ·) ↔
          e ∈ F.terms ∨ ∃ u, (field, Json.str t) = (e.1, .str u) ∧ e.2 ∈ Term.ofText u := by
        intro entry
        obtain ⟨g, term⟩ := entry
        simp only [List.mem_append, List.mem_map, Prod.mk.injEq, Json.str.injEq]
        refine or_congr_right ⟨?_, ?_⟩
        · intro hm
          obtain ⟨u, hu, rfl, rfl⟩ := hm
          exact ⟨t, ⟨rfl, rfl⟩, hu⟩
        · intro hm
          obtain ⟨u, ⟨rfl, rfl⟩, hu⟩ := hm
          exact ⟨term, hu, rfl, rfl⟩
      cases field <;>
        simp only [gather, termsOf, withName, Json.searchable_str, Json.label, bind, Except.bind,
          pure, Except.pure] <;>
        exact ⟨_, rfl, hterms, by simp, by simp⟩
  | _ => cases h

/-- Whether a name, if there is one, is a text. -/
def IsTextName (name : Option Label) : Prop := ∀ l, name = some l → ∃ t, l = .text t

theorem IsTextName.of_step {name more : Option Label} (h : IsTextName name)
    (hs : more = name ∨ ∃ t, more = some (.text t)) : IsTextName more := by
  rcases hs with rfl | ⟨t, rfl⟩
  · exact h
  · intro l e
    exact ⟨t, (Option.some.inj e).symm⟩

/-- **What fields contribute that hold what they are for.** -/
theorem gather_spec : ∀ (fields : List (Field × Json)) (F : Filing),
    (∀ f ∈ fields, f.1.admits f.2 = true) →
    (gather F fields).2 = none ∧
      (∀ e, e ∈ (gather F fields).1.terms ↔
        e ∈ F.terms ∨ ∃ t, (e.1, .str t) ∈ fields ∧ e.2 ∈ Term.ofText t) ∧
      (IsTextName F.app → IsTextName (gather F fields).1.app) ∧
      (IsTextName F.project → IsTextName (gather F fields).1.project)
  | [], F, _ => ⟨rfl, fun e => by simp [gather], id, id⟩
  | f :: rest, F, h => by
      obtain ⟨G, hG, hterms, happ, hproject⟩ := exists_gather_cons (h f List.mem_cons_self) F rest
      obtain ⟨hnone, hspec, ha, hp⟩ :=
        gather_spec rest G fun g hg => h g (List.mem_cons_of_mem f hg)
      rw [hG]
      refine ⟨hnone, fun e => ?_, fun hF => ha (hF.of_step happ),
        fun hF => hp (hF.of_step hproject)⟩
      rw [hspec, hterms, or_assoc]
      refine or_congr_right ⟨?_, ?_⟩
      · intro hx
        rcases hx with ⟨t, rfl, ht⟩ | ⟨t, hm, ht⟩
        · exact ⟨t, List.mem_cons_self, ht⟩
        · exact ⟨t, List.mem_cons_of_mem f hm, ht⟩
      · intro hx
        obtain ⟨t, hm, ht⟩ := hx
        rcases List.mem_cons.mp hm with e | hm
        · exact Or.inl ⟨t, e.symm, ht⟩
        · exact Or.inr ⟨t, hm, ht⟩

end Index

/-! ## 3. Records -/

namespace Record

variable {r : Record}

/-- A record whose fields hold what they are for has no flaw. -/
theorem contribution_eq (h : r.HasTexts) : Index.contribution r = (r.filing, none) :=
  Prod.ext rfl (Index.gather_spec r.fields _ h).1

/-- **A record is filed under the terms of the texts of its fields.** -/
theorem filing_terms (h : r.HasTexts) {f : Field} {term : Text} :
    (f, term) ∈ r.filing.terms ↔ ∃ t, (f, .str t) ∈ r.fields ∧ term ∈ Term.ofText t := by
  refine ((Index.gather_spec r.fields _ h).2.1 (f, term)).trans ?_
  simp

/-- A record is filed in fields of its kind only. -/
theorem kind_of_mem_filing (h : r.HasTexts) {f : Field} {term : Text}
    (hm : (f, term) ∈ r.filing.terms) : f.kind = r.kind := by
  obtain ⟨t, ht, _⟩ := (filing_terms h).mp hm
  exact kind_of_mem_fields ht

theorem filing_app (h : r.HasTexts) : Index.IsTextName r.filing.app :=
  (Index.gather_spec r.fields _ h).2.2.1 fun _ e => nomatch e

theorem filing_project (h : r.HasTexts) : Index.IsTextName r.filing.project :=
  (Index.gather_spec r.fields _ h).2.2.2 fun _ e => nomatch e

end Record

end Worklog
