import Worklog.Proofs.Fault
import Worklog.Proofs.Index.Find

/-!
# An index with flawed records

A record with a field that should be a text and is none is filed up to that field, and the index
goes on with what it has. It stays in order all the same: whatever is filed under a term is listed
in a filing, so that it can be found, and be taken out again.

* `Index.terms_contribution`: of a flawed record, too, only terms of its own fields are filed;
* `Index.InOrder`: each identifier is filed under just those terms that its filing lists;
* `Index.InOrder.remove`, `add`, `build`: **an index stays in order**, whatever is filed;
* `Index.InOrder.mem_find`: what an index in order finds is a matter of the filings;
* `Index.get?_filings_remove`, `get?_filings_add`: a record that is filed, flawed or not, takes the
  place of its earlier version, and the filings of all other records stay as they are.
-/

namespace Worklog.Index

/-! ## 1. Contributions -/

/-- A name is no term. -/
theorem terms_withName {F G : Filing} {field : Field × Json} (h : withName F field = .ok G) :
    G.terms = F.terms := by
  unfold withName at h
  split at h
  · obtain ⟨label, -, h⟩ := bind_eq_ok.mp h
    cases h
    rfl
  · obtain ⟨label, -, h⟩ := bind_eq_ok.mp h
    cases h
    rfl
  · cases h
    rfl
  · cases h
    rfl

/-- The terms of a field are filed under it. -/
theorem fst_of_mem_termsOf {field : Field × Json} {terms : List (Field × Text)}
    (h : termsOf field = .ok terms) : ∀ e ∈ terms, e.1 = field.1 := fun e he => by
  obtain ⟨t, -, h⟩ := bind_eq_ok.mp h
  cases h
  obtain ⟨u, -, rfl⟩ := List.mem_map.mp he
  rfl

/-- **Each term that is gathered is a term of one of the fields**, whether or not there is a flaw
    among them. -/
theorem terms_gather : ∀ (fields : List (Field × Json)) (F : Filing),
    ∀ e ∈ (gather F fields).1.terms, e ∈ F.terms ∨ e.1 ∈ fields.map (·.1)
  | [], _, _, he => Or.inl he
  | field :: rest, F, e, he => by
      unfold gather at he
      rw [List.map_cons, List.mem_cons]
      split at he
      · exact Or.inl he
      next terms hterms =>
        have hfirst : e ∈ F.terms ++ terms → e ∈ F.terms ∨ e.1 = field.1 := fun h =>
          (List.mem_append.mp h).imp_right (fst_of_mem_termsOf hterms e)
        dsimp only at he
        split at he
        · exact (hfirst he).imp_right Or.inl
        next G hG =>
          rcases terms_gather rest G e he with he | he
          · rw [terms_withName hG] at he
            exact (hfirst he).imp_right Or.inl
          · exact Or.inr (Or.inr he)

/-- **A record is filed in fields of its kind only**, flawed or not. -/
theorem terms_contribution (r : Record) : ∀ e ∈ (contribution r).1.terms, e.1.kind = r.kind :=
  fun e he => by
    have hfield := (terms_gather r.fields _ e he).resolve_left List.not_mem_nil
    rw [r.map_fst_fields] at hfield
    exact Field.mem_fields_iff.mp hfield

theorem terms_noted (c : Filing × Option Fault) : (noted c).terms = c.1.terms := by
  obtain ⟨F, flaw⟩ := c
  cases flaw with
  | none => rfl
  | some f => rfl

/-! ## 2. Order -/

/-- **An index is in order**: its filings list terms of the right fields, and each identifier is
    filed under just those terms that its filing lists. -/
structure InOrder (i : Index) : Prop where
  kinds : ∀ key F, i.filings.get? key = some F → ∀ e ∈ F.terms, e.1.kind = key.1
  postings : ∀ f, (i.field f).Holds
    fun term id => ∃ F, i.filings.get? (f.kind, id) = some F ∧ (f, term) ∈ F.terms

namespace InOrder

variable {i j : Index} {kind : RecordKind} {id q : Text}

/-- Only filings and postings matter. -/
theorem congr (h : i.InOrder) (hf : j.filings = i.filings) (hp : j.postings = i.postings) :
    j.InOrder where
  kinds := hf ▸ h.kinds
  postings f := by
    unfold field
    rw [hf, hp]
    exact h.postings f

theorem empty (capacity : Int) (now : Moment) : (empty capacity now).InOrder where
  kinds _ _ h := nomatch h
  postings _ := Postings.Holds.empty.congr fun _ _ => ⟨False.elim, fun ⟨_, h, _⟩ => nomatch h⟩

/-- Taking a filing out leaves the index in order. -/
theorem unfile (h : i.InOrder) {key : RecordKind × Text} {F : Filing}
    (hF : i.filings.get? key = some F) : (i.unfile key F).InOrder := by
  have hframe := frame_dropTerms key.2 F.terms { i with filings := i.filings.erase key }
  have hfilings : (i.unfile key F).filings = i.filings.erase key := hframe.filings
  refine ⟨fun k G hG => ?_, fun f => ?_⟩
  · rw [hfilings, Table.get?_erase] at hG
    split at hG
    · cases hG
    · exact h.kinds k G hG
  · have hbefore : ∀ g, (field { i with filings := i.filings.erase key } g).Holds
        fun term id => ∃ G, i.filings.get? (g.kind, id) = some G ∧ (g, term) ∈ G.terms := h.postings
    rw [hfilings]
    refine (postings_dropTerms hbefore F.terms f).congr fun term id => ?_
    constructor
    · intro hfiled
      obtain ⟨⟨G, hG, hm⟩, hdropped⟩ := hfiled
      refine ⟨G, ?_, hm⟩
      rw [Table.get?_erase, if_neg]
      · exact hG
      · rintro rfl
        rw [hF] at hG
        cases hG
        exact hdropped ⟨rfl, hm⟩
    · intro hfiled
      obtain ⟨G, hG, hm⟩ := hfiled
      rw [Table.get?_erase] at hG
      split at hG
      · cases hG
      next hkey =>
        refine ⟨⟨G, hG, hm⟩, fun hdropped => hkey ?_⟩
        exact Prod.ext (h.kinds key F hF _ hdropped.2).symm hdropped.1.symm

/-- **Taking a record out leaves the index in order.** -/
theorem remove (h : i.InOrder) (now : Moment) (kind : RecordKind) (id : Text) :
    (i.remove now kind id).InOrder := by
  unfold Index.remove
  split
  next F hF => exact (h.unfile hF).congr rfl rfl
  next => exact h

/-- Entering a record that is not filed leaves the index in order. -/
theorem file (h : i.InOrder) {r : Record} (hr : i.filings.get? r.key = none) :
    (i.file r).1.InOrder := by
  let F := noted (contribution r)
  have hF : F.terms = (contribution r).1.terms := terms_noted _
  have hframe := frame_addTerms r.id (contribution r).1.terms
    { i with filings := i.filings.put r.key F }
  have hfilings : (i.file r).1.filings = i.filings.put r.key F := hframe.filings
  refine ⟨fun k G hG => ?_, fun f => ?_⟩
  · rw [hfilings, Table.get?_put] at hG
    split at hG
    next hkey =>
      cases hG
      rw [hF, ← hkey]
      exact terms_contribution r
    next => exact h.kinds k G hG
  · have hbefore : ∀ g, (field { i with filings := i.filings.put r.key F } g).Holds
        fun term id => ∃ G, i.filings.get? (g.kind, id) = some G ∧ (g, term) ∈ G.terms := h.postings
    rw [hfilings]
    refine (postings_addTerms hbefore (contribution r).1.terms f).congr fun term id => ?_
    constructor
    · intro hfiled
      rcases hfiled with ⟨G, hG, hm⟩ | ⟨rfl, hm⟩
      · refine ⟨G, ?_, hm⟩
        rw [Table.get?_put, if_neg]
        · exact hG
        · rintro hkey
          rw [← hkey, hr] at hG
          cases hG
      · have hkey : r.key = (f.kind, r.id) := Prod.ext (terms_contribution r _ hm).symm rfl
        exact ⟨F, by rw [Table.get?_put, if_pos hkey], hF ▸ hm⟩
    · intro hfiled
      obtain ⟨G, hG, hm⟩ := hfiled
      rw [Table.get?_put] at hG
      split at hG
      next hkey =>
        cases hG
        exact Or.inr ⟨(congrArg Prod.snd hkey).symm, hF ▸ hm⟩
      next => exact Or.inl ⟨G, hG, hm⟩

end InOrder

/-! ## 3. Filings -/

/-- **A record that is taken out** has no filing; all others keep theirs. -/
theorem get?_filings_remove (i : Index) (now : Moment) (kind : RecordKind) (id : Text)
    (key : RecordKind × Text) : (i.remove now kind id).filings.get? key =
      if (kind, id) = key then none else i.filings.get? key := by
  unfold Index.remove
  split
  next F hF =>
    have hframe := frame_dropTerms id F.terms { i with filings := i.filings.erase (kind, id) }
    have hfilings : (i.unfile (kind, id) F).filings = i.filings.erase (kind, id) := hframe.filings
    show (i.unfile (kind, id) F).filings.get? key = _
    rw [hfilings, Table.get?_erase]
  next hnone =>
    split
    next hkey => exact hkey ▸ hnone
    next => rfl

theorem get?_filings_replace (i : Index) (now : Moment) (r : Record) (key : RecordKind × Text) :
    (i.replace now r).1.filings.get? key =
      if r.key = key then some (noted (contribution r)) else i.filings.get? key := by
  have hframe := frame_addTerms r.id (contribution r).1.terms { i.remove now r.kind r.id with
    filings := (i.remove now r.kind r.id).filings.put r.key (noted (contribution r)) }
  have hfilings : (i.replace now r).1.filings =
      (i.remove now r.kind r.id).filings.put r.key (noted (contribution r)) := hframe.filings
  rw [hfilings, Table.get?_put, get?_filings_remove]
  split
  · rfl
  next hkey => exact if_neg hkey

/-- To add a record is to replace it, but for the time of the last update. -/
theorem add_eq (i : Index) (now : Moment) (r : Record) :
    (i.add now r).1.filings = (i.replace now r).1.filings ∧
      (i.add now r).1.postings = (i.replace now r).1.postings ∧
      (i.add now r).2 = (contribution r).2 := by
  have hflaw : (i.replace now r).2 = (contribution r).2 := rfl
  unfold Index.add
  rw [← hflaw]
  obtain ⟨j, flaw⟩ := i.replace now r
  cases flaw with
  | none => exact ⟨rfl, rfl, rfl⟩
  | some f => exact ⟨rfl, rfl, rfl⟩

/-- **A record that is added**, flawed or not, takes the place of its earlier version; all others
    keep their filings. -/
theorem get?_filings_add (i : Index) (now : Moment) (r : Record) (key : RecordKind × Text) :
    (i.add now r).1.filings.get? key =
      if r.key = key then some (noted (contribution r)) else i.filings.get? key := by
  rw [(i.add_eq now r).1, get?_filings_replace]

namespace InOrder

variable {i j : Index} {kind : RecordKind} {id q : Text}

theorem replace (h : i.InOrder) (now : Moment) (r : Record) : (i.replace now r).1.InOrder :=
  (h.remove now r.kind r.id).file (by rw [get?_filings_remove]; exact if_pos rfl)

/-- **Adding a record leaves the index in order**, flawed or not. -/
theorem add (h : i.InOrder) (now : Moment) (r : Record) : (i.add now r).1.InOrder := by
  obtain ⟨hfilings, hpostings, -⟩ := i.add_eq now r
  exact (h.replace now r).congr hfilings hpostings

theorem addAll (now : Moment) : ∀ (records : List Record) {i : Index}, i.InOrder →
    (i.addAll now records).1.InOrder
  | [], _, h => h.congr rfl rfl
  | r :: rest, i, h => by
      have hr := h.replace now r
      unfold Index.addAll
      generalize i.replace now r = a at hr ⊢
      obtain ⟨j, flaw⟩ := a
      cases flaw with
      | none => exact addAll now rest hr
      | some f => exact hr

/-- **An index that is built of records is in order**, also if one of them is flawed. -/
theorem build (capacity : Int) (now : Moment) (records : List Record) :
    (Index.build capacity now records).1.InOrder := addAll now records (.empty capacity now)

/-! ## 4. What is found -/

/-- A look-up finds the identifiers whose filings list a term that contains the text. -/
theorem mem_lookup (h : i.InOrder) : id ∈ i.lookup kind q ↔
    ∃ F, i.filings.get? (kind, id) = some F ∧ ∃ e ∈ F.terms, q <:+: e.2 := by
  simp only [Index.lookup, List.mem_eraseDups, List.mem_flatMap, (h.postings _).mem_lookup]
  constructor
  · intro hx
    obtain ⟨f, hf, term, ⟨F, hF, hm⟩, hq⟩ := hx
    rw [Field.mem_fields_iff.mp hf] at hF
    exact ⟨F, hF, (f, term), hm, hq⟩
  · intro hx
    obtain ⟨F, hF, ⟨f, term⟩, hm, hq⟩ := hx
    have hf : f.kind = kind := h.kinds _ F hF _ hm
    exact ⟨f, Field.mem_fields_iff.mpr hf, term, ⟨F, hf ▸ hF, hm⟩, hq⟩

/-- **A search finds the identifiers whose filings have all terms of the query.** -/
theorem mem_find (h : i.InOrder) : id ∈ i.find kind q ↔ Term.ofText q ≠ [] ∧
    ∃ F, i.filings.get? (kind, id) = some F ∧ ∀ w ∈ Term.ofText q, ∃ e ∈ F.terms, w <:+: e.2 := by
  have hnil : (Term.ofText q).eraseDups = [] ↔ Term.ofText q = [] := by
    simp only [List.eq_nil_iff_forall_not_mem, List.mem_eraseDups]
  rw [Index.find, Index.mem_lookupAll, ne_eq, hnil]
  simp only [List.mem_eraseDups, h.mem_lookup]
  refine and_congr_right fun hne => ?_
  constructor
  · intro hall
    obtain ⟨w, hw⟩ := List.exists_mem_of_ne_nil _ hne
    obtain ⟨F, hF, -⟩ := hall w hw
    refine ⟨F, hF, fun u hu => ?_⟩
    obtain ⟨G, hG, hm⟩ := hall u hu
    rw [hF] at hG
    cases hG
    exact hm
  · intro hx w hw
    obtain ⟨F, hF, hall⟩ := hx
    exact ⟨F, hF, hall w hw⟩

/-- What is found of a record is a matter of its filing. -/
theorem mem_find_congr (hi : i.InOrder) (hj : j.InOrder)
    (hsame : j.filings.get? (kind, id) = i.filings.get? (kind, id)) (q : Text) :
    id ∈ j.find kind q ↔ id ∈ i.find kind q := by
  rw [hi.mem_find, hj.mem_find, hsame]

/-- A record without a filing is not found. -/
theorem notMem_find (h : i.InOrder) (hnone : i.filings.get? (kind, id) = none) (q : Text) :
    id ∉ i.find kind q := fun hm => by
  obtain ⟨-, F, hF, -⟩ := h.mem_find.mp hm
  rw [hnone] at hF
  cases hF

end InOrder

end Worklog.Index
