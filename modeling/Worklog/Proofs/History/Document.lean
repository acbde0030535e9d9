import Worklog.History.Saved
import Worklog.Proofs.Panel.Document

/-!
# Saved searches as documents

A saved search has a document, from which it is read again, and the document can be written. This
holds as long as every part is what it is meant to be: its texts are texts, its times are local, and
its panel is as it is meant to be.

* `SavedSearch.IsTyped`: saved searches with the parts that are meant;
* **`SavedSearch.IsTyped.read_document`**: they are read as what their document was made of.
-/

namespace Worklog

namespace SavedSearch

open Json

/-- **A saved search as it is meant to be**: it has texts for its identifier, its name and its
    query, and its times are local. -/
structure IsTyped (s : SavedSearch) : Prop where
  id : ∃ t, s.id = .str t
  name : ∃ t, s.name = .str t
  query : ∃ t, s.query = .str t
  panel : s.panel.IsTyped
  created : ∃ m : Moment, s.created = m.toStamp
  lastUsed : ∀ t ∈ s.lastUsed, ∃ m : Moment, t = m.toStamp

/-- The document of a saved search whose panel has one. -/
def document (s : SavedSearch) : Json :=
  .obj [("id", s.id), ("name", s.name), ("query", s.query), ("filters", s.panel.document),
    ("created_at", .str s.created.isoText), ("last_used_at", stampJson s.lastUsed)]

variable {s : SavedSearch}

theorem IsTyped.toJson_eq (h : s.IsTyped) : s.toJson = .ok s.document := by
  unfold toJson
  rw [h.panel.isNamed.toJson_eq]
  rfl

/-- A local time is read as it was written. -/
theorem readStamp_isoText (m : Moment) : readStamp (.str m.toStamp.isoText) = .ok m.toStamp := by
  rw [m.isoText_toStamp]
  exact Stamp.read_isoText m

/-- The time of the last use is read as it was written. -/
theorem readLastUsed_stampJson {t : Option Stamp} (h : ∀ u ∈ t, ∃ m : Moment, u = m.toStamp)
    {v : Json} (hv : v.getD "last_used_at" = stampJson t) : readLastUsed v = .ok t := by
  unfold readLastUsed
  dsimp only
  rw [hv]
  cases t with
  | none => rfl
  | some u =>
      obtain ⟨m, rfl⟩ := h u rfl
      have hgiven : (stampJson (some m.toStamp)).truthy = true := by
        simp [stampJson, truthy, m.isoText_toStamp, Moment.isoText]
      have hread : readStamp (stampJson (some m.toStamp)) = .ok m.toStamp := readStamp_isoText m
      rw [if_pos hgiven, hread]
      rfl

/-- **A saved search is read** from its document. -/
theorem IsTyped.read_document (h : s.IsTyped) : SavedSearch.read s.document = .ok s := by
  obtain ⟨m, hm⟩ := h.created
  have hpanel : readPanel s.document = .ok s.panel :=
    h.panel.isNamed.read_document
  have hcreated : readStamp (.str s.created.isoText) = .ok s.created := by
    rw [hm, readStamp_isoText]
  have hused : readLastUsed s.document = .ok s.lastUsed := readLastUsed_stampJson h.lastUsed rfl
  have hid : s.document.required "id" = .ok s.id := rfl
  have hname : s.document.required "name" = .ok s.name := rfl
  have hquery : s.document.get? "query" = some s.query := rfl
  have hshown : s.document.required "created_at" = .ok (.str s.created.isoText) := rfl
  obtain ⟨members, hdocument⟩ : ∃ members, s.document = .obj members := ⟨_, rfl⟩
  unfold SavedSearch.read
  rw [hdocument]
  dsimp only
  rw [← hdocument, hid, hname, hquery, hpanel, hshown, hused]
  simp only [ok_bind, hcreated]
  rfl

theorem writable_stampJson {depth : Nat} (t : Option Stamp) : Writable depth (stampJson t) := by
  cases t with
  | none => exact .null
  | some t => exact .str t.isoText

theorem IsTyped.writable (h : s.IsTyped) {depth : Nat} (hdepth : depth + 2 < maxDepth) :
    Writable depth s.document := by
  have hlabel : ∀ {v : Json}, (∃ t, v = .str t) → Writable (depth + 1) v := fun ⟨t, ht⟩ =>
    ht ▸ .str t
  refine .obj (by omega) ?_ ?_
  · show ["id", "name", "query", "filters", "created_at", "last_used_at"].Nodup
    decide
  simp only [List.forall_mem_cons]
  exact ⟨hlabel h.id, hlabel h.name, hlabel h.query, h.panel.writable hdepth,
    .str s.created.isoText, writable_stampJson s.lastUsed, List.forall_mem_nil _⟩

/-- A saved search that was used is as it is meant to be. -/
theorem IsTyped.markUsed (h : s.IsTyped) (now : Moment) : (s.markUsed now).IsTyped :=
  { h with lastUsed := fun _ ht => ⟨now, (Option.mem_some.mp ht).symm⟩ }

end SavedSearch

end Worklog
