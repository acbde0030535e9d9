import Worklog.Panel
import Worklog.Proofs.Calendar.Offset
import Worklog.Search.Basic
import Worklog.Session.Upkeep

/-!
# Documents with other offsets

A snapshot may come from a clock in another zone, and its times then have another offset. As long as
they are the same instants nothing changes: neither the records that are read, nor the panel, nor
what a search finds in them on either path.

* `Json.SameInstant`: values that are timestamps of one instant;
* `Json.Restamps`: objects that differ in such values only, `Json.RestampsAll`: snapshots whose
  records do;
* `Record.read_congr`, `Store.read_congr`, `Panel.read_congr`: they are read alike;
* **`Search.ofDocuments_restamped`**: so a search finds the same in them.
-/

namespace Worklog

namespace Json

/-! ## 1. Values that are the same instant -/

/-- **Two values are timestamps of one instant**, whatever their offsets are. -/
def SameInstant (v w : Json) : Prop :=
  ∃ s t a b, v = .str s ∧ w = .str t ∧ Stamp.read (Moment.spellZulu s) = .ok a ∧
    Stamp.read (Moment.spellZulu t) = .ok b ∧ a.instant = b.instant

/-- Two texts of a moment are the same instant. -/
theorem sameInstant_of_isWritten {m : Moment} {s t : Text} (hs : m.IsWritten s)
    (ht : m.IsWritten t) : SameInstant (.str s) (.str t) := by
  obtain ⟨a, ha, hinstant⟩ := hs.exists_stamp
  obtain ⟨b, hb, hinstant'⟩ := ht.exists_stamp
  exact ⟨s, t, a, b, rfl, rfl, ha, hb, hinstant.trans hinstant'.symm⟩

/-- **The same instant is read as the same time.** -/
theorem SameInstant.asMoment?_eq {v w : Json} (h : SameInstant v w) :
    v.asMoment? = w.asMoment? := by
  obtain ⟨s, t, a, b, rfl, rfl, ha, hb, hinstant⟩ := h
  show (Moment.read s).map some = (Moment.read t).map some
  unfold Moment.read
  rw [ha, hb, ok_bind, ok_bind, Stamp.toMoment_congr hinstant]

/-! ## 2. Objects that differ in some members -/

/-- **Values that are the same** but for members of an object: they are as a relation says for their
    keys. -/
inductive Alike (differ : String → Json → Json → Prop) : Json → Json → Prop where
  | same (v : Json) : Alike differ v v
  | members {ms ns : List (String × Json)} (h : List.Forall₂
      (fun m n => m.1 = n.1 ∧ (m.2 = n.2 ∨ differ m.1 m.2 n.2)) ms ns) :
      Alike differ (.obj ms) (.obj ns)

section Alike

variable {differ : String → Json → Json → Prop} {v w : Json}

/-- The members under a key are both missing, or the same, or as the relation says. -/
theorem lookup_alike (key : String) {ms ns : List (String × Json)} (h : List.Forall₂
      (fun m n => m.1 = n.1 ∧ (m.2 = n.2 ∨ differ m.1 m.2 n.2)) ms ns) :
    lookup key ms = lookup key ns ∨
      ∃ a b, lookup key ms = some a ∧ lookup key ns = some b ∧ differ key a b := by
  induction h with
  | nil => exact Or.inl rfl
  | @cons m n ms ns h _ ih =>
      obtain ⟨k, a⟩ := m
      obtain ⟨l, b⟩ := n
      obtain ⟨hkeys, hvalues⟩ := h
      obtain rfl : k = l := hkeys
      unfold lookup
      by_cases hkey : k = key
      · rw [if_pos hkey, if_pos hkey]
        rcases hvalues with hsame | hdiffer
        · exact Or.inl (congrArg some hsame)
        · exact Or.inr ⟨a, b, rfl, rfl, hkey ▸ hdiffer⟩
      · rw [if_neg hkey, if_neg hkey]
        exact ih

/-- A member that has to be there is there in both, or in neither. -/
theorem Alike.required (h : Alike differ v w) (key : String) : v.required key = w.required key ∨
    ∃ a b, v.required key = .ok a ∧ w.required key = .ok b ∧ differ key a b := by
  cases h with
  | same => exact Or.inl rfl
  | members h =>
      unfold Json.required
      dsimp only
      rcases lookup_alike key h with heq | ⟨a, b, ha, hb, hdiffer⟩
      · rw [heq]
        exact Or.inl rfl
      · rw [ha, hb]
        exact Or.inr ⟨a, b, rfl, rfl, hdiffer⟩

theorem Alike.getD (h : Alike differ v w) (key : String) :
    v.getD key = w.getD key ∨ differ key (v.getD key) (w.getD key) := by
  cases h with
  | same => exact Or.inl rfl
  | members h =>
      unfold Json.getD Json.get?
      dsimp only
      rcases lookup_alike key h with heq | ⟨a, b, ha, hb, hdiffer⟩
      · rw [heq]
        exact Or.inl rfl
      · rw [ha, hb]
        exact Or.inr hdiffer

end Alike

/-! ## 3. Objects with the same instants -/

/-- **Objects that differ only in how instants are written** under some keys. -/
abbrev Restamps (keys : List String) : Json → Json → Prop :=
  Alike fun key v w => key ∈ keys ∧ SameInstant v w

namespace Restamps

variable {keys : List String} {v w : Json} (h : Restamps keys v w)
include h

theorem required_eq {key : String} (hkey : key ∉ keys) : v.required key = w.required key :=
  (Alike.required h key).resolve_right fun ⟨_, _, _, _, hmem, _⟩ => hkey hmem

theorem getD_eq {key : String} (hkey : key ∉ keys) : v.getD key = w.getD key :=
  (Alike.getD h key).resolve_right fun ⟨hmem, _⟩ => hkey hmem

/-- A time that has to be there is read alike, and what follows sees no difference. -/
theorem required_asMoment? (key : String) {α : Type} (rest : Option Moment → Except Fault α) :
    (v.required key >>= fun time => time.asMoment? >>= rest) =
      w.required key >>= fun time => time.asMoment? >>= rest := by
  rcases Alike.required h key with heq | ⟨a, b, ha, hb, -, hinstant⟩
  · rw [heq]
  · rw [ha, hb, ok_bind, ok_bind, hinstant.asMoment?_eq]

/-- A time that may be missing is read alike. -/
theorem getD_asMoment? (key : String) : (v.getD key).asMoment? = (w.getD key).asMoment? := by
  rcases Alike.getD h key with heq | ⟨-, hinstant⟩
  · rw [heq]
  · exact hinstant.asMoment?_eq

end Restamps

end Json

/-- Lists of values that are read alike are. -/
theorem mapM_congr {α β γ : Type} {R : α → β → Prop} {f : α → Except Fault γ}
    {g : β → Except Fault γ} (hR : ∀ a b, R a b → f a = g b) : ∀ {as : List α} {bs : List β},
    List.Forall₂ R as bs → as.mapM f = bs.mapM g
  | [], [], .nil => rfl
  | a :: as, b :: bs, .cons h hrest => by
      rw [List.mapM_cons, List.mapM_cons, hR a b h, mapM_congr hR hrest]

/-! ## 4. Records -/

/-- The keys of a record under which its times stand. -/
def Record.timeKeys : List String := ["start_time", "end_time"]

section Records

variable {v w : Json} (h : v.Restamps Record.timeKeys w)
include h

theorem Activity.read_congr : Activity.read v = Activity.read w := by
  unfold Activity.read
  simp only [h.required_asMoment?, h.getD_asMoment?, h.required_eq (by decide : "id" ∉ _),
    h.required_eq (by decide : "app_name" ∉ _), h.getD_eq (by decide : "window_title" ∉ _),
    h.getD_eq (by decide : "url" ∉ _), h.getD_eq (by decide : "document_path" ∉ _),
    h.getD_eq (by decide : "is_idle_time" ∉ _)]

theorem TimeEntry.read_congr : TimeEntry.read v = TimeEntry.read w := by
  unfold TimeEntry.read
  simp only [h.required_asMoment?, h.required_eq (by decide : "id" ∉ _),
    h.required_eq (by decide : "title" ∉ _), h.getD_eq (by decide : "notes" ∉ _),
    h.getD_eq (by decide : "project_id" ∉ _)]

theorem Project.read_congr : Project.read v = Project.read w := by
  unfold Project.read
  rw [h.required_eq (by decide : "id" ∉ _), h.required_eq (by decide : "name" ∉ _),
    h.getD_eq (by decide : "parent_id" ∉ _)]

end Records

/-! ## 5. Snapshots and panels -/

/-- Lists of records that differ only in how the instants of their times are written. -/
def Json.ListsRestamped (_ : String) (v w : Json) : Prop :=
  ∃ as bs, v = .arr as ∧ w = .arr bs ∧ List.Forall₂ (Json.Restamps Record.timeKeys) as bs

/-- **Snapshots that differ only in how the instants of their records are written.** -/
abbrev Json.RestampsAll : Json → Json → Prop := Json.Alike Json.ListsRestamped

/-- The records of a snapshot are read alike, and what follows sees no difference. -/
theorem Json.RestampsAll.items_mapM {v w : Json} (h : v.RestampsAll w) (key : String)
    {α β : Type} {read : Json → Except Fault α}
    (hread : ∀ a b, Json.Restamps Record.timeKeys a b → read a = read b)
    (rest : List α → Except Fault β) :
    (v.items key >>= fun items => items.mapM read >>= rest) =
      w.items key >>= fun items => items.mapM read >>= rest := by
  cases h with
  | same => rfl
  | members h =>
      unfold Json.items
      dsimp only
      rcases Json.lookup_alike key h with heq | ⟨_, _, ha, hb, as, bs, rfl, rfl, hitems⟩
      · rw [heq]
      · rw [ha, hb]
        show (as.mapM read >>= rest) = bs.mapM read >>= rest
        rw [mapM_congr hread hitems]

/-- **Snapshots with the same instants are the same store.** -/
theorem Store.read_congr {v w : Json} (h : v.RestampsAll w) : Store.read v = Store.read w := by
  unfold Store.read
  simp only [h.items_mapM "activities" fun _ _ => Activity.read_congr,
    h.items_mapM "time_entries" fun _ _ => TimeEntry.read_congr,
    h.items_mapM "projects" fun _ _ => Project.read_congr]

/-- The keys of a panel under which its times stand. -/
def Panel.timeKeys : List String := ["start_date", "end_date"]

/-- **Settings with the same instants are the same panel.** -/
theorem Panel.read_congr {v w : Json} (h : v.Restamps timeKeys w) :
    Panel.read v = Panel.read w := by
  have hstart := h.getD_asMoment? "start_date"
  have hfinish := h.getD_asMoment? "end_date"
  have heq : ∀ key ∉ timeKeys, v.getD key = w.getD key := fun _ hkey => h.getD_eq hkey
  cases h with
  | same => rfl
  | members h =>
      unfold Panel.read
      rw [hstart, hfinish, heq "selected_projects" (by decide), heq "selected_apps" (by decide),
        heq "min_duration" (by decide), heq "max_duration" (by decide),
        heq "exclude_idle_time" (by decide)]

/-! ## 6. Searches -/

namespace Search

/-- **A search on a path over documents**: a snapshot, of which the index is built, and the settings
    of the panel. -/
def ofDocuments (p : Precision) (capacity : Int) (now : Moment) (snapshot settings : Json)
    (q : Text) (path : SearchPath) : Except Fault Results := do
  let store ← Store.read snapshot
  let panel ← Panel.read settings
  match Index.build capacity now (← Session.snapshot store) with
  | (index, none) => run p ⟨store, index, now⟩ q panel path
  | (_, some flaw) => throw flaw

/-- **The zone in which times were written makes no difference.** Every text of a moment, with
    whatever offset, is read as the moment, and any two of them are the same instant; snapshots and
    settings that differ only in how the same instants are written are read as the same store and
    the same panel, and every search over them comes to the same on either path. -/
theorem ofDocuments_restamped {v w f g : Json} (hstore : v.RestampsAll w)
    (hpanel : f.Restamps Panel.timeKeys g) :
    (∀ (m : Moment) (t : Text), m.IsWritten t → Moment.read t = .ok m) ∧
      (∀ (m : Moment) (s t : Text), m.IsWritten s → m.IsWritten t →
        Json.SameInstant (.str s) (.str t)) ∧
      Store.read v = Store.read w ∧ Panel.read f = Panel.read g ∧
      ∀ p capacity now q path, ofDocuments p capacity now v f q path =
        ofDocuments p capacity now w g q path := by
  refine ⟨fun m t h => Moment.read_of_isWritten h,
    fun m s t hs ht => Json.sameInstant_of_isWritten hs ht, Store.read_congr hstore,
    Panel.read_congr hpanel, fun p capacity now q path => ?_⟩
  unfold ofDocuments
  rw [Store.read_congr hstore, Panel.read_congr hpanel]

/-- An activity, a snapshot of it and settings with one bound, for the case below. -/
def mailAt (t : String) : Json :=
  .obj [("id", .str ['a']), ("app_name", .str "Mail".toList), ("start_time", .str t.toList)]

def startedAt (t : String) : Json := .obj [("activities", .arr [mailAt t])]

def boundedFrom (t : String) : Json :=
  .obj [("start_date", .str t.toList), ("exclude_idle_time", .bool true)]

/-- Half an hour and a quarter of a second before a new year, in UTC. -/
def beforeMidnight : Moment := ⟨63871284600250000, by decide⟩

/-- A clock two hours ahead shows the new year already when it has not begun in UTC. -/
theorem ofDocuments_restamped_newYear :
    Moment.read "2025-01-01T01:30:00.250000+02:00".toList = .ok beforeMidnight ∧
      (∃ store, Store.read (startedAt "2025-01-01T01:30:00.250000+02:00") = .ok store ∧
        Store.read (startedAt "2024-12-31T23:30:00.250000Z") = .ok store) ∧
      ∀ q path,
        ofDocuments .double 5 default (startedAt "2025-01-01T01:30:00.250000+02:00")
            (boundedFrom "2024-12-31T12:00:00.250000-11:30") q path =
          ofDocuments .double 5 default (startedAt "2024-12-31T23:30:00.250000Z")
            (boundedFrom "2024-12-31T23:30:00.250000") q path := by
  have hahead : beforeMidnight.IsWritten "2025-01-01T01:30:00.250000+02:00".toList := by
    have htext : Stamp.isoText ⟨⟨63871291800250000, by decide⟩, some (120 * Stamp.minuteMicros)⟩ =
        "2025-01-01T01:30:00.250000+02:00".toList := by decide
    exact htext ▸ .offset (by decide) (by decide)
  have hbehind : beforeMidnight.IsWritten "2024-12-31T12:00:00.250000-11:30".toList := by
    have htext : Stamp.isoText ⟨⟨63871243200250000, by decide⟩, some (-690 * Stamp.minuteMicros)⟩ =
        "2024-12-31T12:00:00.250000-11:30".toList := by decide
    exact htext ▸ .offset (by decide) (by decide)
  have hplain : beforeMidnight.IsWritten "2024-12-31T23:30:00.250000".toList := by
    have htext : beforeMidnight.isoText = "2024-12-31T23:30:00.250000".toList := by decide
    exact htext ▸ .plain
  have hzulu : beforeMidnight.IsWritten "2024-12-31T23:30:00.250000Z".toList := by
    have htext : beforeMidnight.isoText ++ ['Z'] = "2024-12-31T23:30:00.250000Z".toList := by decide
    exact htext ▸ .zulu (Or.inl rfl)
  have hactivity : (mailAt "2025-01-01T01:30:00.250000+02:00").Restamps Record.timeKeys
      (mailAt "2024-12-31T23:30:00.250000Z") :=
    .members (.cons ⟨rfl, Or.inl rfl⟩ (.cons ⟨rfl, Or.inl rfl⟩ (.cons
      ⟨rfl, Or.inr ⟨by decide, Json.sameInstant_of_isWritten hahead hzulu⟩⟩ .nil)))
  have hstore : (startedAt "2025-01-01T01:30:00.250000+02:00").RestampsAll
      (startedAt "2024-12-31T23:30:00.250000Z") :=
    .members (.cons ⟨rfl, Or.inr ⟨_, _, rfl, rfl, .cons hactivity .nil⟩⟩ .nil)
  have hpanel : (boundedFrom "2024-12-31T12:00:00.250000-11:30").Restamps Panel.timeKeys
      (boundedFrom "2024-12-31T23:30:00.250000") :=
    .members (.cons ⟨rfl, Or.inr ⟨by decide, Json.sameInstant_of_isWritten hbehind hplain⟩⟩
      (.cons ⟨rfl, Or.inl rfl⟩ .nil))
  obtain ⟨htimes, -, hread, -, hsearch⟩ := ofDocuments_restamped hstore hpanel
  have htime : Moment.read "2025-01-01T01:30:00.250000+02:00".toList = .ok beforeMidnight :=
    htimes _ _ hahead
  have hstart : (Json.str "2025-01-01T01:30:00.250000+02:00".toList).asMoment? =
      .ok (some beforeMidnight) := congrArg (Except.map some) htime
  have hok : Store.read (startedAt "2025-01-01T01:30:00.250000+02:00") = .ok (Store.empty.put
      (.activity ⟨['a'], .str "Mail".toList, some beforeMidnight, none, .null, .null, .null,
        false⟩)) := by
    have hone : Activity.read (mailAt "2025-01-01T01:30:00.250000+02:00") =
        (Json.str "2025-01-01T01:30:00.250000+02:00".toList).asMoment? >>= fun start => .ok
          ⟨['a'], .str "Mail".toList, start, none, .null, .null, .null, false⟩ := rfl
    rw [hstart, ok_bind] at hone
    have hitems : (startedAt "2025-01-01T01:30:00.250000+02:00").items "activities" =
        .ok [mailAt "2025-01-01T01:30:00.250000+02:00"] := rfl
    unfold Store.read
    rw [hitems, ok_bind, List.mapM_cons, hone]
    rfl
  exact ⟨htime, ⟨_, hok, hread ▸ hok⟩, fun q path => hsearch .double 5 default q path⟩

end Search

end Worklog
