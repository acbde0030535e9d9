import Worklog.History.Basic
import Worklog.Proofs.History.Document
import Worklog.Proofs.Table

/-!
# A history and its state file

A history is used in any order: queries are added and forgotten, searches are saved, used and
deleted, and the state file is read. After each use the state file holds what the history holds, so
that nothing is lost when it is opened again.

* `StateFile.reopened`: a state file is a text while nobody uses it;
* `History.Use`, `History.run`: what may be done with a history;
* `History.IsTyped.load_document`: the document of a history is read as what it was made of;
* **`History.Kept.apply`**: each use keeps the history and its file in agreement;
* **`History.reload_run`**: a new history that reads the file is the one that wrote it.
-/

namespace Worklog

/-! ## 1. Uses -/

namespace StateFile

/-- **The state file when it is opened again.** A document was written as a text. -/
def reopened : StateFile → StateFile
  | document v => ofText v.pretty
  | file => file

/-- Whether a change is written to the state file. -/
def isWritten : StateFile → Bool
  | unused => false
  | blocked _ => false
  | _ => true

end StateFile

namespace History

/-- **What may be done with a history** that has a state file. -/
inductive Use where
  | add (query : Text)
  | clear
  | save (id name query : Text) (panel : Panel) (now : Moment)
  | delete (id : Text)
  | touch (now : Moment) (position : Int)
  | load

namespace Use

/-- Whether the panel of a search that is saved is as it is meant to be. -/
def IsTyped : Use → Prop
  | save _ _ _ panel _ => panel.IsTyped
  | _ => True

/-- Whether there is a saved search at the position of one that is used. -/
def IsFound (h : History) : Use → Prop
  | touch _ position => (itemAt? position h.saved).isSome = true
  | _ => True

/-- **What a use leaves of a history**, and what went wrong, if anything did. -/
def apply (h : History) : Use → History × Option Fault
  | add query => (h.add query, (h.add query).objectionTo query)
  | clear => (h.clear, h.clear.objection)
  | save id name query panel now =>
    let after := h.save ⟨.str id, .str name, .str query, panel, now.toStamp, none⟩
    (after, after.objection)
  | delete id =>
    let (after, gone) := h.delete id
    (after, if gone then after.objection else none)
  | touch now position =>
    match h.touch now position with
    | .ok (after, _) => (after, after.objection)
    | .error f => (h, some f)
  | load =>
    let opened := { h with file := h.file.reopened }
    match opened.load with
    | .ok after => (after, none)
    | .error f => (opened.loadedSoFar, some f)

end Use

/-- What some uses leave of a history. -/
def run (h : History) (us : List Use) : History := us.foldl (fun h u => (u.apply h).1) h

/-! ## 2. The document of a history -/

/-- **A history as it is meant to be**: the entries are texts for which there is room. -/
structure IsTyped (h : History) : Prop where
  entries : ∀ v ∈ h.entries, ∃ t, v = .str t
  room : front h.limit h.entries = h.entries
  saved : ∀ s ∈ h.saved, s.IsTyped

/-- The document of a history whose saved searches have one. -/
def document (h : History) : Json :=
  .obj [("history", .arr h.entries), ("saved_searches", .arr (h.saved.map SavedSearch.document))]

variable {h : History} {limit : Int}

theorem IsTyped.toJson_eq (ht : h.IsTyped) : h.toJson = .ok h.document := by
  unfold toJson
  rw [mapM_ok fun s hs => (ht.saved s hs).toJson_eq]
  rfl

theorem IsTyped.writable (ht : h.IsTyped) : Json.Writable 0 h.document := by
  have hentries : ∀ v ∈ h.entries, Json.Writable 2 v := fun v hv => by
    obtain ⟨t, rfl⟩ := ht.entries v hv
    exact .str t
  have hsaved : ∀ v ∈ h.saved.map SavedSearch.document, Json.Writable 2 v := fun v hv => by
    obtain ⟨s, hs, rfl⟩ := List.mem_map.mp hv
    exact (ht.saved s hs).writable (by decide)
  refine .obj (by decide) ?_ ?_
  · show ["history", "saved_searches"].Nodup
    decide
  simp only [List.forall_mem_cons]
  exact ⟨.arr (by decide) hentries, .arr (by decide) hsaved, List.forall_mem_nil _⟩

/-- **The document of a history is read** as what it was made of. -/
theorem IsTyped.load_document (ht : h.IsTyped) {new : History} (hlimit : new.limit = h.limit)
    (hfile : new.file = .document h.document) :
    new.load = .ok { h with file := .document h.document } := by
  have hentries : h.document.items "history" = .ok h.entries := rfl
  have hsaved : h.document.items "saved_searches" = .ok (h.saved.map SavedSearch.document) := rfl
  have hread : (h.saved.map SavedSearch.document).mapM SavedSearch.read = .ok h.saved := by
    rw [List.mapM_map]
    have hitems := mapM_ok (g := id) fun s hs => (ht.saved s hs).read_document
    rwa [List.map_id] at hitems
  have hqueries : new.loadEntries h.document = .ok { new with entries := h.entries } := by
    unfold loadEntries
    rw [hentries, hlimit, ok_bind, ht.room]
    rfl
  unfold load
  rw [hfile]
  dsimp only
  rw [hqueries, ok_bind, loadSaved, hsaved, ok_bind, hread, ok_bind, ← hlimit, ← hfile]
  rfl

/-! ## 3. Histories and their files -/

/-- The state file holds what the history holds. Without a file the history holds nothing. -/
def IsFiled (h : History) : Prop :=
  h.file = .document h.document ∨ (h.file = .missing ∧ h.entries = [] ∧ h.saved = [])

/-- **A history with a limit is kept** in its state file. -/
structure Kept (limit : Int) (h : History) : Prop where
  limit : h.limit = limit
  typed : h.IsTyped
  filed : h.IsFiled

theorem kept_empty (limit : Int) : Kept limit (empty limit .missing) :=
  ⟨rfl, ⟨fun _ hv => absurd hv List.not_mem_nil, front_nil limit,
    fun _ hs => absurd hs List.not_mem_nil⟩, .inr ⟨rfl, rfl, rfl⟩⟩

namespace Kept

theorem isWritten (hk : Kept limit h) : h.file.isWritten = true := by
  rcases hk.filed with hfile | ⟨hfile, -⟩
  · rw [hfile]
    rfl
  · rw [hfile]
    rfl

/-- Nothing stands against writing the state file. -/
theorem objection_eq (hk : Kept limit h) : h.objection = none := by
  unfold objection
  rw [hk.typed.toJson_eq]
  rcases hk.filed with hfile | ⟨hfile, -⟩
  · rw [hfile]
  · rw [hfile]

/-- **The state file is the same** when it is opened again. -/
theorem reopened_eq (hk : Kept limit h) : h.file.reopened = h.file := by
  rcases hk.filed with hfile | ⟨hfile, -⟩
  · rw [hfile]
    show StateFile.ofText h.document.pretty = _
    unfold StateFile.ofText
    rw [Json.read_pretty hk.typed.writable]
  · rw [hfile]
    rfl

/-- A history whose file is not there holds nothing. -/
theorem eq_empty (hk : Kept limit h) (hmissing : h.file = .missing) : h = empty limit .missing := by
  rcases hk.filed with hfile | ⟨-, hentries, hsaved⟩
  · cases hmissing.symm.trans hfile
  · obtain ⟨limit', entries, saved, file⟩ := h
    obtain rfl : limit' = limit := hk.limit
    obtain rfl : entries = [] := hentries
    obtain rfl : saved = [] := hsaved
    obtain rfl : file = .missing := hmissing
    rfl

/-- **A history that has the file and the limit of another** reads what the other holds. Where the
    file is not there, nothing is read. -/
theorem load_eq (hk : Kept limit h) {new : History} (hlimit : new.limit = limit)
    (hfile : new.file = h.file) (hmissing : h.file = .missing → new = h) : new.load = .ok h := by
  rcases hk.filed with hdocument | ⟨hnone, -⟩
  · rw [hk.typed.load_document (hlimit.trans hk.limit.symm) (hfile.trans hdocument), ← hdocument]
  · unfold load
    rw [hfile, hnone, hmissing hnone]

end Kept

/-- **A change is written**: if the parts are as they are meant to be, history and file agree. -/
theorem IsTyped.persist (ht : h.IsTyped) (hfile : h.file.isWritten = true)
    (hlimit : h.limit = limit) : Kept limit h.persist := by
  have hwritten : h.persist = { h with file := .document h.document } := by
    unfold History.persist
    rw [ht.toJson_eq]
    cases hf : h.file with
    | unused => rw [hf] at hfile; cases hfile
    | blocked f => rw [hf] at hfile; cases hfile
    | _ => rfl
  rw [hwritten]
  exact ⟨hlimit, ⟨ht.entries, ht.room, ht.saved⟩, .inl rfl⟩

/-! ## 4. One use after the other -/

/-- A saved search that is there can be used. -/
theorem exists_touch (now : Moment) {position : Int}
    (hthere : (itemAt? position h.saved).isSome = true) :
    ∃ after, h.touch now position = .ok after := by
  obtain ⟨s, hs⟩ := Option.isSome_iff_exists.mp hthere
  have hfound : h.savedAt position = .ok s := by
    unfold savedAt
    rw [hs]
  unfold History.touch
  rw [hfound]
  exact ⟨_, rfl⟩

namespace Kept

theorem add (hk : Kept limit h) (query : Text) : Kept limit (h.add query) := by
  unfold History.add
  dsimp only
  split
  · exact hk
  · refine IsTyped.persist ⟨fun v hv => ?_, ?_, hk.typed.saved⟩ hk.isWritten hk.limit
    · rcases List.mem_cons.mp ((front_sublist _ _).subset hv) with rfl | hv
      · exact ⟨_, rfl⟩
      · exact hk.typed.entries v (List.erase_sublist.subset hv)
    · exact front_front hk.typed.room _ List.erase_sublist

theorem clear (hk : Kept limit h) : Kept limit h.clear :=
  IsTyped.persist ⟨fun _ hv => absurd hv List.not_mem_nil, front_nil h.limit, hk.typed.saved⟩
    hk.isWritten hk.limit

theorem save (hk : Kept limit h) {s : SavedSearch} (hs : s.IsTyped) : Kept limit (h.save s) := by
  refine IsTyped.persist ⟨hk.typed.entries, hk.typed.room, fun one hone => ?_⟩ hk.isWritten hk.limit
  rcases List.mem_append.mp hone with hold | hnew
  · exact hk.typed.saved one hold
  · rwa [List.mem_singleton.mp hnew]

theorem delete (hk : Kept limit h) (id : Text) : Kept limit (h.delete id).1 := by
  unfold History.delete
  dsimp only
  split
  · exact hk
  · exact IsTyped.persist ⟨hk.typed.entries, hk.typed.room,
      fun s hs => hk.typed.saved s (List.mem_of_mem_filter hs)⟩ hk.isWritten hk.limit

theorem touch (hk : Kept limit h) {now : Moment} {position : Int} {after : History × SavedSearch}
    (hafter : h.touch now position = .ok after) : Kept limit after.1 := by
  obtain ⟨s, hs, hdone⟩ := bind_eq_ok.mp hafter
  cases hdone
  have hfound : s ∈ h.saved := by
    unfold savedAt at hs
    split at hs
    next hitem =>
      cases hs
      exact mem_of_itemAt? hitem
    next => cases hs
  refine IsTyped.persist ⟨hk.typed.entries, hk.typed.room, fun one hone => ?_⟩ hk.isWritten hk.limit
  rcases List.mem_or_eq_of_mem_set hone with hold | rfl
  · exact hk.typed.saved one hold
  · exact (hk.typed.saved s hfound).markUsed now

/-- **What is read is what was held**: the file agrees with the history. -/
theorem load_reopened (hk : Kept limit h) : { h with file := h.file.reopened }.load = .ok h := by
  rw [hk.reopened_eq]
  exact hk.load_eq hk.limit rfl fun _ => rfl

/-- **Each use keeps history and file in agreement**. -/
theorem apply (hk : Kept limit h) {u : Use} (hu : u.IsTyped) : Kept limit (u.apply h).1 := by
  cases u with
  | add query => exact hk.add query
  | clear => exact hk.clear
  | save id name query panel now =>
      exact hk.save ⟨⟨id, rfl⟩, ⟨name, rfl⟩, ⟨query, rfl⟩, hu, ⟨now, rfl⟩, fun _ ht => nomatch ht⟩
  | delete id => exact hk.delete id
  | touch now position =>
      unfold Use.apply
      dsimp only
      split
      next after _ hafter => exact hk.touch hafter
      next => exact hk
  | load =>
      unfold Use.apply
      dsimp only
      rw [hk.load_reopened]
      exact hk

/-- **Nothing goes wrong** with a use, unless a saved search is used that is not there. -/
theorem apply_fault (hk : Kept limit h) {u : Use} (hu : u.IsTyped) (hfound : u.IsFound h) :
    (u.apply h).2 = none := by
  have hafter := (hk.apply hu).objection_eq
  cases u with
  | add query =>
      show (if Text.isBlankText query then none else (h.add query).objection) = none
      split
      · rfl
      · exact hafter
  | clear => exact hafter
  | save id name query panel now => exact hafter
  | delete id =>
      show (if (h.delete id).2 then (h.delete id).1.objection else none) = none
      split
      · exact hafter
      · rfl
  | touch now position =>
      obtain ⟨after, hdone⟩ := exists_touch now hfound
      unfold Use.apply at hafter ⊢
      dsimp only at hafter ⊢
      rw [hdone] at hafter ⊢
      exact hafter
  | load =>
      unfold Use.apply
      dsimp only
      rw [hk.load_reopened]

end Kept

/-! ## 5. Runs -/

/-- **Runs keep history and file in agreement.** -/
theorem kept_run (limit : Int) {us : List Use} (hus : ∀ u ∈ us, u.IsTyped) : ∀ {h : History},
    Kept limit h → Kept limit (run h us) := by
  induction us with
  | nil => exact fun hk => hk
  | cons u us ih =>
      intro h hk
      exact ih (fun v hv => hus v (List.mem_cons_of_mem u hv)) (hk.apply (hus u List.mem_cons_self))

/-- **Nothing is lost when a state file is opened again.** Let a history with any limit start
    without a file, and let it be used in any order: queries are added and forgotten, searches are
    saved, deleted and used, and the file is read. Then a new history with the same limit that reads
    the file has the same queries in the same order and the same saved searches in the same order,
    with all of their parts. No use goes wrong, unless a saved search is used that is not there. -/
theorem reload_run (limit : Int) (us : List Use) (hus : ∀ u ∈ us, u.IsTyped) :
    let h := run (empty limit .missing) us
    (empty limit h.file.reopened).load = .ok h ∧
      ∀ u : Use, u.IsTyped → u.IsFound h → (u.apply h).2 = none := by
  intro h
  have hk : Kept limit h := kept_run limit hus (kept_empty limit)
  have hnew : h.file = .missing → empty limit h.file = h := fun hmissing => by
    rw [hmissing]
    exact (hk.eq_empty hmissing).symm
  rw [hk.reopened_eq]
  exact ⟨hk.load_eq rfl rfl hnew, fun u hu hfound => hk.apply_fault hu hfound⟩

/-- A panel with a start to the microsecond, two apps and a length of a minute and a half. -/
def narrow : Panel where
  start := some ⟨63000000000000001, by decide⟩
  finish := none
  projects := []
  apps := [.str "Mail".toList, .str "Notes \"é\"".toList]
  minSeconds := .real (.finite (181 / 2))
  maxSeconds := .int 7200
  excludeIdle := true

/-- Queries are added, one of them twice and one of them blank; of two searches that are saved, one
    is used and one is deleted; then the file is read. -/
def severalUses : List Use :=
  [.add "invoice".toList, .save ['1'] "Bills".toList "invoice -draft".toList narrow ⟨1, by decide⟩,
    .add " report ".toList, .save ['2'] "All".toList [] .blank ⟨2, by decide⟩,
    .touch ⟨3000000, by decide⟩ 0, .add "invoice".toList, .add [], .delete ['2'], .load]

/-- With room for two queries, both queries and the search that was used are read again, and the
    search can be used once more. -/
theorem reload_run_severalUses :
    let h := run (empty 2 .missing) severalUses
    (empty 2 h.file.reopened).load = .ok h ∧
      h.entries = [.str "invoice".toList, .str "report".toList] ∧ h.saved.length = 1 ∧
      ((Use.touch ⟨5000000, by decide⟩ 0).apply h).2 = none := by
  have hempty : Json.AreNames [] := ⟨[], List.Pairwise.nil, rfl⟩
  have hnarrow : narrow.IsTyped :=
    ⟨hempty, ⟨["Mail".toList, "Notes \"é\"".toList], by decide, rfl⟩, .real (by decide +kernel),
      .whole (by decide)⟩
  have hblank : Panel.blank.IsTyped := ⟨hempty, hempty, .none, .none⟩
  have htyped : ∀ u ∈ severalUses, u.IsTyped := by
    simp only [severalUses, List.forall_mem_cons]
    exact ⟨trivial, hnarrow, trivial, hblank, trivial, trivial, trivial, trivial, trivial,
      List.forall_mem_nil _⟩
  have hheld : (run (empty 2 .missing) severalUses).entries =
      [.str "invoice".toList, .str "report".toList] ∧
        (run (empty 2 .missing) severalUses).saved.length = 1 := by decide +kernel
  have hfound : Use.IsFound (run (empty 2 .missing) severalUses)
      (.touch ⟨5000000, by decide⟩ 0) := by
    obtain ⟨s, hs⟩ := List.length_eq_one_iff.mp hheld.2
    show (itemAt? 0 _).isSome = true
    rw [hs]
    rfl
  obtain ⟨hload, hdone⟩ := reload_run 2 severalUses htyped
  exact ⟨hload, hheld.1, hheld.2, hdone _ trivial hfound⟩

end History

end Worklog
