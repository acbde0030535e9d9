import Worklog.Proofs.Index.Roster
import Worklog.Proofs.Store
import Worklog.Session.Upkeep

/-!
# Keeping the index in step

A sound store that is available is read as a whole without a fault, and an index can be built of
what was read. A change is taken over without a fault, too:

* `Session.snapshot_ok`: a snapshot holds the records of the store;
* **`Session.index_of_snapshot`**: the index that is built of it holds them;
* **`Session.rebuild_holds`**: and so does the index of a session after it was rebuilt;
* **`Session.indexAfter_holds`**: after a change has been taken over, the index agrees with the
  store on the record that changed, and holds otherwise what it held before. The one exception is
  a deletion of a record that is there again.
-/

namespace Worklog

/-- The key of the record that changed. -/
def Change.key (c : Change) : RecordKind × Text := (c.kind, c.id)

namespace Session

/-! ## 1. Reading it all -/

/-- **A snapshot holds the records of the store**, in the order of its reads. -/
theorem snapshot_ok {s : Store} (h : s.IsSound) (ha : s.available = true) :
    ∃ records, snapshot s = .ok records ∧ records.Perm s.records := by
  obtain ⟨as, has, hpa⟩ := Store.orders_activities _ fun _ ha => h.complete_activity ha
  obtain ⟨es, hes, hpe⟩ := Store.orders_timeEntries _ fun _ he => h.complete_timeEntry he
  obtain ⟨ps, hps, hpp⟩ := Store.orders_projects _ fun _ hp => h.complete_project hp
  refine ⟨as.map .activity ++ es.map .timeEntry ++ ps.map .project, ?_,
    ((hpa.map _).append (hpe.map _)).append (hpp.map _)⟩
  have hactivities : s.all .activity = .ok (as.map .activity) := by
    unfold Store.all Store.activities
    rw [Store.reading_ok ha, has]
    rfl
  have htimeEntries : s.all .timeEntry = .ok (es.map .timeEntry) := by
    unfold Store.all Store.timeEntries
    rw [Store.reading_ok ha]
    exact congrArg (Except.map (List.map Record.timeEntry)) hes
  have hprojects : s.all .project = .ok (ps.map .project) := by
    unfold Store.all Store.projects
    rw [Store.reading_ok ha, hps]
    rfl
  unfold snapshot
  rw [hactivities, htimeEntries, hprojects]
  rfl

/-- **The index of a store** can be built, and holds the records of the store. -/
theorem index_of_snapshot {s : Store} (h : s.IsSound) (ha : s.available = true) (capacity : Int)
    (now : Moment) :
    ∃ records i, snapshot s = .ok records ∧ Index.build capacity now records = (i, none) ∧
      i.Holds records ∧ records.Perm s.records := by
  obtain ⟨records, hread, hperm⟩ := snapshot_ok h ha
  have htexts : ∀ r ∈ records, r.HasTexts := fun r hr =>
    (h.complete_of_mem (hperm.mem_iff.mp hr)).texts
  have hkeys : (records.map Record.key).Nodup := (hperm.map _).nodup_iff.mpr h.nodup_keys
  obtain ⟨i, hbuild, hi⟩ := Index.Holds.build_of_nodup capacity now htexts hkeys
  exact ⟨records, i, hread, hbuild, hi, hperm⟩

/-- A store that is not available cannot be read. -/
theorem snapshot_unavailable {s : Store} (ha : s.available = false) :
    snapshot s = .error .storeUnavailable := by
  have hread : s.all .activity = .error .storeUnavailable := by
    unfold Store.all Store.activities Store.reading
    rw [ha]
    rfl
  unfold snapshot
  rw [hread]
  rfl

/-- **A session rebuilds its index**: it holds the records of the store. No change of a record is
    published. -/
theorem rebuild_holds (s : Session) {env : Surroundings} (h : env.store.IsSound)
    (ha : env.store.available = true) :
    (s.rebuild env).answer = .ok true ∧
      (∃ live, (s.rebuild env).session.desk.index.Holds live ∧ live.Perm env.store.records) ∧
      ∀ n ∈ (s.rebuild env).notices, ∀ c, n ≠ .recordChanged c := by
  obtain ⟨records, i, hread, hbuild, hi, hperm⟩ :=
    index_of_snapshot h ha s.settings.index.titleSample env.now
  unfold rebuild
  rw [hread]
  dsimp only
  rw [hbuild]
  refine ⟨rfl, ⟨records, hi, hperm⟩, fun n hn c e => ?_⟩
  rw [List.mem_singleton.mp hn] at e
  cases e

/-- A session rebuilds its index only if the store is available. -/
theorem available_of_rebuild {s : Session} {env : Surroundings}
    (h : (s.rebuild env).answer = .ok true) : env.store.available = true := by
  cases ha : env.store.available with
  | true => rfl
  | false =>
      unfold rebuild at h
      rw [snapshot_unavailable ha] at h
      cases h

/-! ## 2. Changes -/

/-- An index without the record that changed agrees with a store without it. -/
theorem agree_strike {s : Store} {key : RecordKind × Text} {live : List Record}
    (h : s.IsSound) (hgone : s.get? key.1 key.2 = none) {r : Record} (hr : r.key = key) :
    r ∈ Roster.strike key live ↔ r ∈ s.records := by
  subst hr
  constructor
  · intro hm
    exact absurd rfl (Roster.mem_strike.mp hm).2
  · intro hm
    have hget : s.get? r.kind r.id = some r := h.mem_records.mp hm
    have hnone : s.get? r.kind r.id = none := hgone
    rw [hnone] at hget
    cases hget

/-- An index into which the record that changed was entered agrees with the store. -/
theorem agree_enter {s : Store} {live : List Record} (h : s.IsSound) {new : Record}
    (hnew : new ∈ s.records) {r : Record} (hr : r.key = new.key) :
    r ∈ Roster.enter live new ↔ r ∈ s.records := by
  constructor
  · intro hm
    rcases List.mem_append.mp hm with hm | hm
    · exact absurd hr (Roster.mem_strike.mp hm).2
    · exact List.mem_singleton.mp hm ▸ hnew
  · intro hm
    rw [Roster.eq_of_key_eq h.nodup_keys hm hnew hr]
    exact List.mem_append_right _ (List.mem_singleton_self _)

theorem mem_enter_of_ne {live : List Record} {new r : Record} (hr : r.key ≠ new.key) :
    r ∈ Roster.enter live new ↔ r ∈ live := by
  rw [Roster.enter, List.mem_append, Roster.mem_strike, List.mem_singleton]
  constructor
  · intro h
    rcases h with ⟨hm, -⟩ | rfl
    · exact hm
    · exact absurd rfl hr
  · intro hm
    exact Or.inl ⟨hm, hr⟩

theorem mem_strike_of_ne {live : List Record} {key : RecordKind × Text} {r : Record}
    (hr : r.key ≠ key) : r ∈ Roster.strike key live ↔ r ∈ live := by
  rw [Roster.mem_strike]
  exact and_iff_left hr

/-- **A change is taken over.** The index holds what it held before for all other keys; for the key
    of the change it agrees with the store, unless a deletion is taken over of a record that is
    there again. -/
theorem indexAfter_holds {i : Index} {live : List Record} {env : Surroundings} (hi : i.Holds live)
    (hs : env.store.IsSound) (ha : env.store.available = true) (c : Change) :
    ∃ live', (indexAfter i env c).2 = none ∧ (indexAfter i env c).1.Holds live' ∧
      (∀ r : Record, r.key ≠ c.key → (r ∈ live' ↔ r ∈ live)) ∧
      ∀ r : Record, r.key = c.key →
        (c.operation = .delete → env.store.get? c.kind c.id = none) →
        (r ∈ live' ↔ r ∈ env.store.records) := by
  have hremove := hi.remove env.now c.kind c.id
  have hfetch : env.store.fetch c.kind c.id = .ok (env.store.get? c.kind c.id) :=
    Store.reading_ok ha _
  by_cases hop : c.operation = .delete
  · have hafter : indexAfter i env c = (i.remove env.now c.kind c.id, none) := by
      unfold indexAfter
      rw [hop]
    rw [hafter]
    exact ⟨_, rfl, hremove, fun r hr => mem_strike_of_ne hr, fun r hr hgone =>
      agree_strike hs (hgone hop) hr⟩
  · cases hget : env.store.get? c.kind c.id with
    | none =>
        have hafter : indexAfter i env c = (i.remove env.now c.kind c.id, none) := by
          unfold indexAfter
          rw [hfetch, hget]
          split
          · rfl
          · rfl
        rw [hafter]
        exact ⟨_, rfl, hremove, fun r hr => mem_strike_of_ne hr, fun r hr _ =>
          agree_strike hs hget hr⟩
    | some new =>
        have hkey : new.key = c.key := hs.key_of_get? hget
        have hnew : new ∈ env.store.records := by
          rw [hs.mem_records]
          have hkind : new.kind = c.kind := congrArg Prod.fst hkey
          have hid : new.id = c.id := congrArg Prod.snd hkey
          rw [hkind, hid]
          exact hget
        have hafter : indexAfter i env c = i.add env.now new := by
          unfold indexAfter
          rw [hfetch, hget]
          split
          · exact absurd ‹_› hop
          · rfl
        obtain ⟨hnone, hadd⟩ := hi.add env.now (hs.complete_of_mem hnew).texts
        rw [hafter]
        exact ⟨_, hnone, hadd, fun r hr => mem_enter_of_ne (hkey ▸ hr), fun r hr _ =>
          agree_enter hs hnew (hr.trans hkey.symm)⟩

/-- To follow a change is to take it over into the index; no change of a record is published. -/
theorem follow_eq (s : Session) (env : Surroundings) (c : Change) :
    (s.follow env c).session.desk.index = (indexAfter s.desk.index env c).1 ∧
      ∀ n ∈ (s.follow env c).notices, ∀ c', n ≠ .recordChanged c' := by
  unfold follow
  cases indexAfter s.desk.index env c with
  | mk index flaw =>
      cases flaw with
      | none =>
          refine ⟨rfl, fun n hn c' e => ?_⟩
          rw [List.mem_singleton.mp hn] at e
          cases e
      | some f => exact ⟨rfl, fun n hn => absurd hn List.not_mem_nil⟩

end Session

end Worklog
