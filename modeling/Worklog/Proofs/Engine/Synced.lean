import Worklog.Engine.Basic
import Worklog.Proofs.Index.Answers
import Worklog.Proofs.Session.Upkeep

/-!
# An index that lags behind

Between a write to the store and the moment at which the change reaches the index, the two differ.
`Synced index store queue` says in what way, where `queue` holds the events that still wait:

* index and store agree on every record of which no change waits;
* if the last change that waits for a record is its deletion, the store does not have it.

The second condition is what makes it safe that a change is read when it is taken over and not when
it was made: the record may have been written again in the meantime, and then another change waits.

* `Synced.put`, `Synced.take`: a write with its change keeps the condition;
* **`Synced.follow`**: so does taking over the first change that waits;
* **`Synced.sameAnswers`**: if no change waits, the index answers like one that is built of the
  store.
-/

namespace Worklog

/-! ## 1. Waiting changes -/

/-- The change of a record that an event tells of. -/
def Event.change? (e : Event Notice) : Option Change :=
  match e.data with
  | .recordChanged c => some c
  | _ => none

/-- The changes of the record with a key that wait in a queue. -/
def waiting (queue : List (Event Notice)) (key : RecordKind × Text) : List Change :=
  (queue.filterMap Event.change?).filter fun c => decide (c.key = key)

section Waiting

variable {queue es : List (Event Notice)} {key : RecordKind × Text}

theorem waiting_append : waiting (queue ++ es) key = waiting queue key ++ waiting es key := by
  unfold waiting
  rw [List.filterMap_append, List.filter_append]

/-- Events that tell of no change let nothing wait. -/
theorem waiting_of_quiet (h : ∀ e ∈ es, e.change? = none) : waiting es key = [] := by
  unfold waiting
  rw [List.filterMap_eq_nil_iff.mpr h]
  rfl

theorem waiting_cons_of_none {e : Event Notice} (h : e.change? = none) :
    waiting (e :: queue) key = waiting queue key := by
  unfold waiting
  rw [List.filterMap_cons_none h]

theorem waiting_cons {e : Event Notice} {c : Change} (h : e.change? = some c) :
    waiting (e :: queue) key =
      if c.key = key then c :: waiting queue key else waiting queue key := by
  unfold waiting
  rw [List.filterMap_cons_some h, List.filter_cons]
  simp only [decide_eq_true_eq]

theorem waiting_event (c : Change) :
    waiting [(Notice.recordChanged c).event] key = if c.key = key then [c] else [] :=
  waiting_cons (c := c) rfl

end Waiting

/-! ## 2. Index, store and queue -/

/-- **An index is in step with a store** but for the changes that wait. -/
structure Synced (index : Index) (store : Store) (queue : List (Event Notice)) : Prop where
  sound : store.IsSound
  /-- Only notices wait. -/
  notices : ∀ e ∈ queue, ∃ n : Notice, e = n.event
  agrees : ∃ live, index.Holds live ∧
    ∀ r : Record, waiting queue r.key = [] → (r ∈ live ↔ r ∈ store.records)
  gone : ∀ key c, (waiting queue key).getLast? = some c → c.operation = .delete →
    store.get? key.1 key.2 = none

namespace Synced

variable {index : Index} {store : Store} {queue : List (Event Notice)}

/-- An index that holds the records of the store is in step with it, whatever waits. -/
theorem of_holds {i : Index} (h : Synced index store queue) {live : List Record} (hi : i.Holds live)
    (hp : live.Perm store.records) : Synced i store queue :=
  ⟨h.sound, h.notices, ⟨live, hi, fun _ _ => hp.mem_iff⟩, h.gone⟩

theorem of_available (h : Synced index store queue) (available : Bool) :
    Synced index { store with available } queue :=
  ⟨⟨h.sound.activities, h.sound.timeEntries, h.sound.projects, h.sound.complete⟩, h.notices,
    h.agrees, h.gone⟩

/-- Notices that tell of no change make no difference. -/
theorem append (h : Synced index store queue) {es : List (Event Notice)}
    (hes : ∀ e ∈ es, e.change? = none ∧ ∃ n : Notice, e = n.event) :
    Synced index store (queue ++ es) := by
  have hwaiting : ∀ key, waiting (queue ++ es) key = waiting queue key := fun key => by
    rw [waiting_append, waiting_of_quiet fun e he => (hes e he).1, List.append_nil]
  obtain ⟨live, hlive, hagrees⟩ := h.agrees
  refine ⟨h.sound, fun e he => ?_, ⟨live, hlive, fun r hr => ?_⟩, fun key c hc => ?_⟩
  · rcases List.mem_append.mp he with he | he
    · exact h.notices e he
    · exact (hes e he).2
  · rw [hwaiting] at hr
    exact hagrees r hr
  · rw [hwaiting] at hc
    exact h.gone key c hc

/-- The first event may go if it tells of no change. -/
theorem skip {e : Event Notice} (h : Synced index store (e :: queue)) (he : e.change? = none) :
    Synced index store queue := by
  obtain ⟨live, hlive, hagrees⟩ := h.agrees
  refine ⟨h.sound, fun e he => h.notices e (List.mem_cons_of_mem _ he),
    ⟨live, hlive, fun r hr => hagrees r ?_⟩, fun key c hc => h.gone key c ?_⟩
  · rw [waiting_cons_of_none he]
    exact hr
  · rw [waiting_cons_of_none he]
    exact hc

/-! ## 3. Writes -/

/-- **A write that queues its change** leaves the index in step, if the store is as before under
    all other keys, and does not have the record after a deletion. -/
theorem write (h : Synced index store queue) {new : Store} (hnew : new.IsSound) (c : Change)
    (hsame : ∀ key : RecordKind × Text, key ≠ c.key →
      new.get? key.1 key.2 = store.get? key.1 key.2)
    (hgone : c.operation = .delete → new.get? c.kind c.id = none) :
    Synced index new (queue ++ [(Notice.recordChanged c).event]) := by
  have hwaiting : ∀ key, waiting (queue ++ [(Notice.recordChanged c).event]) key =
      waiting queue key ++ if c.key = key then [c] else [] := fun key => by
    rw [waiting_append, waiting_event]
  obtain ⟨live, hlive, hagrees⟩ := h.agrees
  refine ⟨hnew, fun e he => ?_, ⟨live, hlive, fun r hr => ?_⟩, fun key last hlast hop => ?_⟩
  · rcases List.mem_append.mp he with he | he
    · exact h.notices e he
    · exact ⟨_, List.mem_singleton.mp he⟩
  · rw [hwaiting] at hr
    obtain ⟨hbefore, hother⟩ := List.append_eq_nil_iff.mp hr
    have hkey : r.key ≠ c.key := by
      intro e
      rw [if_pos e.symm] at hother
      cases hother
    have hget : new.get? r.kind r.id = store.get? r.kind r.id := hsame r.key hkey
    rw [hagrees r hbefore, h.sound.mem_records, hnew.mem_records, hget]
  · rw [hwaiting] at hlast
    by_cases hkey : c.key = key
    · subst hkey
      rw [if_pos rfl, List.getLast?_append_of_ne_nil _ (by simp)] at hlast
      have hc : c = last := Option.some.inj hlast
      subst hc
      exact hgone hop
    · rw [if_neg hkey, List.append_nil] at hlast
      rw [hsame key fun e => hkey e.symm]
      exact h.gone key last hlast hop

/-- A key other than that of a change differs in the kind or in the identifier. -/
theorem not_and_of_ne {key : RecordKind × Text} {kind : RecordKind} {id : Text}
    (h : key ≠ (kind, id)) : ¬(kind = key.1 ∧ id = key.2) := by
  intro hm
  obtain ⟨hkind, hid⟩ := hm
  exact h (Prod.ext hkind.symm hid.symm)

/-- Writing a complete record keeps the index in step. -/
theorem put (h : Synced index store queue) {r : Record} (hr : r.IsComplete) {op : Operation}
    (hop : op ≠ .delete) :
    Synced index (store.put r) (queue ++ [(Notice.recordChanged ⟨r.kind, r.id, op⟩).event]) := by
  refine h.write (h.sound.put hr) ⟨r.kind, r.id, op⟩ (fun key hkey => ?_) fun e => absurd e hop
  rw [Store.get?_put, if_neg (not_and_of_ne hkey)]

/-- Taking a record out keeps the index in step. -/
theorem take (h : Synced index store queue) (kind : RecordKind) (id : Text) :
    Synced index (store.take kind id)
      (queue ++ [(Notice.recordChanged ⟨kind, id, .delete⟩).event]) := by
  refine h.write (h.sound.take kind id) ⟨kind, id, .delete⟩ (fun key hkey => ?_) fun _ => ?_
  · rw [Store.get?_take, if_neg (not_and_of_ne hkey)]
  · rw [Store.get?_take, if_pos ⟨rfl, rfl⟩]

/-! ## 4. Taking changes over -/

/-- **Taking over the first change that waits** keeps the index in step, while it is handed out and
    after it is gone. -/
theorem follow {env : Surroundings} {e : Event Notice} {c : Change}
    (h : Synced index env.store (e :: queue)) (ha : env.store.available = true)
    (he : e.change? = some c) :
    Synced (Session.indexAfter index env c).1 env.store (e :: queue) ∧
      Synced (Session.indexAfter index env c).1 env.store queue := by
  obtain ⟨live, hlive, hagrees⟩ := h.agrees
  obtain ⟨live', -, hafter, hothers, hown⟩ := Session.indexAfter_holds hlive h.sound ha c
  have hne : ∀ r : Record, waiting (e :: queue) r.key = [] → r.key ≠ c.key := by
    intro r hr hkey
    rw [waiting_cons he, if_pos hkey.symm] at hr
    cases hr
  refine ⟨⟨h.sound, h.notices, ⟨live', hafter, fun r hr => ?_⟩, h.gone⟩,
    h.sound, fun e he => h.notices e (List.mem_cons_of_mem _ he), ⟨live', hafter, fun r hr => ?_⟩,
    fun key last hlast => h.gone key last ?_⟩
  · rw [hothers r (hne r hr)]
    exact hagrees r hr
  · by_cases hkey : r.key = c.key
    · -- Nothing else waits under this key: if the change is a deletion, it was the last one.
      refine hown r hkey fun hop => h.gone c.key c ?_ hop
      rw [waiting_cons he, if_pos rfl, ← hkey, hr]
      rfl
    · rw [hothers r hkey]
      refine hagrees r ?_
      rw [waiting_cons he, if_neg fun e => hkey e.symm]
      exact hr
  · rw [waiting_cons he]
    split
    · rw [List.getLast?_cons, hlast]
      rfl
    · exact hlast

/-- **If no change waits, the index answers like one that is built of the store.** -/
theorem sameAnswers (h : Synced index store queue) (hquiet : ∀ e ∈ queue, e.change? = none)
    (capacity : Int) (now : Moment) :
    ∃ records i, Session.snapshot { store with available := true } = .ok records ∧
      Index.build capacity now records = (i, none) ∧ Index.SameAnswers index i := by
  obtain ⟨live, hlive, hagrees⟩ := h.agrees
  obtain ⟨records, i, hread, hbuild, hi, hperm⟩ :=
    Session.index_of_snapshot (h.of_available true).sound rfl capacity now
  have hsame : live.Perm store.records :=
    (List.perm_ext_iff_of_nodup hlive.keys.of_map h.sound.nodup_keys.of_map).mpr fun r =>
      hagrees r (waiting_of_quiet hquiet)
  exact ⟨records, i, hread, hbuild, hlive.sameAnswers hi (hsame.trans hperm.symm)⟩

end Synced

end Worklog
