import Worklog.Proofs.Index.Flawed
import Worklog.Proofs.Search.Total
import Worklog.Proofs.Session.Desk
import Worklog.Proofs.Session.Upkeep

/-!
# What failures leave behind

A change that cannot be taken over, an index that cannot be built anew and a search that comes to a
fault each count one error. Of these only the change can leave a trace in the index, if it came
with a flawed record: the record loses its old version and is filed up to its flaw.

* `Index.HalfFiled`, `Index.InOrder.halfFiled`: what a flawed record does to the index;
* `Desk.InOrder.execute_failed`: **a failed search** leaves index, metrics and kept results alone;
* `Session.follow_failed`, `rebuild_failed`, `follow_delete`: the upkeep of the index;
* `Session.Task`, `Session.after`, `Session.inOrder_after`: in whatever state a session is, its
  index is in order and no failure is kept;
* **`Session.failures_contained`**: what each failure leaves behind, in any such state.
-/

namespace Worklog

/-! ## 1. The index -/

/-- **A flawed record was filed as far as it could be**: it is found by the terms up to its flaw,
    and nothing is different for any other record. -/
structure Index.HalfFiled (before : Index) (r : Record) (after : Index) : Prop where
  flawed : (Index.contribution r).2.isSome = true
  filed : after.contains r.kind r.id = true
  found : ∀ q, r.id ∈ after.find r.kind q ↔ Term.ofText q ≠ [] ∧
    ∀ w ∈ Term.ofText q, ∃ e ∈ (Index.contribution r).1.terms, w <:+: e.2
  others : ∀ kind id, (kind, id) ≠ r.key → after.contains kind id = before.contains kind id ∧
    ∀ q, id ∈ after.find kind q ↔ id ∈ before.find kind q

namespace Index.InOrder

variable {i : Index} {kind : RecordKind} {id : Text}

theorem halfFiled (h : i.InOrder) (now : Moment) {r : Record} {flaw : Fault}
    (hflaw : (i.add now r).2 = some flaw) : i.HalfFiled r (i.add now r).1 := by
  have hadd := h.add now r
  have hown : (i.add now r).1.filings.get? (r.kind, r.id) = some (noted (contribution r)) := by
    rw [get?_filings_add]
    exact if_pos rfl
  refine ⟨?_, ?_, fun q => ?_, fun kind id hkey => ?_⟩
  · rw [← (i.add_eq now r).2.2, hflaw]
    rfl
  · unfold contains Table.has
    rw [hown]
    rfl
  · rw [hadd.mem_find, hown]
    simp only [Option.some.injEq, exists_eq_left', terms_noted]
  · have hsame : (i.add now r).1.filings.get? (kind, id) = i.filings.get? (kind, id) := by
      rw [get?_filings_add]
      exact if_neg (Ne.symm hkey)
    refine ⟨?_, h.mem_find_congr hadd hsame⟩
    unfold contains Table.has
    rw [hsame]

/-- **A record that was taken out is not found any more**, by no query. -/
theorem gone (h : i.InOrder) (now : Moment) (kind : RecordKind) (id : Text) :
    (i.remove now kind id).contains kind id = false ∧
      ∀ q, id ∉ (i.remove now kind id).find kind q := by
  have hnone : (i.remove now kind id).filings.get? (kind, id) = none := by
    rw [get?_filings_remove]
    exact if_pos rfl
  refine ⟨?_, (h.remove now kind id).notMem_find hnone⟩
  unfold contains Table.has
  rw [hnone]
  rfl

end Index.InOrder

/-! ## 2. The error log -/

namespace ErrorLog

/-- One more error of a component is counted, and none of any other. -/
def CountsOne (component : String) (before after : ErrorLog) : Prop :=
  ∀ c, after.counts.count c = before.counts.count c + if component.toList = c then 1 else 0

theorem countsOne_record (l : ErrorLog) (now : Moment) (component : String) (f : Fault)
    (severity : Severity) (context : List (String × Json)) :
    CountsOne component l (l.record (Mishap.ofFault now component f severity context)) := fun c =>
  Tally.count_up _ c l.counts

end ErrorLog

/-! ## 3. The desk -/

namespace Desk

variable {p : Precision} {d : Desk} {s : Surroundings} {asked : Json} {f : Panel}

/-- **A desk is in order** if its index is and if no failure is kept. -/
structure InOrder (d : Desk) : Prop where
  index : d.index.InOrder
  kept : ∀ e ∈ d.entries, e.results.failure = none

/-- A query leaves the desk in order: what it keeps was found. -/
theorem InOrder.execute (h : d.InOrder) (p : Precision) (s : Surroundings) (asked : Json)
    (f : Panel) : (d.execute p s asked f).1.InOrder := by
  obtain ⟨hindex, hentries⟩ := execute_spec p d s asked f
  refine ⟨hindex ▸ h.index, fun e he => ?_⟩
  rcases hentries e he with he | ⟨-, hfound⟩
  · exact h.kept e he
  · exact (Search.planned_spec hfound).2

/-- The words of a refusal are not those of a failed search. -/
theorem not_failed_of_refusal (why : Query.Refusal) :
    ¬ "Search failed".toList <+: why.message := by
  cases why with
  | nothingAsked => decide
  | problem problem =>
      cases problem with
      | unmatchedQuote => decide
      | _ => exact fun h => nomatch (List.cons_prefix_cons.mp h).1

/-- Results are given unless there is a fault, and then as they are. -/
theorem eq_of_count {q : Text} {r r' : Results} {hit : Bool}
    (h : (d.count p s q r hit).2 = .ok r') : r' = r := by
  rw [count_eq] at h
  split at h
  · exact (Except.ok.inj h).symm
  · cases h

/-- **A failed search leaves the desk as it was**, but for the error that it counts and for kept
    results that had expired. -/
structure Failed (before after : Desk) : Prop where
  index : after.index = before.index
  metrics : after.metrics = before.metrics
  entries : ∀ e ∈ after.entries, e ∈ before.entries
  errors : before.errors.CountsOne "search" after.errors

/-- Results that were kept, and those that were found, are no failure: if there is one, the search
    came to a fault. -/
theorem failed_of_outcome (h : d.InOrder) {q : Text} {a : Desk × Except Fault Results}
    (ha : Outcome p d s asked q f a) {r : Results} (hr : a.2 = .ok r) (hf : r.failure ≠ none) :
    Failed d a.1 := by
  cases ha with
  | nothing hq hinactive =>
      cases hr
      exact absurd rfl hf
  | unkeyed hkey => cases hr
  | @kept key found hkey hfound =>
      obtain ⟨-, -, -, hkept⟩ := lookUp_spec (p := p) (d := d) (s := s) key
      obtain ⟨e, he, -, rfl⟩ := hkept found hfound
      dsimp only at hr
      cases hcount : ((d.lookUp p s key).1.count p s q e.results true).2 with
      | error fault =>
          rw [hcount] at hr
          cases hr
      | ok r' =>
          rw [hcount, eq_of_count hcount] at hr
          cases hr
          exact absurd (h.kept e he) hf
  | @searched key hkey hfound =>
      obtain ⟨hindex, hmetrics, hentries, -⟩ := lookUp_spec (p := p) (d := d) (s := s) key
      have herrors : (d.lookUp p s key).1.errors = d.errors := by
        unfold lookUp
        split
        · rfl
        · rfl
      rw [search_eq] at hr ⊢
      cases hplanned : Search.planned p ((d.lookUp p s key).1.sources s) q f with
      | ok found =>
          rw [hplanned] at hr
          rw [eq_of_count hr] at hf
          exact absurd (Search.planned_spec hplanned).2 hf
      | error fault =>
          refine ⟨hindex, hmetrics, hentries, ?_⟩
          rw [← herrors]
          exact ErrorLog.countsOne_record _ s.now "search" fault .high _

/-- **A query that is answered with a failed search** came to a fault. -/
theorem InOrder.execute_failed (h : d.InOrder) {r : Results} {words : Text}
    (hr : (d.execute p s asked f).2 = .ok r) (hf : r.failure = some words)
    (hwords : "Search failed".toList <+: words) : Failed d (d.execute p s asked f).1 := by
  unfold Desk.execute at hr ⊢
  split at hr
  · cases hr
  next query _ =>
    split at hr
    · cases hr
    next why _ =>
      cases hr
      cases hf
      exact absurd hwords (not_failed_of_refusal why)
    next => exact failed_of_outcome h (answer_outcome p d s asked query f) hr (by rw [hf]; nofun)

end Desk

/-! ## 4. Upkeep -/

namespace Session

variable {s : Session} {env : Surroundings} {c : Change}

/-- A change is not taken over for one of two reasons: the record cannot be read, or it is
    flawed. -/
theorem indexAfter_flawed {i : Index} {flaw : Fault} (h : (indexAfter i env c).2 = some flaw) :
    (env.store.available = false ∧ (indexAfter i env c).1 = i) ∨
      ∃ r, env.store.fetch c.kind c.id = .ok (some r) ∧ indexAfter i env c = i.add env.now r := by
  unfold indexAfter at h ⊢
  split at h
  · cases h
  · split at h
    next r hr => exact Or.inr ⟨r, hr, rfl⟩
    · cases h
    next f hf =>
      refine Or.inl ⟨?_, rfl⟩
      cases ha : env.store.available with
      | false => rfl
      | true =>
          rw [Store.fetch, Store.reading_ok ha] at hf
          cases hf

/-- **A change that could not be taken over** is counted as an error, and no results are kept. The
    index is as before if the store is not available; otherwise it holds half of a flawed record. -/
structure NotFollowed (env : Surroundings) (c : Change) (before after : Desk) : Prop where
  cache : after.cache = before.cache.map Cache.clear
  metrics : after.metrics = before.metrics
  errors : before.errors.CountsOne "index" after.errors
  index : env.store.available = false ∧ after.index = before.index ∨
    ∃ r, env.store.fetch c.kind c.id = .ok (some r) ∧ before.index.HalfFiled r after.index

theorem follow_failed (h : s.desk.InOrder) (hfail : (s.follow env c).answer = .ok false) :
    NotFollowed env c s.desk (s.follow env c).session.desk := by
  unfold follow at hfail ⊢
  dsimp only at hfail ⊢
  split at hfail
  · cases hfail
  next f hflaw =>
    refine ⟨rfl, rfl, ErrorLog.countsOne_record _ env.now "index" f .medium _, ?_⟩
    refine (indexAfter_flawed hflaw).imp_right fun hflawed => ?_
    obtain ⟨r, hr, hadd⟩ := hflawed
    rw [hadd] at hflaw ⊢
    exact ⟨r, hr, h.index.halfFiled env.now hflaw⟩

/-- **An index that could not be built anew** stays as it is, and so do the kept results. -/
structure NotRebuilt (before after : Desk) : Prop where
  index : after.index = before.index
  cache : after.cache = before.cache
  metrics : after.metrics = before.metrics
  errors : before.errors.CountsOne "index" after.errors

theorem rebuild_failed (hfail : (s.rebuild env).answer = .ok false) :
    NotRebuilt s.desk (s.rebuild env).session.desk := by
  unfold rebuild at hfail ⊢
  split at hfail
  · split at hfail
    · cases hfail
    · cases hfail
  · exact ⟨rfl, rfl, rfl, ErrorLog.countsOne_record _ env.now "index" _ .high _⟩

/-- **A deletion is taken over**, whether or not the store is available. -/
theorem follow_delete (h : s.desk.InOrder) (hc : c.operation = .delete) :
    (s.follow env c).answer = .ok true ∧
      (s.follow env c).session.desk.index.contains c.kind c.id = false ∧
      ∀ q, c.id ∉ (s.follow env c).session.desk.index.find c.kind q := by
  have hafter : indexAfter s.desk.index env c =
      (s.desk.index.remove env.now c.kind c.id, none) := by
    unfold indexAfter
    rw [hc]
  unfold follow
  rw [hafter]
  exact ⟨rfl, h.index.gone env.now c.kind c.id⟩

/-! ## 5. Every state -/

/-- **What may happen to a session.** -/
inductive Task where
  /-- The session is called, or milliseconds pass. -/
  | deed (d : Deed)
  /-- Several searches are asked for in the same moment. -/
  | race (env : Surroundings) (queries : List Json)
  /-- A query is answered by the desk, past the session. -/
  | execute (env : Surroundings) (asked : Json) (f : Panel)
  | rebuild (env : Surroundings)
  | follow (env : Surroundings) (c : Change)
  | cleanup (env : Surroundings)
  /-- Something is done of which the desk knows nothing: the history is changed, a search is saved,
      or another query is put in place. -/
  | aside (f : Session → Session) (hf : ∀ s, (f s).desk = s.desk)

/-- What a task leaves. -/
def Task.apply (p : Precision) (s : Session) : Task → Session
  | deed d => (step p s d).1
  | race env queries => (s.race p env queries).session
  | execute env asked f => { s with desk := (s.desk.execute p env asked f).1 }
  | rebuild env => (s.rebuild env).session
  | follow env c => (s.follow env c).session
  | cleanup env => (s.cleanup p env).1
  | aside f _ => f s

/-- A session after some tasks. -/
def after (p : Precision) (s : Session) (tasks : List Task) : Session :=
  tasks.foldl (Task.apply p) s

variable {p : Precision}

/-- A desk that was asked for a query is still in order. -/
theorem Asks.inOrder {f : Panel} {d d' : Desk} (hd : Asks p env f d d') (h : d.InOrder) :
    d'.InOrder := by
  rcases hd with rfl | ⟨asked, rfl⟩
  · exact h
  · exact h.execute p env asked f

/-- A desk whose index is in order and that keeps nothing is in order. -/
theorem inOrder_of_nil {d : Desk} (hindex : d.index.InOrder) (h : d.entries = []) : d.InOrder :=
  ⟨hindex, fun e he => by rw [h] at he; cases he⟩

/-- The index stays in order with every change, whatever becomes of it. -/
theorem inOrder_follow (h : s.desk.InOrder) (env : Surroundings) (c : Change) :
    (s.follow env c).session.desk.InOrder := by
  refine inOrder_of_nil ?_ (s.follow_entries env c)
  rw [(s.follow_eq env c).1]
  unfold indexAfter
  split
  · exact h.index.remove env.now c.kind c.id
  · split
    · exact h.index.add env.now _
    · exact h.index.remove env.now c.kind c.id
    · exact h.index

/-- An index that is built anew is in order, whatever it was built of. -/
theorem inOrder_rebuild (h : s.desk.InOrder) (env : Surroundings) :
    (s.rebuild env).session.desk.InOrder := by
  unfold rebuild
  split
  next records _ =>
    split
    next index hbuild =>
      have hindex := Index.InOrder.build s.settings.index.titleSample env.now records
      rw [hbuild] at hindex
      exact inOrder_of_nil hindex (Desk.entries_forget _ (fun _ => rfl) _ _ _)
    next => exact h
  next => exact ⟨h.index, h.kept⟩

/-- What has not expired was kept before. -/
theorem inOrder_cleanup (h : s.desk.InOrder) (env : Surroundings) :
    (s.cleanup p env).1.desk.InOrder :=
  ⟨h.index, fun e he => h.kept e (entries_cleanup he)⟩

/-- **Every task leaves the desk in order.** -/
theorem inOrder_apply (h : s.desk.InOrder) (t : Task) : (t.apply p s).desk.InOrder := by
  cases t with
  | deed d =>
      cases d with
      | call env c =>
          obtain ⟨f, hasks⟩ : ∃ f, Asks p env f s.desk (c.apply p env s).1.desk := asks_call s c
          exact hasks.inOrder h
      | pass env ms => exact (asks_elapse s ms).inOrder h
  | race env queries => exact (asks_race queries s).inOrder h
  | execute env asked f => exact h.execute p env asked f
  | rebuild env => exact inOrder_rebuild h env
  | follow env c => exact inOrder_follow h env c
  | cleanup env => exact inOrder_cleanup h env
  | aside f hf =>
      show (f s).desk.InOrder
      rw [hf]
      exact h

/-- **Every run leaves the desk in order.** -/
theorem inOrder_after : ∀ (tasks : List Task) {s : Session}, s.desk.InOrder →
    (s.after p tasks).desk.InOrder
  | [], _, h => h
  | t :: tasks, _, h => inOrder_after tasks (inOrder_apply h t)

/-- The desk of a new session is in order. -/
theorem inOrder_start {settings : Settings} {file : StateFile} {now : Moment}
    (h : Session.start settings file now = .ok s) : s.desk.InOrder := by
  obtain ⟨history, -, h⟩ := bind_eq_ok.mp h
  cases h
  refine inOrder_of_nil (.empty _ now) ?_
  unfold newDesk newCache Desk.entries
  dsimp only
  split
  · rfl
  · rfl

/-- **What failures leave behind**, in whatever state a session is that was started and used. A
    change that could not be taken over is counted as one error of the index, and no results are
    kept; the index is as before unless the store gave a flawed record. An index that could not be
    built anew is counted in the same way, and all else is as before. A failed search is counted as
    one error of the search; index and metrics are as before, and no results are kept that were not
    kept before. A deletion is taken over in any case: the record is neither filed nor found any
    more. -/
theorem failures_contained (p : Precision) {settings : Settings} {file : StateFile} {now : Moment}
    {start : Session} (hstart : Session.start settings file now = .ok start) (tasks : List Task)
    (env : Surroundings) :
    let s := start.after p tasks
    (∀ c, (s.follow env c).answer = .ok false →
      NotFollowed env c s.desk (s.follow env c).session.desk) ∧
    ((s.rebuild env).answer = .ok false → NotRebuilt s.desk (s.rebuild env).session.desk) ∧
    (∀ asked f r words, (s.desk.execute p env asked f).2 = .ok r → r.failure = some words →
      "Search failed".toList <+: words →
      Desk.Failed s.desk (s.desk.execute p env asked f).1) ∧
    ∀ c, c.operation = .delete → (s.follow env c).answer = .ok true ∧
      (s.follow env c).session.desk.index.contains c.kind c.id = false ∧
      ∀ q, c.id ∉ (s.follow env c).session.desk.index.find c.kind q := by
  intro s
  have h : s.desk.InOrder := inOrder_after tasks (inOrder_start hstart)
  exact ⟨fun c hfail => follow_failed h hfail, rebuild_failed,
    fun asked f r words hr hf hwords => h.execute_failed hr hf hwords,
    fun c hc => follow_delete h hc⟩

/-- A store with one activity, whose window title should be a text. -/
def storeWith (title : Json) : Store :=
  .put .empty (.activity ⟨"a1".toList, .str "Editor".toList, some default, none, title, .null,
    .null, false⟩)

/-- The activity comes first with a title, and then with a number in its place. -/
theorem failures_contained_flawed :
    let captured : Change := ⟨.activity, "a1".toList, .update⟩
    let s := plain.after .double [.follow (.still (storeWith (.str "draft".toList))) captured]
    let i := (s.follow (.still (storeWith (.int 5))) captured).session.desk.index
    "a1".toList ∈ i.find .activity "editor".toList ∧
      "a1".toList ∉ i.find .activity "draft".toList := by
  intro captured s i
  obtain ⟨hfollow, -, -, -⟩ := failures_contained .double start_plain
    [.follow (.still (storeWith (.str "draft".toList))) captured] (.still (storeWith (.int 5)))
  have hanswer : (s.follow (.still (storeWith (.int 5))) captured).answer = .ok false := by rfl
  obtain ⟨-, -, -, hindex⟩ := hfollow captured hanswer
  rcases hindex with ⟨hunavailable, -⟩ | ⟨r, hr, hhalf⟩
  · cases hunavailable
  · cases hr
    exact ⟨(hhalf.found _).mpr (by decide +kernel),
      fun hm => absurd ((hhalf.found _).mp hm) (by decide +kernel)⟩

/-- **A flawed record changes the index though it could not be taken over.** -/
theorem flawed_not_restored :
    ¬ ∀ (settings : Settings) (file : StateFile) (now : Moment) (start : Session)
      (tasks : List Task) (env : Surroundings) (c : Change),
      Session.start settings file now = .ok start →
      ((start.after .double tasks).follow env c).answer = .ok false →
      ((start.after .double tasks).follow env c).session.desk.index =
        (start.after .double tasks).desk.index := by
  intro h
  have hsame := h {} .unused default plain
    [.follow (.still (storeWith (.str "draft".toList))) ⟨.activity, "a1".toList, .update⟩]
    (.still (storeWith (.int 5))) ⟨.activity, "a1".toList, .update⟩ start_plain rfl
  have hterms := congrArg
    (fun i : Index => (i.filings.get? (.activity, "a1".toList)).map (·.terms.length)) hsame
  revert hterms
  decide +kernel

end Session

end Worklog
