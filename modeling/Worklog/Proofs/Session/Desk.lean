import Worklog.Proofs.Search.Fresh
import Worklog.Proofs.Session.Run
import Worklog.Session.Upkeep

/-!
# What a session asks of its desk

Whatever is asked of a session, its desk answers one query at most, under the settings of one panel;
nothing else is done to the desk. When the index changes, the desk forgets what it kept:

* `Session.Asks`: a session has its desk as it was, or as it is behind one query;
* `Session.asks_searchNow`, `asks_elapse`, `asks_race`: so it is with every search;
* **`Session.asks_call`**: and with every call;
* `Session.rebuild_entries`, `follow_entries`: whoever changes the index forgets all results.
-/

namespace Worklog

theorem Desk.entries_forget (cache : Option Cache) {clear : Cache → Cache}
    (h : ∀ c, (clear c).entries = []) (index : Index) (metrics : Metrics) (errors : ErrorLog) :
    (⟨index, cache.map clear, metrics, errors⟩ : Desk).entries = [] := by
  cases cache with
  | none => rfl
  | some c => exact h c

namespace Session

/-! ## 1. Queries -/

variable {p : Precision} {s : Session} {env : Surroundings} {f : Panel}

/-- **A desk was asked for one query at most**, under the settings of a panel. -/
def Asks (p : Precision) (env : Surroundings) (f : Panel) (before after : Desk) : Prop :=
  after = before ∨ ∃ asked, after = (before.execute p env asked f).1

theorem desk_receive (s : Session) (r : Results) : (s.receive r).session.desk = s.desk := by
  unfold receive remember
  dsimp only
  split
  · rfl
  · split
    next h => rw [← (Prod.mk.inj h).1]
    next h => rw [← (Prod.mk.inj h).1]
  · rfl

/-- A search of the session is answered by its desk. -/
theorem desk_perform (p : Precision) (s : Session) (env : Surroundings) :
    (s.perform p env).session.desk = (s.desk.execute p env s.query s.panel).1 := by
  unfold perform
  dsimp only
  split
  · exact desk_receive _ _
  · rfl

/-- A search at once asks the desk for one query at most. -/
theorem asks_searchNow (s : Session) (query : Json) :
    Asks p env s.panel s.desk (s.searchNow p env query).session.desk := by
  unfold searchNow
  dsimp only
  split
  · exact Or.inr ⟨_, desk_perform p (s.aim query).settle env⟩
  · exact Or.inl rfl
  · exact Or.inl rfl

/-- So does a search whose time has come. -/
theorem asks_elapse (s : Session) (ms : Rat) :
    Asks p env s.panel s.desk (s.elapse p env ms).1.desk := by
  unfold elapse
  dsimp only
  split
  · exact Or.inl rfl
  · split
    · exact Or.inr ⟨_, desk_perform p _ env⟩
    · exact Or.inl rfl

/-- A search that another one overtakes asks nothing. -/
theorem overtaken_same (s : Session) (query : Json) :
    (s.overtaken query).1.desk = s.desk ∧ (s.overtaken query).1.panel = s.panel := by
  unfold overtaken
  dsimp only
  split
  · exact ⟨rfl, rfl⟩
  · exact ⟨rfl, rfl⟩
  · exact ⟨rfl, rfl⟩

/-- Of searches in the same moment the last one only asks the desk. -/
theorem asks_race : ∀ (queries : List Json) (s : Session),
    Asks p env s.panel s.desk (s.race p env queries).session.desk
  | [], _ => Or.inl rfl
  | [q], s => asks_searchNow s q
  | q :: q' :: rest, s => by
      obtain ⟨hdesk, hpanel⟩ := overtaken_same s q
      have hrest := asks_race (q' :: rest) (s.overtaken q).1
      rwa [hdesk, hpanel] at hrest

/-- **A call asks the desk for one query at most.** -/
theorem asks_call (s : Session) (c : Call) :
    ∃ f, Asks p env f s.desk (c.apply p env s).1.desk := by
  cases c with
  | type q =>
      refine ⟨s.panel, Or.inl ?_⟩
      show (s.schedule p q).1.desk = s.desk
      unfold schedule
      dsimp only
      split
      · split
        · rfl
        · rfl
      · rfl
      · rfl
  | search q => exact ⟨s.panel, asks_searchNow s q⟩
  | applyPanel f => exact ⟨f, asks_searchNow { s with panel := f } .null⟩
  | clearPanel => exact ⟨.blank, asks_searchNow { s with panel := .blank } .null⟩
  | restore position =>
      show ∃ f, Asks p env f s.desk (s.restore p env position).session.desk
      unfold restore
      split
      · exact ⟨s.panel, Or.inl rfl⟩
      next history saved _ =>
        split
        · exact ⟨s.panel, Or.inl rfl⟩
        · exact ⟨saved.panel, asks_searchNow
            { s with history, query := saved.query, panel := saved.panel } .null⟩
  | clear => exact ⟨s.panel, Or.inl rfl⟩

/-! ## 2. Upkeep -/

/-- A rebuilt index comes with a desk that keeps no results; otherwise all stays as it is. -/
theorem rebuild_entries (s : Session) (env : Surroundings) :
    (s.rebuild env).session.desk.entries = [] ∨
      (s.rebuild env).answer ≠ .ok true ∧
        (s.rebuild env).session.desk.index = s.desk.index ∧
        (s.rebuild env).session.desk.entries = s.desk.entries := by
  unfold rebuild
  split
  · split
    · exact Or.inl (Desk.entries_forget _ (fun _ => rfl) _ _ _)
    · exact Or.inr ⟨(fun h => nomatch h), rfl, rfl⟩
  · exact Or.inr ⟨(fun h => nomatch h), rfl, rfl⟩

/-- After a change no results are kept. -/
theorem follow_entries (s : Session) (env : Surroundings) (c : Change) :
    (s.follow env c).session.desk.entries = [] := by
  unfold follow
  dsimp only
  split
  · exact Desk.entries_forget _ (fun _ => rfl) _ _ _
  · exact Desk.entries_forget _ (fun _ => rfl) _ _ _

/-- Dropping what has expired leaves nothing new. -/
theorem entries_cleanup {e : CacheEntry} (he : e ∈ (s.cleanup p env).1.desk.entries) :
    e ∈ s.desk.entries := by
  cases hc : s.desk.cache with
  | none =>
      unfold cleanup Desk.entries at he
      rw [hc] at he
      cases he
  | some c =>
      have hafter : (s.cleanup p env).1.desk.cache = some (c.cleanup p env.clock) := by
        unfold cleanup
        rw [hc]
        rfl
      rw [Desk.mem_entries hafter] at he
      exact (Desk.mem_entries hc).mpr (Cache.mem_cleanup he)

end Session

end Worklog
