import Worklog.ErrorLog
import Worklog.Proofs.Table

/-!
# What the error log says after a run

The log has three views: the latest errors, what is shown of them, and the numbers of errors of the
components. All three can be told from the errors noted since the log was cleared last.

* `ErrorLog.Use`, `ErrorLog.run`, `ErrorLog.noted`: what may be done with a log, and the errors
  noted since it was cleared;
* **`ErrorLog.Shows.apply`**: one use keeps the views in step with those errors;
* **`ErrorLog.run_shows`**: the views after any run;
* `ErrorLog.recent_none_shows_all`: **asked for none of its errors, the log shows all** it has.
-/

namespace Worklog

namespace ErrorLog

/-! ## 1. Runs -/

/-- **What may be done with a log.** -/
inductive Use where
  | record (m : Mishap)
  | clear

namespace Use

/-- What a use leaves of a log. -/
def apply (l : ErrorLog) : Use → ErrorLog
  | record m => l.record m
  | clear => l.clear

/-- The error that a use notes, if it does. -/
def mishap? : Use → Option Mishap
  | record m => some m
  | clear => none

/-- Whether a use notes an error. -/
def notes (u : Use) : Bool := u.mishap?.isSome

end Use

/-- **A log after some uses.** -/
def run (l : ErrorLog) (us : List Use) : ErrorLog := us.foldl Use.apply l

/-- **The errors noted since a log was cleared last**, or since the start. -/
def noted (us : List Use) : List Mishap := (us.rtakeWhile Use.notes).filterMap Use.mishap?

theorem run_concat (l : ErrorLog) (us : List Use) (u : Use) :
    l.run (us ++ [u]) = u.apply (l.run us) := List.foldl_concat ..

theorem noted_record (us : List Use) (m : Mishap) :
    noted (us ++ [.record m]) = noted us ++ [m] := by
  unfold noted
  rw [List.rtakeWhile_concat_pos _ _ _ rfl, List.filterMap_append]
  rfl

theorem noted_clear (us : List Use) : noted (us ++ [.clear]) = [] := by
  unfold noted
  rw [List.rtakeWhile_concat_neg _ _ _ Bool.false_ne_true]
  rfl

/-! ## 2. Views -/

/-- **A log shows some errors**: it keeps the latest of them, and counts them all by component. -/
structure Shows (room : Nat) (ms : List Mishap) (l : ErrorLog) : Prop where
  capacity : l.capacity = room
  kept : l.kept = ms.rtake room
  counts : l.counts.Counts (ms.map (·.component))

namespace Shows

variable {room : Nat} {ms : List Mishap} {l : ErrorLog} (h : l.Shows room ms)

theorem empty (room : Nat) : (ErrorLog.empty room).Shows room [] :=
  ⟨rfl, (List.rtake_nil ..).symm, .nil⟩

include h

/-- One error more. -/
theorem record (m : Mishap) : (l.record m).Shows room (ms ++ [m]) where
  capacity := h.capacity
  kept := by
    show pushLatest l.capacity l.kept m = _
    rw [h.capacity, h.kept, pushLatest_rtake]
  counts := by
    rw [List.map_append]
    exact (h.counts.up m.component).of_perm (List.perm_append_singleton _ _).symm

/-- A log that is cleared shows none. -/
theorem clear : l.clear.Shows room [] := by
  rw [← h.capacity]
  exact .empty l.capacity

/-- The count of a component. -/
theorem get?_counts (c : Text) : l.counts.get? c =
    if ms.countP (·.component = c) = 0 then none else some (ms.countP (·.component = c)) := by
  rw [h.counts.get?_eq]
  simp only [List.count, List.countP_map, Function.comp_def, beq_eq_decide]

end Shows

/-- **Each use keeps the views in step** with the errors noted since the log was cleared. -/
theorem Shows.apply {room : Nat} {us : List Use} {l : ErrorLog} (h : l.Shows room (noted us))
    (u : Use) : (u.apply l).Shows room (noted (us ++ [u])) := by
  cases u with
  | record m =>
      rw [noted_record]
      exact h.record m
  | clear =>
      rw [noted_clear]
      exact h.clear

theorem shows_run (room : Nat) (us : List Use) :
    ((empty room).run us).Shows room (noted us) := by
  induction us using List.reverseRecOn with
  | nil => exact .empty room
  | append_singleton us u ih =>
      rw [run_concat]
      exact ih.apply u

/-! ## 3. All runs -/

/-- **The views of a log after any run.** It keeps the latest errors that were noted since it was
    cleared, as many as it has room for. Asked for the latest `n` of what it keeps it shows just
    these, oldest first, if `n` is not zero; asked for none it shows all. The last error is the last
    that was noted. A component has a count if it had an error since the log was cleared, and the
    count is the number of its errors, kept or not. -/
theorem run_shows {capacity : Int} (h : 0 < capacity) (us : List Use) :
    ∃ l, ofCapacity capacity = .ok l ∧
      (l.run us).kept = (noted us).rtake capacity.toNat ∧
      (∀ n : Nat, 0 < n →
        (l.run us).recent n = (l.run us).kept.rtake (min n (l.run us).kept.length)) ∧
      (l.run us).recent 0 = (l.run us).kept ∧
      (l.run us).last? = (l.run us).kept.getLast? ∧
      (l.run us).last? = (noted us).getLast? ∧
      ∀ c, (l.run us).counts.get? c =
        if (noted us).countP (·.component = c) = 0 then none
        else some ((noted us).countP (·.component = c)) := by
  have hpos : 0 < capacity.toNat := by omega
  have hshows := shows_run capacity.toNat us
  refine ⟨empty capacity.toNat, if_neg (by omega), hshows.kept, fun n hn => ?_, back_zero _, rfl,
    ?_, hshows.get?_counts⟩
  · show back n _ = _
    rw [back_of_pos hn]
    unfold List.rtake
    congr 1
    omega
  · show List.getLast? _ = _
    rw [hshows.kept, getLast?_rtake hpos]

/-- An error of a component, for the cases below. -/
def errorOf (component : String) : Mishap :=
  .ofFault ⟨63853747200000000, by decide⟩ component .storeUnavailable .medium []

/-- Three errors of two components since a log with room for two was cleared: the first of them is
    counted and no longer kept. -/
theorem run_shows_two :
    let us : List Use := [.record (errorOf "index"), .clear, .record (errorOf "search"),
      .record (errorOf "index"), .record (errorOf "search")]
    0 < (2 : Int) ∧ ∃ l, ofCapacity 2 = .ok l ∧
      (l.run us).kept = [errorOf "index", errorOf "search"] ∧
      (l.run us).recent 1 = [errorOf "search"] ∧
      (l.run us).counts.get? "search".toList = some 2 ∧
      (l.run us).counts.get? "index".toList = some 1 := by
  intro us
  obtain ⟨l, hl, hkept, hrecent, -, -, -, hcounts⟩ := run_shows (by decide : 0 < (2 : Int)) us
  have hkept' : (l.run us).kept = [errorOf "index", errorOf "search"] := hkept
  refine ⟨by decide, l, hl, hkept', ?_, hcounts _, hcounts _⟩
  have hlast := hrecent 1 Nat.one_pos
  rwa [hkept'] at hlast

/-- **Asked for none of its errors, the log shows all** it has: here the only one. -/
theorem recent_none_shows_all :
    let l := (empty 2).run [.record (errorOf "search")]
    l.recent 0 = [errorOf "search"] ∧ l.recent 0 ≠ l.kept.rtake (min 0 l.kept.length) := by
  intro l
  exact ⟨rfl, List.cons_ne_nil _ _⟩

end ErrorLog

end Worklog
