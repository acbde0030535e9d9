import Mathlib.Data.List.DropRight
import Worklog.Proofs.Text.Casing

/-!
# Blanks around a text

What is stripped off a text are blanks at its two ends, and all of them:

* `Text.exists_strip`: a text is what stripping leaves of it, with blanks around it;
* `Text.strip_eq_self`: a text without a blank at its ends is left as it is;
* **`Text.strip_append`**: blanks that are put around a text change nothing;
* **`Text.lower_strip`**: whether a text is stripped first or lower-cased first is all the same, as
  the case rules do not look beyond a blank.
-/

namespace Worklog.Text

/-! ## 1. Stripping -/

/-- A text of blanks; the empty one is among them. -/
def IsBlanks (t : Text) : Prop := ∀ c ∈ t, isBlank c = true

/-- A text neither starts nor ends with a blank. -/
structure IsBare (t : Text) : Prop where
  head : ∀ c, t.head? = some c → isBlank c = false
  last : ∀ c, t.getLast? = some c → isBlank c = false

variable {t l r : Text}

theorem stripEnd_eq (t : Text) : stripEnd t = t.rdropWhile isBlank := rfl

theorem stripEnd_append (hr : IsBlanks r) (t : Text) : stripEnd (t ++ r) = stripEnd t := by
  unfold stripEnd
  rw [List.reverse_append, List.dropWhile_append_of_pos]
  intro c hc
  exact hr c (List.mem_reverse.mp hc)

/-- **A text without blanks at its ends** is left as it is. -/
theorem strip_eq_self (h : IsBare t) : strip t = t := by
  have hfront : t.dropWhile isBlank = t := by
    cases t with
    | nil => rfl
    | cons c t => exact List.dropWhile_cons_of_neg (by simp [h.head c rfl])
  rw [strip, hfront, stripEnd_eq, List.rdropWhile_eq_self_iff]
  intro hne hblank
  rw [h.last _ (List.getLast?_eq_some_getLast hne)] at hblank
  cases hblank

/-- So is a text without any blank. -/
theorem strip_of_forall (h : ∀ c ∈ t, isBlank c = false) : strip t = t :=
  strip_eq_self ⟨fun c hc => h c (List.mem_of_head? hc), fun c hc => h c (List.mem_of_getLast? hc)⟩

/-- **A text is what stripping leaves of it**, with blanks around it. -/
theorem exists_strip (t : Text) :
    ∃ l r, IsBlanks l ∧ IsBlanks r ∧ t = l ++ strip t ++ r ∧ IsBare (strip t) := by
  let body := t.dropWhile isBlank
  have hbody : strip t ++ body.rtakeWhile isBlank = body := List.rdropWhile_append_rtakeWhile
  refine ⟨t.takeWhile isBlank, body.rtakeWhile isBlank, fun c hc => List.mem_takeWhile_imp hc,
    fun c hc => List.mem_rtakeWhile_imp hc, ?_, ?_, ?_⟩
  · rw [List.append_assoc, hbody, List.takeWhile_append_dropWhile]
  · intro c hc
    have hhead : body.head? = some c := by
      rw [← hbody, List.head?_append, hc]
      rfl
    have hnot := List.head?_dropWhile_not isBlank t
    rw [show (t.dropWhile isBlank).head? = some c from hhead] at hnot
    simpa using hnot
  · intro c hc
    have hne : body.rdropWhile isBlank ≠ [] := by
      intro hnil
      rw [strip, stripEnd_eq, hnil] at hc
      cases hc
    have hlast := List.rdropWhile_last_not isBlank body hne
    have hend : (strip t).getLast? = some ((body.rdropWhile isBlank).getLast hne) :=
      List.getLast?_eq_some_getLast hne
    rw [hc, Option.some.injEq] at hend
    rw [hend]
    simpa using hlast

/-- What is stripped once has nothing left to be stripped. -/
theorem strip_strip (t : Text) : strip (strip t) = strip t := by
  obtain ⟨l, r, -, -, -, hbare⟩ := exists_strip t
  exact strip_eq_self hbare

/-- **Blanks around a text change nothing.** -/
theorem strip_append (hl : IsBlanks l) (hr : IsBlanks r) (t : Text) :
    strip (l ++ t ++ r) = strip t := by
  unfold strip
  rw [List.append_assoc, List.dropWhile_append_of_pos hl, List.dropWhile_append]
  split
  next hempty =>
    have hrest : r.dropWhile isBlank = [] := List.dropWhile_eq_nil_iff.mpr hr
    rw [hrest, List.isEmpty_iff.mp hempty]
  next => exact stripEnd_append hr _

/-- A text with blanks around it is stripped of them. -/
theorem strip_of_isBare (hl : IsBlanks l) (hr : IsBlanks r) (ht : IsBare t) :
    strip (l ++ t ++ r) = t := by
  rw [strip_append hl hr, strip_eq_self ht]

/-! ## 2. Lower case -/

theorem IsBlanks.stays (hl : IsBlanks l) : ∀ c ∈ l, Text.stays c = true :=
  fun c hc => stays_of_isBlank (hl c hc)

/-- Case rules do not look beyond the blanks behind a text. -/
theorem startsCased_append (hr : IsBlanks r) : ∀ t : Text, startsCased (t ++ r) = startsCased t
  | [] => by
      cases r with
      | nil => rfl
      | cons c r =>
          have hc := hr c List.mem_cons_self
          simp [startsCased, isIgnorable_of_isBlank hc, isCased_of_isBlank hc]
  | c :: t => by
      have ih := startsCased_append hr t
      unfold startsCased at ih ⊢
      by_cases hc : isIgnorable c = true
      · rw [List.cons_append, List.dropWhile_cons_of_pos hc, List.dropWhile_cons_of_pos hc]
        exact ih
      · rw [List.cons_append, List.dropWhile_cons_of_neg hc, List.dropWhile_cons_of_neg hc]

theorem lowerFrom_append_blanks (hr : IsBlanks r) : ∀ (t : Text) (inWord : Bool),
    lowerFrom inWord (t ++ r) = lowerFrom inWord t ++ r
  | [], _ => lowerFrom_of_stays hr.stays
  | c :: t, inWord => by
      have hin : lowerIn inWord c (t ++ r) = lowerIn inWord c t := by
        unfold lowerIn
        rw [startsCased_append hr]
      rw [List.cons_append, lowerFrom, hin, lowerFrom_append_blanks hr t, lowerFrom,
        List.append_assoc]

/-- Nor do they look in front of the blanks before it. -/
theorem lower_blanks_append (t : Text) : ∀ {l : Text}, IsBlanks l → lower (l ++ t) = l ++ lower t
  | [], _ => rfl
  | c :: l, hl => by
      have hc := hl c List.mem_cons_self
      rw [List.cons_append, lower, lowerFrom, lowerIn_of_stays (stays_of_isBlank hc),
        isIgnorable_of_isBlank hc, isCased_of_isBlank hc]
      exact congrArg (c :: ·) (lower_blanks_append t fun d hd => hl d (List.mem_cons_of_mem c hd))

/-- A text in lower case ends with a blank only if the text does. -/
theorem not_isBlank_of_getLast_lowerFrom {c : Char} : ∀ {t : Text} {inWord : Bool},
    (∀ d, t.getLast? = some d → isBlank d = false) →
    (lowerFrom inWord t).getLast? = some c → isBlank c = false
  | [], _, _, hc => nomatch hc
  | [d], inWord, h, hc => by
      rw [lowerFrom, lowerFrom, List.append_nil] at hc
      exact not_isBlank_of_mem_lowerIn (h d rfl) (List.mem_of_getLast? hc)
  | d :: e :: t, inWord, h, hc => by
      rw [lowerFrom, List.getLast?_append] at hc
      rcases Option.or_eq_some_iff.mp hc with hc | ⟨hnone, -⟩
      · refine not_isBlank_of_getLast_lowerFrom (fun f hf => h f ?_) hc
        rw [List.getLast?_cons_cons]
        exact hf
      · cases lowerFrom_eq_nil (List.getLast?_eq_none_iff.mp hnone)

theorem IsBare.lower (h : IsBare t) : IsBare (lower t) := by
  refine ⟨?_, fun c hc => not_isBlank_of_getLast_lowerFrom h.last hc⟩
  intro c hc
  cases t with
  | nil => cases hc
  | cons d t =>
      obtain ⟨e, rest, he⟩ := List.exists_cons_of_ne_nil (lowerIn_ne_nil false d t)
      rw [Text.lower, lowerFrom, he] at hc
      obtain rfl : e = c := Option.some.inj hc
      exact not_isBlank_of_mem_lowerIn (h.head d rfl) (he ▸ List.mem_cons_self)

/-- **Stripping and lower-casing** may change places. -/
theorem lower_strip (t : Text) : lower (strip t) = strip (lower t) := by
  obtain ⟨l, r, hl, hr, ht, hbare⟩ := exists_strip t
  have hlower : lower t = l ++ lower (strip t) ++ r := by
    conv_lhs => rw [ht]
    rw [List.append_assoc, lower_blanks_append _ hl, lower, lowerFrom_append_blanks hr,
      List.append_assoc]
    rfl
  rw [hlower, strip_of_isBare hl hr hbare.lower]

end Worklog.Text
