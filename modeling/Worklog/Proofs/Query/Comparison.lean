import Worklog.Proofs.Query.Duration
import Worklog.Proofs.Text.Origin
import Worklog.Query.Reading

/-!
# Comparisons in lower case

A comparison is recognized in any letter case, and nothing but a comparison becomes one in lower
case: of the characters that become a letter of `duration`, each counts as that letter already.

* `Query.isLetter_of_mem_lowerIn`: so it is for a single letter;
* `Query.afterWord?_lowerFrom`: and for the word in front of a comparison;
* **`Query.comparison?_lower`**: what is a comparison in lower case was one before, with the same
  value but for letter case.
-/

namespace Worklog.Query

open Worklog.Text

/-! ## 1. Letters -/

/-- The letters of the words that start a comparison. -/
def letters : List Char := "duration".toList

/-- The letters, and the dotless `i`, are not far off: no run of the mapping beyond the capital
    letters moves anything to them. -/
theorem not_isFar_of_mem : (Char.ofNat 0x131 :: letters).all (!isFar ·) = true := by decide +kernel

theorem toUpper_of_mem_letters : ∀ w ∈ letters, Char.ofNat (w.toNat - 32) = w.toUpper :=
  forall_mem_of_all (by decide)

/-- A lower-cased character that counts as a letter is the letter, or the dotless `i`. -/
theorem eq_of_isLetter {w d : Char} (hw : w ∈ letters) (hstays : Text.stays d = true)
    (h : isLetter w d = true) : d = w ∨ d = Char.ofNat 0x131 := by
  have hmoves : ∀ w ∈ letters, Text.stays w.toUpper = false := forall_mem_of_all (by decide)
  simp only [isLetter, Bool.or_eq_true, Bool.and_eq_true, beq_iff_eq] at h
  rcases h with (h | h) | ⟨-, h | h⟩
  · exact Or.inl h
  · rw [h, hmoves w hw] at hstays
    cases hstays
  · rw [h] at hstays
    exact absurd hstays (by decide)
  · exact Or.inr h

theorem isLetter_toUpper (w : Char) : isLetter w w.toUpper = true := by
  simp [isLetter]

/-- **What becomes a letter** counts as that letter already. -/
theorem isLetter_of_mem_lowerIn {w c d : Char} {inWord : Bool} {rest : Text} (hw : w ∈ letters)
    (h : d ∈ lowerIn inWord c rest) (hd : isLetter w d = true) : isLetter w c = true := by
  have hstays : Text.stays d = true := by
    rcases mem_lowerIn h with ⟨rfl, hc⟩ | ⟨-, hc, -⟩
    · exact hc
    · exact hc
  have hdw := eq_of_isLetter hw hstays hd
  cases origin_of_mem_lowerIn h with
  | same => exact hd
  | capital hlow hhigh hshift =>
      have hwd : d = w := hdw.resolve_right fun e => by
        have hbig : d.toNat = 0x131 := by rw [e]; rfl
        omega
      have hcw : c = w.toUpper := by
        rw [← toUpper_of_mem_letters w hw, ← hwd, hshift, Nat.add_sub_cancel, Char.ofNat_toNat]
      rw [hcw]
      exact isLetter_toUpper w
  | dotted hdots =>
      have hall : ∀ w ∈ letters,
          isLetter w (Char.ofNat 0x69) = true ∨ isLetter w (Char.ofNat 0x307) = true →
          isLetter w (Char.ofNat 0x130) = true := forall_mem_of_all (by decide)
      rcases hdots with rfl | rfl
      · exact hall w hw (Or.inl hd)
      · exact hall w hw (Or.inr hd)
  | far hfar =>
      have hmem : d ∈ Char.ofNat 0x131 :: letters := by
        rcases hdw with rfl | rfl
        · exact List.mem_cons_of_mem _ hw
        · exact List.mem_cons_self
      have hnear := List.all_eq_true.mp not_isFar_of_mem d hmem
      rw [hfar] at hnear
      cases hnear

/-! ## 2. Words -/

theorem afterWord?_cons (w : Char) (ws : Text) (c : Char) (t : Text) :
    afterWord? (w :: ws) (c :: t) = if isLetter w c then afterWord? ws t else none := rfl

theorem afterWord?_append (ws ws' : Text) : ∀ t : Text,
    afterWord? (ws ++ ws') t = (afterWord? ws t).bind (afterWord? ws') := by
  induction ws with
  | nil => exact fun _ => rfl
  | cons w ws ih =>
      intro t
      cases t with
      | nil => rfl
      | cons c t =>
          rw [List.cons_append, afterWord?_cons, afterWord?_cons]
          split
          · exact ih t
          · rfl

theorem suffix_of_afterWord? : ∀ {ws t r : Text}, afterWord? ws t = some r → r <:+ t
  | [], _, _, h => by
      cases h
      exact List.suffix_refl _
  | _ :: _, [], _, h => nomatch h
  | w :: ws, c :: t, r, h => by
      rw [afterWord?_cons] at h
      split at h
      · exact (suffix_of_afterWord? h).trans (List.suffix_cons c t)
      · cases h

/-- A dot above is no part of a word, and does not follow one. -/
theorem afterWord?_dot {ws t rest : Text} {s : Char} (hws : ∀ w ∈ ws, w ∈ letters)
    (hsmall : s.toNat ≤ 0x60) : afterWord? ws (Char.ofNat 0x307 :: t) ≠ some (s :: rest) := by
  have hnone : ∀ w ∈ letters, isLetter w (Char.ofNat 0x307) = false :=
    forall_mem_of_all (by decide)
  cases ws with
  | nil =>
      intro h
      cases h
      exact absurd hsmall (by decide)
  | cons w ws =>
      intro h
      rw [afterWord?_cons, hnone w (hws w List.mem_cons_self)] at h
      cases h

/-- **What follows a word in lower case** followed it before, if it starts with a sign. -/
theorem afterWord?_lowerFrom {s : Char} (hstays : Text.stays s = true) (hsmall : s.toNat ≤ 0x60) :
    ∀ {ws x rest : Text} {inWord : Bool}, (∀ w ∈ ws, w ∈ letters) →
      afterWord? ws (lowerFrom inWord x) = some (s :: rest) →
      ∃ inWord' y, afterWord? ws x = some (s :: y) ∧ rest = lowerFrom inWord' y
  | [], [], _, _, _, h => nomatch h
  | _ :: _, [], _, _, _, h => nomatch h
  | [], c :: x, rest, inWord, _, h => by
      have hlower :
          lowerIn inWord c x ++ lowerFrom (if isIgnorable c then inWord else isCased c) x =
            s :: rest := Option.some.inj h
      have hmem : s ∈ lowerIn inWord c x := by
        obtain ⟨d, more, hd⟩ := List.exists_cons_of_ne_nil (lowerIn_ne_nil inWord c x)
        rw [hd] at hlower ⊢
        rw [(List.cons.inj hlower).1]
        exact List.mem_cons_self
      have hsame : s = c := by
        rcases mem_lowerIn hmem with ⟨e, -⟩ | ⟨-, -, -, hbig⟩
        · exact e
        · omega
      subst hsame
      rw [lowerIn_of_stays hstays] at hlower
      exact ⟨_, x, rfl, (List.cons.inj hlower).2.symm⟩
  | w :: ws, c :: x, rest, inWord, hws, h => by
      have hw : w ∈ letters := hws w List.mem_cons_self
      have hrest : ∀ v ∈ ws, v ∈ letters := fun v hv => hws v (List.mem_cons_of_mem w hv)
      rw [lowerFrom] at h
      rcases lowerIn_eq inWord c x with ⟨d, hd⟩ | hdot
      · rw [hd, List.singleton_append, afterWord?_cons] at h
        split at h
        next hletter =>
          obtain ⟨inWord', y, hy, hlower⟩ := afterWord?_lowerFrom hstays hsmall hrest h
          have hc : isLetter w c = true :=
            isLetter_of_mem_lowerIn hw (hd ▸ List.mem_singleton_self d) hletter
          refine ⟨inWord', y, ?_, hlower⟩
          rw [afterWord?_cons, if_pos hc]
          exact hy
        next => cases h
      · rw [hdot, List.cons_append, List.singleton_append, afterWord?_cons] at h
        split at h
        · exact absurd h (afterWord?_dot hrest hsmall)
        · cases h

/-! ## 3. Comparisons -/

/-- A text without blanks is one line. -/
theorem onlyLine?_of_forall {t : Text} (h : ∀ c ∈ t, isBlank c = false) : onlyLine? t = some t := by
  have hnone : t.dropWhile (· != '\n') = [] := by
    rw [List.dropWhile_eq_nil_iff]
    intro c hc
    rw [bne_iff_ne]
    rintro rfl
    exact absurd (h _ hc) (by decide)
  unfold onlyLine?
  rw [hnone]

/-- The signs of a comparison. -/
def signs : List Char := ['>', '<']

/-- Without blanks, a comparison is a sign and its value, and the sign tells the bound. -/
theorem comparisonTail?_spec {t v : Text} {bound : LengthBound}
    (hblank : ∀ c ∈ t, isBlank c = false) (h : comparisonTail? t = some (bound, v)) :
    ∃ s ∈ signs, t = s :: v ∧
      ∀ v', (∀ c ∈ v', isBlank c = false) → comparisonTail? (s :: v') = some (bound, v') := by
  unfold comparisonTail? at h
  split at h
  next rest =>
    rw [onlyLine?_of_forall fun c hc => hblank c (List.mem_cons_of_mem _ hc)] at h
    cases h
    refine ⟨'>', by decide, rfl, fun v' hv' => ?_⟩
    rw [comparisonTail?, onlyLine?_of_forall hv']
    rfl
  next rest =>
    rw [onlyLine?_of_forall fun c hc => hblank c (List.mem_cons_of_mem _ hc)] at h
    cases h
    refine ⟨'<', by decide, rfl, fun v' hv' => ?_⟩
    rw [comparisonTail?, onlyLine?_of_forall hv']
    rfl
  next => cases h

/-- A comparison behind the short word is none behind the long one. -/
theorem comparison?_of_short {t : Text} {c : LengthBound × Text}
    (h : (afterWord? "dur".toList t >>= comparisonTail?) = some c) : comparison? t = some c := by
  obtain ⟨rest, hrest, htail⟩ := Option.bind_eq_some_iff.mp h
  have hlong : afterWord? "duration".toList t = none := by
    have hsplit := afterWord?_append "dur".toList "ation".toList t
    rw [hrest] at hsplit
    refine hsplit.trans ?_
    unfold comparisonTail? at htail
    split at htail
    · rfl
    · rfl
    · cases htail
  unfold comparison?
  rw [hlong, h]
  rfl

theorem comparisonBehind_lower {ws x v : Text} {bound : LengthBound}
    (hws : ∀ w ∈ ws, w ∈ letters) (hblank : ∀ c ∈ x, isBlank c = false)
    (h : (afterWord? ws (lower x) >>= comparisonTail?) = some (bound, v)) :
    ∃ inWord v', (afterWord? ws x >>= comparisonTail?) = some (bound, v') ∧
      v' <:+ x ∧ v = lowerFrom inWord v' := by
  have hsigns : ∀ s ∈ signs, Text.stays s = true ∧ s.toNat ≤ 0x60 :=
    forall_mem_of_all (by decide)
  obtain ⟨rest, hrest, htail⟩ := Option.bind_eq_some_iff.mp h
  have hlower : ∀ c ∈ rest, isBlank c = false := fun c hc => by
    obtain ⟨d, hd, hbecomes⟩ := exists_becomes ((suffix_of_afterWord? hrest).subset hc)
    rcases hbecomes with ⟨rfl, -⟩ | ⟨-, -, hc, -⟩
    · exact hblank c hd
    · exact hc
  obtain ⟨s, hs, rfl, hbound⟩ := comparisonTail?_spec hlower htail
  obtain ⟨hstays, hsmall⟩ := hsigns s hs
  obtain ⟨inWord, v', hv', hv⟩ := afterWord?_lowerFrom hstays hsmall hws hrest
  have hsuffix : v' <:+ x := (List.suffix_cons s v').trans (suffix_of_afterWord? hv')
  refine ⟨inWord, v', ?_, hsuffix, hv⟩
  rw [hv']
  exact hbound v' fun c hc => hblank c (hsuffix.subset hc)

/-- **What is a comparison in lower case was one before**, with the same value but for letter
    case. -/
theorem comparison?_lower {x v : Text} {bound : LengthBound}
    (hblank : ∀ c ∈ x, isBlank c = false) (h : comparison? (lower x) = some (bound, v)) :
    ∃ inWord v', comparison? x = some (bound, v') ∧ v' <:+ x ∧ v = lowerFrom inWord v' := by
  rcases Option.or_eq_some_iff.mp h with hlong | ⟨-, hshort⟩
  · obtain ⟨inWord, v', hv', hspec⟩ := comparisonBehind_lower
      (forall_mem_of_all (by decide)) hblank hlong
    refine ⟨inWord, v', ?_, hspec⟩
    unfold comparison?
    rw [hv']
    rfl
  · obtain ⟨inWord, v', hv', hspec⟩ := comparisonBehind_lower
      (forall_mem_of_all (by decide)) hblank hshort
    exact ⟨inWord, v', comparison?_of_short hv', hspec⟩

end Worklog.Query
