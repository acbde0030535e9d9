import Worklog.Text.Lowercase

/-!
# Lower case, once and for all

What lower-casing yields is left alone by lower-casing, and blanks neither come nor go. Both are
facts about the mapping of single characters, and so about its runs: `runs_apart` says of every run
that it moves nothing into a run of the mapping.

* `Text.stays`: a character that lower-casing leaves alone;
* **`Text.mem_lowerChar`**: what becomes of a character stays, and is no blank unless it was one;
* `Text.lower_of_stays`: a text whose characters stay is its own lower case;
* **`Text.lower_lower`**: lower-casing twice is lower-casing once.
-/

namespace Worklog.Text

/-! ## 1. Runs -/

namespace Run

/-- A run of which nothing moves. -/
def still (first last : Nat) : Run := ⟨first, last, 1, 0⟩

/-- Where a run moves its code points. -/
def moved (r : Run) : Run := { still (r.first + r.shift).toNat (r.last + r.shift).toNat with
  step := r.step }

/-- Two runs share nothing: one ends before the other starts, or they take turns. -/
def isApart (r s : Run) : Bool :=
  r.last.blt s.first || s.last.blt r.first ||
    ((r.step == 2 || r.first == r.last) && s.step == 2 && (r.first + s.first) % 2 == 1)

/-- A run moves its code points to characters behind the capital letters. -/
def isSound (r : Run) : Bool :=
  decide (0x60 < r.first + r.shift) && (decide (r.last + r.shift < 0xD800) ||
    (decide (0xDFFF < r.first + r.shift) && decide (r.last + r.shift < 0x110000)))

theorem covers_iff {r : Run} {n : Nat} : r.covers n = true ↔
    r.first ≤ n ∧ n ≤ r.last ∧ (n - r.first) % r.step = 0 := by
  simp only [covers, Bool.and_eq_true, decide_eq_true_eq, beq_iff_eq, and_assoc]

theorem covers_still {first last n : Nat} :
    (still first last).covers n = true ↔ first ≤ n ∧ n ≤ last := by
  rw [covers_iff]
  simp [still, Nat.mod_one]

/-- Runs that share nothing cover nothing together. -/
theorem not_covers {r s : Run} {n : Nat} (h : r.isApart s = true) (hn : r.covers n = true) :
    s.covers n = false := by
  rw [Bool.eq_false_iff, ne_eq, covers_iff]
  intro hm
  obtain ⟨hs, hs', hstep⟩ := hm
  obtain ⟨hr, hr', hstep'⟩ := covers_iff.mp hn
  simp only [isApart, Bool.or_eq_true, Bool.and_eq_true, Nat.blt_eq, beq_iff_eq] at h
  rcases h with (h | h) | ⟨⟨h | h, h2⟩, hodd⟩
  · omega
  · omega
  · rw [h] at hstep'
    rw [h2] at hstep
    omega
  · rw [h2] at hstep
    omega

/-- What a sound run covers, it moves to what the moved run covers, a character. -/
theorem covers_moved {r : Run} {n : Nat} (h : r.isSound = true) (hn : r.covers n = true) :
    r.moved.covers (n + r.shift).toNat = true ∧ 0x60 < (n + r.shift).toNat ∧
      (n + r.shift).toNat.isValidChar := by
  obtain ⟨hr, hr', hstep⟩ := covers_iff.mp hn
  simp only [isSound, Bool.or_eq_true, Bool.and_eq_true, decide_eq_true_eq] at h
  have hsub : (n + r.shift).toNat - (r.first + r.shift).toNat = n - r.first := by omega
  refine ⟨covers_iff.mpr ⟨?_, ?_, ?_⟩, by omega, ?_⟩
  · show (r.first + r.shift).toNat ≤ (n + r.shift).toNat
    omega
  · show (n + r.shift).toNat ≤ (r.last + r.shift).toNat
    omega
  · show ((n + r.shift).toNat - (r.first + r.shift).toNat) % r.step = 0
    rw [hsub]
    exact hstep
  · unfold Nat.isValidChar
    omega

end Run

/-- The blanks as runs. -/
def blankRuns : List Run := blankRanges.map fun r => .still r.1 r.2

theorem runs_sound : lowerRuns.all Run.isSound = true := by decide +kernel

/-- **No run of the mapping moves anything into another one**, to the dotted capital, or to a
    blank. -/
theorem runs_apart : lowerRuns.all (fun r =>
    (.still 0x130 0x130 :: lowerRuns ++ blankRuns).all r.moved.isApart) = true := by
  decide +kernel

/-- No run of the mapping holds a blank. -/
theorem runs_not_blank : lowerRuns.all (fun r => blankRuns.all r.isApart) = true := by
  decide +kernel

/-! ## 2. Single characters -/

/-- Whether lower-casing leaves a character alone. -/
def stays (c : Char) : Bool := c.toNat != 0x130 && !lowerRuns.any (·.covers c.toNat)

theorem isBlank_iff {c : Char} : isBlank c = true ↔ ∃ r ∈ blankRuns, r.covers c.toNat = true := by
  simp only [isBlank, inRanges, blankRuns, List.any_eq_true, List.mem_map, Bool.and_eq_true,
    decide_eq_true_eq]
  constructor
  · intro hm
    obtain ⟨r, hr, h⟩ := hm
    exact ⟨_, ⟨r, hr, rfl⟩, Run.covers_still.mpr h⟩
  · intro hm
    obtain ⟨_, ⟨r, hr, rfl⟩, h⟩ := hm
    exact ⟨r, hr, Run.covers_still.mp h⟩

theorem not_covers_of_stays {c : Char} (h : stays c = true) {r : Run} (hr : r ∈ lowerRuns) :
    r.covers c.toNat = false := by
  unfold stays at h
  rw [Bool.and_eq_true, Bool.not_eq_true', List.any_eq_false] at h
  exact Bool.eq_false_iff.mpr (h.2 r hr)

/-- A character that stays is no capital sigma. -/
theorem ne_sigma_of_stays {c : Char} (h : stays c = true) : (c.toNat == 0x3A3) = false := by
  have hsigma : lowerRuns.any (·.covers 0x3A3) = true := by decide
  rw [Bool.eq_false_iff, ne_eq, beq_iff_eq]
  intro e
  rw [stays, e, hsigma] at h
  cases h

/-- A character that stays is its own lower case. -/
theorem lowerChar_of_stays {c : Char} (h : stays c = true) : lowerChar c = [c] := by
  have hcapitals := not_covers_of_stays h (r := ⟨0x41, 0x5A, 1, 32⟩) List.mem_cons_self
  rw [Bool.eq_false_iff, ne_eq, Run.covers_iff] at hcapitals
  have hfind : lowerRuns.find? (·.covers c.toNat) = none :=
    List.find?_eq_none.mpr fun r hr => Bool.eq_false_iff.mp (not_covers_of_stays h hr)
  have hdotted : ¬ (c.toNat == 0x130) = true := by
    unfold stays at h
    rw [Bool.and_eq_true, bne_iff_ne] at h
    rw [beq_iff_eq]
    exact h.1
  simp only [lowerChar, hfind, hdotted]
  split
  · rw [if_neg]
    simp only [Bool.and_eq_true, decide_eq_true_eq]
    intro hm
    obtain ⟨h1, h2⟩ := hm
    exact hcapitals ⟨h1, h2, Nat.mod_one _⟩
  · rfl

/-- What a run of the mapping makes of a character stays, and is no blank. -/
theorem stays_moved {r : Run} (hr : r ∈ lowerRuns) {c : Char} (hc : r.covers c.toNat = true) :
    stays (.ofNat (c.toNat + r.shift).toNat) = true ∧
      isBlank (.ofNat (c.toNat + r.shift).toNat) = false ∧
      0x60 < (Char.ofNat (c.toNat + r.shift).toNat).toNat := by
  obtain ⟨hm, hlow, hvalid⟩ := Run.covers_moved (List.all_eq_true.mp runs_sound r hr) hc
  have hnat : (Char.ofNat (c.toNat + r.shift).toNat).toNat = (c.toNat + r.shift).toNat := by
    rw [Char.ofNat, dif_pos hvalid]
    rfl
  have hapart := List.all_eq_true.mp (List.all_eq_true.mp runs_apart r hr)
  refine ⟨?_, ?_, by rw [hnat]; exact hlow⟩
  · unfold stays
    rw [hnat, Bool.and_eq_true, Bool.not_eq_true', List.any_eq_false]
    constructor
    · have h130 := Run.not_covers (hapart _ List.mem_cons_self) hm
      rw [Bool.eq_false_iff, ne_eq, Run.covers_still] at h130
      rw [bne_iff_ne]
      omega
    · intro s hs
      exact Bool.eq_false_iff.mp (Run.not_covers
        (hapart s (List.mem_cons_of_mem _ (List.mem_append_left _ hs))) hm)
  · rw [Bool.eq_false_iff, ne_eq, isBlank_iff, hnat]
    intro hx
    obtain ⟨s, hs, hcov⟩ := hx
    have h := Run.not_covers
      (hapart s (List.mem_append_right (_ :: _) hs)) hm
    rw [hcov] at h
    cases h

theorem not_isBlank_of_covers {r : Run} (hr : r ∈ lowerRuns) {c : Char}
    (hc : r.covers c.toNat = true) : isBlank c = false := by
  rw [Bool.eq_false_iff, ne_eq, isBlank_iff]
  intro hm
  obtain ⟨s, hs, hcov⟩ := hm
  have h := Run.not_covers (List.all_eq_true.mp (List.all_eq_true.mp runs_not_blank r hr) s hs) hc
  rw [hcov] at h
  cases h

/-- Beyond the capital letters, no character of ASCII moves. -/
theorem runs_beyond : lowerRuns.tail.all (fun r => decide (0x80 ≤ r.first)) = true := by
  decide +kernel

theorem stays_of_ascii {c : Char} (hlt : c.toNat < 0x80)
    (hc : ¬ (0x41 ≤ c.toNat ∧ c.toNat ≤ 0x5A)) :
    stays c = true := by
  unfold stays
  rw [Bool.and_eq_true, bne_iff_ne, Bool.not_eq_true', List.any_eq_false]
  refine ⟨by omega, fun r hr => ?_⟩
  rw [Run.covers_iff]
  intro h
  obtain ⟨h1, h2, -⟩ := h
  rcases List.mem_cons.mp (show r ∈ ⟨0x41, 0x5A, 1, 32⟩ :: lowerRuns.tail from hr) with rfl | hr
  · exact hc ⟨h1, h2⟩
  · have hfirst := List.all_eq_true.mp runs_beyond r hr
    rw [decide_eq_true_eq] at hfirst
    omega

/-- `c` may become `d`: either it stays, or it was no blank and becomes a small letter. -/
def Becomes (c d : Char) : Prop :=
  (d = c ∧ stays c = true) ∨
    (isBlank c = false ∧ stays d = true ∧ isBlank d = false ∧ 0x60 < d.toNat)

theorem Becomes.of_run {r : Run} (hr : r ∈ lowerRuns) {c : Char} (hc : r.covers c.toNat = true) :
    Becomes c (.ofNat (c.toNat + r.shift).toNat) :=
  Or.inr ⟨not_isBlank_of_covers hr hc, stays_moved hr hc⟩

/-- **What becomes of a character.** -/
theorem mem_lowerChar {c d : Char} (h : d ∈ lowerChar c) : Becomes c d := by
  unfold lowerChar at h
  dsimp only at h
  split at h
  next hlt =>
    split at h
    next hc =>
      rw [Bool.and_eq_true, decide_eq_true_eq, decide_eq_true_eq] at hc
      rw [List.mem_singleton.mp h]
      exact .of_run (r := ⟨0x41, 0x5A, 1, 32⟩) List.mem_cons_self
        (Run.covers_iff.mpr ⟨hc.1, hc.2, Nat.mod_one _⟩)
    next hc =>
      rw [Bool.and_eq_true, decide_eq_true_eq, decide_eq_true_eq] at hc
      rw [List.mem_singleton.mp h]
      exact Or.inl ⟨rfl, stays_of_ascii hlt hc⟩
  next hlt =>
    split at h
    next hdotted =>
      have hc : c = Char.ofNat 0x130 := by
        rw [← Char.ofNat_toNat c, eq_of_beq hdotted]
      subst hc
      rcases List.mem_cons.mp h with rfl | h
      · exact Or.inr (by decide)
      · rw [List.mem_singleton.mp h]
        exact Or.inr (by decide)
    next hdotted =>
      split at h
      next r hfind =>
        rw [List.mem_singleton.mp h]
        have hc := List.find?_some (p := fun s : Run => s.covers c.toNat) hfind
        exact .of_run (List.mem_of_find?_eq_some hfind) hc
      next hfind =>
        rw [List.mem_singleton.mp h]
        refine Or.inl ⟨rfl, ?_⟩
        unfold stays
        rw [Bool.and_eq_true, bne_iff_ne, Bool.not_eq_true', List.any_eq_false]
        exact ⟨fun e => hdotted (beq_iff_eq.mpr e), List.find?_eq_none.mp hfind⟩

theorem mem_lowerIn {inWord : Bool} {c d : Char} {rest : Text} (h : d ∈ lowerIn inWord c rest) :
    Becomes c d := by
  unfold lowerIn at h
  split at h
  next hsigma =>
    have hc : c = Char.ofNat 0x3A3 := by
      rw [← Char.ofNat_toNat c, eq_of_beq hsigma]
    subst hc
    rw [List.mem_singleton.mp h]
    split
    · exact Or.inr (by decide)
    · exact Or.inr (by decide)
  next => exact mem_lowerChar h

/-! ## 3. Texts -/

/-- A character of a lower-cased text comes from a character of the text. -/
theorem exists_becomes : ∀ {t : Text} {inWord : Bool} {d : Char}, d ∈ lowerFrom inWord t →
    ∃ c ∈ t, Becomes c d
  | [], _, _, h => absurd h List.not_mem_nil
  | c :: t, inWord, d, h => by
      rcases List.mem_append.mp h with h | h
      · exact ⟨c, List.mem_cons_self, mem_lowerIn h⟩
      · obtain ⟨e, he, hd⟩ := exists_becomes h
        exact ⟨e, List.mem_cons_of_mem _ he, hd⟩

/-- **What lower-casing yields stays.** -/
theorem stays_of_mem_lower {t : Text} {d : Char} (h : d ∈ lower t) : stays d = true := by
  obtain ⟨c, -, ⟨rfl, hd⟩ | ⟨-, hd, -⟩⟩ := exists_becomes h
  · exact hd
  · exact hd

theorem lowerFrom_of_stays : ∀ {t : Text} {inWord : Bool}, (∀ c ∈ t, stays c = true) →
    lowerFrom inWord t = t
  | [], _, _ => rfl
  | c :: t, inWord, h => by
      have hc : stays c = true := h c List.mem_cons_self
      rw [lowerFrom, lowerFrom_of_stays fun d hd => h d (List.mem_cons_of_mem _ hd), lowerIn,
        ne_sigma_of_stays hc, lowerChar_of_stays hc]
      rfl

/-- A text whose characters stay is its own lower case. -/
theorem lower_of_stays {t : Text} (h : ∀ c ∈ t, stays c = true) : lower t = t :=
  lowerFrom_of_stays h

/-- **Lower-casing twice is lower-casing once.** -/
theorem lower_lower (t : Text) : lower (lower t) = lower t :=
  lower_of_stays fun _ => stays_of_mem_lower

end Worklog.Text
