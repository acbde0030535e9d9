import Worklog.Proofs.Text.Casing
import Worklog.Text.Digit

/-!
# Where a lower-cased character comes from

A text is often looked at in lower case only, and then the question is which texts it stands for. Of
most characters that text code looks for, the answer is short: a digit, a mark or a space comes from
itself alone, and a letter of ASCII from itself or its capital.

* `Text.Origin`: the ways in which a character comes about;
* **`Text.origin_of_mem_lowerIn`**: there are no others;
* `Text.IsSole`: a character that comes from itself alone, `Text.isSole_of_isDigit` for the digits
  of all scripts;
* **`Text.lowerFrom_eq_append`**: a text that in lower case starts with such characters starts with
  them.
-/

namespace Worklog.Text

/-! ## 1. Single characters -/

/-- A character of the mapping's image beyond ASCII: the runs behind the capital letters move
    something to it, or it is the final sigma. -/
def isFar (d : Char) : Bool := d.toNat == 0x3C2 || lowerRuns.tail.any (·.moved.covers d.toNat)

/-- **The ways in which a character comes about** in lower case. -/
inductive Origin (d : Char) : Char → Prop where
  | same : Origin d d
  | capital {c : Char} (hlow : 0x41 ≤ c.toNat) (hhigh : c.toNat ≤ 0x5A)
    (hshift : d.toNat = c.toNat + 32) : Origin d c
  | dotted (hd : d = Char.ofNat 0x69 ∨ d = Char.ofNat 0x307) : Origin d (Char.ofNat 0x130)
  | far {c : Char} (hd : isFar d = true) : Origin d c

theorem isFar_of_mem {r : Run} (hr : r ∈ lowerRuns.tail) {d : Char}
    (hd : r.moved.covers d.toNat = true) : isFar d = true := by
  unfold isFar
  rw [Bool.or_eq_true, List.any_eq_true]
  exact Or.inr ⟨r, hr, hd⟩

theorem origin_of_mem_lowerChar {c d : Char} (h : d ∈ lowerChar c) : Origin d c := by
  unfold lowerChar at h
  dsimp only at h
  split at h
  next hlt =>
    split at h
    next hc =>
      rw [Bool.and_eq_true, decide_eq_true_eq, decide_eq_true_eq] at hc
      refine .capital hc.1 hc.2 ?_
      rw [List.mem_singleton.mp h, Char.ofNat, dif_pos (by unfold Nat.isValidChar; omega)]
      rfl
    next =>
      rw [List.mem_singleton.mp h]
      exact .same
  next hlt =>
    split at h
    next hdotted =>
      rw [show c = Char.ofNat 0x130 by rw [← Char.ofNat_toNat c, eq_of_beq hdotted]]
      exact .dotted (by simpa using h)
    next =>
      split at h
      next r hfind =>
        have hcovers := List.find?_some (p := fun s : Run => s.covers c.toNat) hfind
        have hr : r ∈ lowerRuns.tail := by
          rcases List.mem_cons.mp (List.mem_of_find?_eq_some hfind) with rfl | hr
          · have hlast : c.toNat ≤ 0x5A := (Run.covers_iff.mp hcovers).2.1
            omega
          · exact hr
        obtain ⟨hmoved, -, hvalid⟩ := Run.covers_moved
          (List.all_eq_true.mp runs_sound r (List.mem_of_mem_tail hr)) hcovers
        have hnat : d.toNat = (c.toNat + r.shift).toNat := by
          rw [List.mem_singleton.mp h, Char.ofNat, dif_pos hvalid]
          rfl
        exact .far (isFar_of_mem hr (hnat ▸ hmoved))
      next =>
        rw [List.mem_singleton.mp h]
        exact .same

/-- **A character comes about in these ways only.** -/
theorem origin_of_mem_lowerIn {inWord : Bool} {c d : Char} {rest : Text}
    (h : d ∈ lowerIn inWord c rest) : Origin d c := by
  have hsigmas : isFar (Char.ofNat 0x3C2) = true ∧ isFar (Char.ofNat 0x3C3) = true := by
    decide +kernel
  unfold lowerIn at h
  split at h
  next =>
    rw [List.mem_singleton.mp h]
    split
    · exact .far hsigmas.1
    · exact .far hsigmas.2
  next => exact origin_of_mem_lowerChar h

/-! ## 2. Characters that come from themselves -/

/-- A character comes from itself alone. -/
def IsSole (d : Char) : Prop := ∀ c, Origin d c → c = d

/-- No character that is no letter of ASCII, no dot above and not far off comes from another one. -/
theorem isSole_of_not_isFar {d : Char} (hfar : isFar d = false)
    (hascii : ¬ (0x61 ≤ d.toNat ∧ d.toNat ≤ 0x7A)) (hdot : d ≠ Char.ofNat 0x307) : IsSole d := by
  intro c h
  cases h with
  | same => rfl
  | capital hlow hhigh hshift => omega
  | dotted hd =>
      rcases hd with rfl | rfl
      · exact absurd (by decide) hascii
      · exact absurd rfl hdot
  | far hd =>
      rw [hfar] at hd
      cases hd

/-- No digit is a character with a rule of its own or a letter, and no run of the mapping holds a
    digit or moves anything to one. -/
theorem runs_apart_digits : (digitZeros.all fun z =>
    ([0x130, 0x307, 0x3C2].all fun n => decide (n < z) || decide (z + 9 < n)) &&
      (decide (z + 9 < 0x61) || decide (0x7A < z)) &&
      (lowerRuns.all fun r => r.isApart (.still z (z + 9))) &&
      lowerRuns.tail.all fun r => r.moved.isApart (.still z (z + 9))) = true := by decide +kernel

/-- What is known of the row of a digit. -/
theorem exists_zero {d : Char} (h : isDigit d = true) : ∃ z : Nat, z ≤ d.toNat ∧ d.toNat < z + 10 ∧
    ((0x130 < z ∨ z + 9 < 0x130) ∧ (0x307 < z ∨ z + 9 < 0x307) ∧ (0x3C2 < z ∨ z + 9 < 0x3C2)) ∧
    (z + 9 < 0x61 ∨ 0x7A < z) ∧ (∀ r ∈ lowerRuns, r.isApart (.still z (z + 9)) = true) ∧
    ∀ r ∈ lowerRuns.tail, r.moved.isApart (.still z (z + 9)) = true := by
  obtain ⟨n, hn⟩ := Option.isSome_iff_exists.mp h
  obtain ⟨z, hz, -⟩ := Option.map_eq_some_iff.mp hn
  have hin := List.find?_some hz
  have hapart := List.all_eq_true.mp runs_apart_digits z (List.mem_of_find?_eq_some hz)
  simp only [Bool.and_eq_true, Bool.or_eq_true, decide_eq_true_eq, List.all_cons, List.all_nil,
    List.all_eq_true, and_true] at hin hapart
  obtain ⟨⟨⟨hrules, hascii⟩, hruns⟩, hmoved⟩ := hapart
  exact ⟨z, hin.1, hin.2, hrules, hascii, hruns, hmoved⟩

/-- A digit stays, ... -/
theorem stays_of_isDigit {d : Char} (h : isDigit d = true) : stays d = true := by
  obtain ⟨z, hle, hlt, ⟨hdotted, -⟩, -, hruns, -⟩ := exists_zero h
  unfold stays
  rw [Bool.and_eq_true, bne_iff_ne, Bool.not_eq_true', List.any_eq_false]
  refine ⟨by omega, fun r hr hcov => ?_⟩
  have hnone := Run.not_covers (hruns r hr) hcov
  rw [Bool.eq_false_iff, ne_eq, Run.covers_still] at hnone
  omega

/-- ... and **comes from itself alone**, in every script. -/
theorem isSole_of_isDigit {d : Char} (h : isDigit d = true) : IsSole d := by
  obtain ⟨z, hle, hlt, ⟨-, hdot, hsigma⟩, hascii, -, hmoved⟩ := exists_zero h
  refine isSole_of_not_isFar ?_ (by omega) ?_
  · refine Bool.eq_false_iff.mpr fun hfar => ?_
    unfold isFar at hfar
    rw [Bool.or_eq_true, beq_iff_eq, List.any_eq_true] at hfar
    rcases hfar with e | ⟨r, hr, hcov⟩
    · omega
    · have hnone := Run.not_covers (hmoved r hr) hcov
      rw [Bool.eq_false_iff, ne_eq, Run.covers_still] at hnone
      omega
  · rintro rfl
    rw [show (Char.ofNat 0x307).toNat = 0x307 from rfl] at hle hlt
    omega

/-! ## 3. Texts -/

/-- **A text that in lower case starts with characters that come from themselves** starts with
    them. -/
theorem lowerFrom_eq_append : ∀ {s t : Text} {inWord : Bool} {rest : Text},
    (∀ c ∈ s, IsSole c) → lowerFrom inWord t = s ++ rest →
    ∃ t' inWord', t = s ++ t' ∧ lowerFrom inWord' t' = rest
  | [], t, inWord, _, _, h => ⟨t, inWord, rfl, h⟩
  | d :: s, [], _, _, _, h => nomatch h
  | d :: s, c :: t, inWord, rest, hs, h => by
      have hd : IsSole d := hs d List.mem_cons_self
      rw [lowerFrom, List.cons_append] at h
      rcases lowerIn_eq inWord c t with ⟨e, he⟩ | he
      · rw [he] at h
        obtain ⟨rfl, htail⟩ := List.cons.inj h
        obtain rfl : c = e := hd c (origin_of_mem_lowerIn (he ▸ List.mem_cons_self))
        obtain ⟨t', inWord', rfl, hrest⟩ :=
          lowerFrom_eq_append (fun c hc => hs c (List.mem_cons_of_mem _ hc)) htail
        exact ⟨t', inWord', rfl, hrest⟩
      · -- The small `i` comes from its capital as well.
        rw [he] at h
        obtain ⟨rfl, -⟩ := List.cons.inj h
        have hcapital : 'I' = Char.ofNat 0x69 := hd 'I' (.capital (by decide) (by decide) rfl)
        exact absurd hcapital (by decide)

/-- A text whose lower case is made of such characters is its own lower case. -/
theorem lower_eq_self {t : Text} (h : ∀ c ∈ lower t, IsSole c) : lower t = t := by
  have hall : lowerFrom false t = lower t ++ [] := (List.append_nil _).symm
  obtain ⟨t', inWord', ht, hnil⟩ := lowerFrom_eq_append h hall
  rw [lowerFrom_eq_nil hnil, List.append_nil] at ht
  exact ht.symm

/-- A text that is a single character in lower case is one that it comes from. -/
theorem origin_of_lowerFrom {t : Text} {inWord : Bool} {d : Char} (h : lowerFrom inWord t = [d]) :
    ∃ c, t = [c] ∧ Origin d c := by
  cases t with
  | nil => cases h
  | cons c t =>
      rw [lowerFrom] at h
      rcases List.append_eq_singleton_iff.mp h with ⟨hnil, -⟩ | ⟨hone, hnil⟩
      · exact absurd hnil (lowerIn_ne_nil _ _ _)
      · rw [lowerFrom_eq_nil hnil]
        exact ⟨c, rfl, origin_of_mem_lowerIn (hone ▸ List.mem_singleton_self d)⟩

end Worklog.Text
