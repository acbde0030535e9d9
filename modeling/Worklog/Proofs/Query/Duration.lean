import Worklog.Proofs.Text.Digits
import Worklog.Proofs.Text.Strip
import Worklog.Query.Duration

/-!
# How lengths of time are spelled

A length of time has one of three shapes, in either letter case, with blanks around it or without:

* `Duration.IsLength`: the shapes;
* **`Duration.parse_isSome_iff`**: what has one of them can be read, and nothing else;
* `Duration.isPart_of_parse`: so what can be read is spelled with digits, points and units;
* `Duration.isPart_spec`: it holds no blank and no sigma;
* **`Duration.parse_lowerFrom`**: and its lower case is read as the same length.
-/

namespace Worklog

namespace Text

/-- No digit is a blank. -/
theorem not_isBlank_of_isDigit {c : Char} (h : isDigit c = true) : isBlank c = false := by
  have hapart : digitZeros.all (fun z =>
      blankRanges.all fun r => decide (z + 10 ≤ r.1) || decide (r.2 < z)) = true := by decide
  obtain ⟨n, hn⟩ := Option.isSome_iff_exists.mp h
  obtain ⟨z, hz, -⟩ := Option.map_eq_some_iff.mp hn
  have hmem := List.mem_of_find?_eq_some hz
  have hin := List.find?_some hz
  rw [Bool.and_eq_true, decide_eq_true_eq, decide_eq_true_eq] at hin
  refine List.any_eq_false.mpr fun r hr hcov => ?_
  rw [Bool.and_eq_true, decide_eq_true_eq, decide_eq_true_eq] at hcov
  have hz := List.all_eq_true.mp (List.all_eq_true.mp hapart z hmem) r hr
  rw [Bool.or_eq_true, decide_eq_true_eq, decide_eq_true_eq] at hz
  omega

/-- A run of at most nine digits of any script, and of at least `least`. -/
structure IsRun (least : Nat) (t : Text) : Prop where
  digits : ∀ c ∈ t, isDigit c = true
  least_le : least ≤ t.length
  le_nine : t.length ≤ 9

end Text

namespace Duration

open Worklog.Text

/-! ## 1. Characters of a length -/

/-- Whether a character can occur in a lower-cased length of time. -/
def isPart (c : Char) : Bool := isDigit c || ['h', 'm', 's', '.'].contains c

theorem isPart_of_isDigit {c : Char} (h : isDigit c = true) : isPart c = true := by
  rw [isPart, h]
  rfl

/-- What can occur in a length is no blank and no sigma. -/
theorem isPart_spec {c : Char} (h : isPart c = true) :
    isBlank c = false ∧ isSmallSigma c = false := by
  rcases Bool.or_eq_true _ _ ▸ h with hdigit | hletter
  · refine ⟨not_isBlank_of_isDigit hdigit, Bool.eq_false_iff.mpr fun hsigma => ?_⟩
    rw [isSmallSigma, Bool.or_eq_true, beq_iff_eq, beq_iff_eq] at hsigma
    rcases hsigma with e | e
    · rw [show c = Char.ofNat 0x3C2 by rw [← e, Char.ofNat_toNat]] at hdigit
      exact absurd hdigit (by decide)
    · rw [show c = Char.ofNat 0x3C3 by rw [← e, Char.ofNat_toNat]] at hdigit
      exact absurd hdigit (by decide)
  · have hmem : c ∈ ['h', 'm', 's', '.'] := List.contains_iff_mem.mp hletter
    have hall : ∀ d ∈ ['h', 'm', 's', '.'], isBlank d = false ∧ isSmallSigma d = false :=
      forall_mem_of_all (by decide)
    exact hall c hmem

/-! ## 2. The shapes of a length -/

/-- A number of a length: a run of digits, and behind a point a run of at least `least` more. -/
inductive IsNumber (least : Nat) : Text → Prop where
  | whole {whole : Text} (hwhole : IsRun 1 whole) : IsNumber least whole
  | pointed {whole part : Text} (hwhole : IsRun 1 whole) (hpart : IsRun least part) :
    IsNumber least (whole ++ '.' :: part)

/-- The letters of the units. -/
def units : List Char := ['h', 'm', 's']

/-- **The shapes of a length** in lower case: hours and minutes, a number with a unit, and a bare
    number of minutes. -/
inductive IsLength : Text → Prop where
  | compound {hours minutes : Text} (hhours : IsRun 1 hours) (hminutes : IsRun 1 minutes) :
    IsLength (hours ++ 'h' :: (minutes ++ ['m']))
  | unit {number : Text} {c : Char} (hnumber : IsNumber 0 number) (hc : c ∈ units) :
    IsLength (number ++ [c])
  | minutes {number : Text} (hnumber : IsNumber 1 number) : IsLength number

theorem isPart_of_isRun {least : Nat} {t : Text} (h : IsRun least t) : ∀ c ∈ t, isPart c = true :=
  fun c hc => isPart_of_isDigit (h.digits c hc)

theorem IsNumber.isPart {least : Nat} {t : Text} (h : IsNumber least t) :
    ∀ c ∈ t, isPart c = true := by
  cases h with
  | whole hwhole => exact isPart_of_isRun hwhole
  | pointed hwhole hpart =>
      exact List.forall_mem_append.mpr ⟨isPart_of_isRun hwhole,
        List.forall_mem_cons.mpr ⟨by decide, isPart_of_isRun hpart⟩⟩

/-- A length is spelled with digits, points and units. -/
theorem IsLength.isPart {t : Text} (h : IsLength t) : ∀ c ∈ t, isPart c = true := by
  have hunits : ∀ c ∈ units, Duration.isPart c = true := forall_mem_of_all (by decide)
  cases h with
  | compound hhours hminutes =>
      exact List.forall_mem_append.mpr ⟨isPart_of_isRun hhours,
        List.forall_mem_cons.mpr ⟨by decide, List.forall_mem_append.mpr
          ⟨isPart_of_isRun hminutes, List.forall_mem_singleton.mpr (by decide)⟩⟩⟩
  | unit hnumber hc =>
      exact List.forall_mem_append.mpr
        ⟨hnumber.isPart, List.forall_mem_singleton.mpr (hunits _ hc)⟩
  | minutes hnumber => exact hnumber.isPart

/-! ## 3. What can be read -/

variable {p : Precision} {t : Text} {s : Rat} {least : Nat}

theorem isRun_iff : isRun least t = true ↔ IsRun least t := by
  unfold isRun
  rw [Bool.and_eq_true, Bool.and_eq_true, List.all_eq_true, decide_eq_true_iff, decide_eq_true_iff]
  exact ⟨fun h => ⟨h.1.1, h.1.2, h.2⟩, fun h => ⟨⟨h.digits, h.least_le⟩, h.le_nine⟩⟩

/-- A run of digits is read up to a character that is none. -/
theorem spanDigits_append {run rest : Text} (hrun : IsRun least run)
    (hrest : ∀ c, rest.head? = some c → isDigit c = false) :
    spanDigits (run ++ rest) = (run, rest) := by
  obtain ⟨htake, hdrop⟩ := span_append hrun.digits hrest
  exact Prod.ext htake hdrop

theorem append_spanDigits (t : Text) : (spanDigits t).1 ++ (spanDigits t).2 = t :=
  List.takeWhile_append_dropWhile

/-- Hours and minutes are read, ... -/
theorem readCompound?_eq {hours minutes : Text} (hhours : IsRun 1 hours)
    (hminutes : IsRun 1 minutes) : readCompound? p (hours ++ 'h' :: (minutes ++ ['m'])) =
      some (p.keep (numeral hours * 3600 + numeral minutes * 60 : Nat)) := by
  have hm : ∀ c, ['m'].head? = some c → isDigit c = false := by
    rintro c ⟨⟩
    decide
  have hh : ∀ c, ('h' :: (minutes ++ ['m'])).head? = some c → isDigit c = false := by
    rintro c ⟨⟩
    decide
  unfold readCompound?
  simp only [spanDigits_append hhours hh, spanDigits_append hminutes hm, isRun_iff.mpr hhours,
    isRun_iff.mpr hminutes]
  rfl

/-- ... and nothing else is read as such. -/
theorem exists_of_readCompound (h : readCompound? p t = some s) : ∃ hours minutes,
    IsRun 1 hours ∧ IsRun 1 minutes ∧ t = hours ++ 'h' :: (minutes ++ ['m']) := by
  unfold readCompound? at h
  dsimp only at h
  split at h
  next rest hrest =>
    split at h
    next hwell =>
      rw [Bool.and_eq_true, Bool.and_eq_true, isRun_iff, isRun_iff, beq_iff_eq] at hwell
      obtain ⟨⟨hhours, hminutes⟩, hm⟩ := hwell
      refine ⟨_, _, hhours, hminutes, ?_⟩
      rw [← hm, append_spanDigits, ← hrest, append_spanDigits]
    next => cases h
  next => cases h

/-- What ends a number: a character that is neither a digit nor a point, or nothing. -/
def Ends (rest : Text) : Prop := ∀ c, rest.head? = some c → isDigit c = false ∧ c ≠ '.'

theorem ends_nil : Ends [] := nofun

theorem ends_unit {c : Char} (hc : c ∈ units) : Ends [c] := by
  have hall : ∀ c ∈ units, isDigit c = false ∧ c ≠ '.' := forall_mem_of_all (by decide)
  rintro d ⟨⟩
  exact hall c hc

section Number

variable {whole part rest : Text}

theorem readNumber?_whole (hwhole : IsRun 1 whole) (hrest : Ends rest) :
    readNumber? least (whole ++ rest) = some (whole, [], rest) := by
  unfold readNumber?
  rw [spanDigits_append hwhole fun c hc => (hrest c hc).1]
  dsimp only
  rw [if_pos (isRun_iff.mpr hwhole)]
  split
  next => exact absurd rfl (hrest '.' rfl).2
  next => rfl

theorem readNumber?_pointed (hwhole : IsRun 1 whole) (hpart : IsRun least part)
    (hrest : Ends rest) :
    readNumber? least (whole ++ '.' :: (part ++ rest)) = some (whole, part, rest) := by
  have hpoint : ∀ c, ('.' :: (part ++ rest)).head? = some c → isDigit c = false := by
    rintro c ⟨⟩
    decide
  have hstop : ∀ c, rest.head? = some c → isDigit c = false := fun c hc => (hrest c hc).1
  unfold readNumber?
  simp only [spanDigits_append hwhole hpoint, spanDigits_append hpart hstop,
    if_pos (isRun_iff.mpr hwhole), if_pos (isRun_iff.mpr hpart)]

end Number

/-- A number is read, up to what ends it, ... -/
theorem readNumber?_of_isNumber {number rest : Text} (h : IsNumber least number)
    (hrest : Ends rest) :
    ∃ whole part, readNumber? least (number ++ rest) = some (whole, part, rest) := by
  cases h with
  | whole hwhole => exact ⟨number, [], readNumber?_whole hwhole hrest⟩
  | pointed hwhole hpart =>
      rw [List.append_assoc, List.cons_append]
      exact ⟨_, _, readNumber?_pointed hwhole hpart hrest⟩

/-- ... and nothing else is read as such. -/
theorem exists_of_readNumber {whole part rest : Text}
    (h : readNumber? least t = some (whole, part, rest)) :
    ∃ number, t = number ++ rest ∧ IsNumber least number := by
  have hsplit := append_spanDigits t
  unfold readNumber? at h
  dsimp only at h
  split at h
  next hwhole =>
    rw [isRun_iff] at hwhole
    split at h
    next after hafter =>
      split at h
      next hpart =>
        cases h
        refine ⟨_, ?_, .pointed hwhole (isRun_iff.mp hpart)⟩
        rw [List.append_assoc, List.cons_append, append_spanDigits, ← hafter, hsplit]
      next => cases h
    next =>
      cases h
      exact ⟨_, hsplit.symm, .whole hwhole⟩
  next => cases h

theorem mem_units {c : Char} : c ∈ units ↔ (unitSeconds? c).isSome = true := by
  constructor
  · have hall : ∀ c ∈ units, (unitSeconds? c).isSome = true := forall_mem_of_all (by decide)
    exact hall c
  · intro h
    by_contra hno
    simp only [units, List.mem_cons, List.not_mem_nil, or_false, not_or] at hno
    obtain ⟨h1, h2, h3⟩ := hno
    simp [unitSeconds?, h1, h2, h3] at h

/-- **What can be read** has one of the shapes in lower case, but for blanks around it, and all that
    has one can be read. -/
theorem parse_isSome_iff (p : Precision) (t : Text) :
    (parse p t).isSome = true ↔ IsLength (lower (strip t)) := by
  unfold parse
  dsimp only
  generalize lower (strip t) = u
  rw [Option.isSome_or, Option.isSome_or, Bool.or_eq_true, Bool.or_eq_true]
  constructor
  · rintro (h | h | h)
    · obtain ⟨s, hs⟩ := Option.isSome_iff_exists.mp h
      obtain ⟨hours, minutes, hhours, hminutes, rfl⟩ := exists_of_readCompound hs
      exact .compound hhours hminutes
    · unfold readUnit? at h
      split at h
      next whole part c hread =>
        obtain ⟨number, rfl, hnumber⟩ := exists_of_readNumber hread
        rw [Option.isSome_map] at h
        exact .unit hnumber (mem_units.mpr h)
      next => cases h
    · unfold readMinutes? at h
      split at h
      next whole part hread =>
        obtain ⟨number, rfl, hnumber⟩ := exists_of_readNumber hread
        rw [List.append_nil]
        exact .minutes hnumber
      next => cases h
  · intro h
    cases h with
    | compound hhours hminutes =>
        rw [readCompound?_eq hhours hminutes]
        exact Or.inl rfl
    | @unit number c hnumber hc =>
        obtain ⟨whole, part, hread⟩ := readNumber?_of_isNumber hnumber (ends_unit hc)
        refine Or.inr (Or.inl ?_)
        rw [readUnit?, hread]
        dsimp only
        rw [Option.isSome_map]
        exact mem_units.mp hc
    | minutes hnumber =>
        obtain ⟨whole, part, hread⟩ := readNumber?_of_isNumber hnumber ends_nil
        rw [List.append_nil] at hread
        refine Or.inr (Or.inr ?_)
        rw [readMinutes?, hread]
        rfl

/-- **A length is spelled with digits, points and units.** -/
theorem isPart_of_parse (h : parse p t = some s) : ∀ c ∈ lower (strip t), isPart c = true :=
  ((parse_isSome_iff p t).mp (Option.isSome_of_eq_some h)).isPart

/-! ## 4. Lengths in lower case -/

theorem ne_nil_of_parse (h : parse p t = some s) : t ≠ [] := by
  rintro rfl
  cases h

/-- **The lower case of a length without blanks is the same length**, whatever stands before it. -/
theorem parse_lowerFrom (hblank : ∀ c ∈ t, isBlank c = false) (h : parse p t = some s)
    (inWord : Bool) : lowerFrom inWord t = lower t ∧ parse p (lower t) = some s := by
  have hparts := isPart_of_parse h
  rw [strip_of_forall hblank] at hparts
  have hstrip : strip (lower t) = lower t :=
    strip_of_forall fun c hc => (isPart_spec (hparts c hc)).1
  refine ⟨lowerFrom_eq_lower (fun c hc => (isPart_spec (hparts c hc)).2) inWord, ?_⟩
  unfold parse at h ⊢
  rw [hstrip, lower_lower]
  rw [strip_of_forall hblank] at h
  exact h

end Duration

end Worklog
