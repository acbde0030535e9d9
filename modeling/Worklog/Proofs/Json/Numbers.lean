import Worklog.Json.Printer
import Worklog.Json.Reader
import Worklog.Proofs.Number.Shortest

/-!
# Numbers that are read back

A whole number is written in its digits. Any other number is written in its shortest digits, with a
point among them or with an exponent behind them; each of these layouts is that of one form
(`Json.figures`), which is read as the decimal that it shows.

* `Json.Ends`: what may stand behind a number;
* `Json.unsigned_ofNat`: **a whole number is read**;
* `Json.unsigned_figures`: a number in figures is read as its decimal;
* `Json.Shows`, `Json.shows_layout`: shortest digits are laid out as figures of the same decimal;
* **`Json.plainValue_ofInt`**, **`Json.plainValue_shortest`**: a number that was written is read.
-/

namespace Worklog.Json

open Figure Number Text

/-! ## 1. Parts of a number -/

/-- **What may stand behind a number**: no digit, no point and no exponent. -/
def Ends (rest : Text) : Prop :=
  ∀ c, rest.head? = some c → isAsciiDigit c = false ∧ c ≠ '.' ∧ c ≠ 'e' ∧ c ≠ 'E'

theorem digits_append {s rest : Text} (hs : IsDigits s)
    (hrest : ∀ c, rest.head? = some c → isAsciiDigit c = false) :
    digits (s ++ rest) = (s, rest) := by
  obtain ⟨htake, hdrop⟩ := hs.takeWhile hrest
  exact Prod.ext htake hdrop

theorem fraction_of_ends {rest : Text} (h : ∀ c, rest.head? = some c → c ≠ '.') :
    fraction rest = ([], rest) := by
  unfold fraction
  split
  next => exact absurd rfl (h '.' rfl)
  next => rfl

/-- Digits behind a point are read. -/
theorem fraction_point {part rest : Text} (hpart : IsDigits part) (hne : part ≠ [])
    (hrest : ∀ c, rest.head? = some c → isAsciiDigit c = false) :
    fraction ('.' :: (part ++ rest)) = (part, rest) := by
  simp only [fraction, digits_append hpart hrest, List.isEmpty_eq_false_iff.mpr hne]
  rfl

theorem exponent?_of_ends {rest : Text} (h : ∀ c, rest.head? = some c → c ≠ 'e' ∧ c ≠ 'E') :
    exponent? rest = none := by
  unfold exponent?
  cases rest with
  | nil => rfl
  | cons c rest =>
      obtain ⟨hsmall, hlarge⟩ := h c rfl
      simp [hsmall, hlarge]

/-- An exponent is read. -/
theorem exponent?_exponentText (k : Int) {rest : Text}
    (hrest : ∀ c, rest.head? = some c → isAsciiDigit c = false) :
    exponent? (exponentText k ++ rest) = some (k, rest) := by
  have hshown : IsDigits (ofNatPadded 2 k.natAbs) := isDigits_padded
  have hdigits := digits_append hshown hrest
  have hne : (ofNatPadded 2 k.natAbs).isEmpty = false := List.isEmpty_eq_false_iff.mpr padded_ne_nil
  unfold exponentText
  by_cases hk : k < 0
  · have habs : -(k.natAbs : ℤ) = k := by omega
    rw [if_pos hk]
    simp only [List.cons_append, exponent?, hdigits, hne, numeral_padded]
    rw [habs]
    rfl
  · have habs : (k.natAbs : ℤ) = k := by omega
    rw [if_neg hk]
    simp only [List.cons_append, exponent?, hdigits, hne, numeral_padded]
    rw [habs]
    rfl

/-! ## 2. Numbers without a sign -/

/-- **The digits before the point**: there are some, and the first one is zero only if it is the
    only one. -/
structure IsWhole (t : Text) : Prop where
  isDigits : IsDigits t
  head : t = ['0'] ∨ ∃ d rest, t = d :: rest ∧ d ≠ '0'

theorem isWhole_ofNat (n : Nat) : IsWhole (ofNat n) := by
  refine ⟨isDigits_ofNat n, ?_⟩
  rcases Nat.eq_zero_or_pos n with rfl | hn
  · exact Or.inl rfl
  · obtain ⟨d, rest, hd⟩ := List.exists_cons_of_ne_nil (ofNat_ne_nil n)
    refine Or.inr ⟨d, rest, hd, fun hzero => head?_ofNat hn.ne' ?_⟩
    rw [hd, hzero]
    rfl

/-- A number is read part by part. -/
theorem unsigned_eq {whole rest : Text} (hwhole : IsWhole whole)
    (hrest : ∀ c, rest.head? = some c → isAsciiDigit c = false) (negative : Bool) :
    unsigned negative (whole ++ rest) =
      match exponent? (fraction rest).2 with
      | some (k, after) => .ok (.real (realOf negative whole (fraction rest).1 k), after)
      | none =>
        if (fraction rest).1.isEmpty then
          (wholeOf negative whole).map fun v => (v, (fraction rest).2)
        else .ok (.real (realOf negative whole (fraction rest).1 0), (fraction rest).2) := by
  unfold unsigned
  dsimp only
  rw [digits_append hwhole.isDigits hrest]
  rcases hwhole.head with rfl | ⟨d, more, rfl, hd⟩
  · rfl
  · have hzero : (d == '0') = false := beq_eq_false_iff_ne.mpr hd
    simp only [hzero]
    rfl

/-- **A whole number is read**, if it does not have too many digits. -/
theorem unsigned_ofNat (n : Nat) {rest : Text} (hrest : Ends rest) (negative : Bool)
    (hn : (ofNat n).length ≤ maxDigits) : unsigned negative (ofNat n ++ rest) =
      .ok (.int (if negative then -(n : Int) else n), rest) := by
  have hexponent := exponent?_of_ends fun c hc => (hrest c hc).2.2
  rw [unsigned_eq (isWhole_ofNat n) (fun c hc => (hrest c hc).1),
    fraction_of_ends fun c hc => (hrest c hc).2.1]
  dsimp only
  rw [hexponent]
  unfold wholeOf
  rw [if_neg (Nat.not_lt.mpr hn), numeral_ofNat]
  rfl

/-- Digits before the point, digits behind it and an exponent, if there are any. -/
def figures (whole part : Text) (exponent : Option Int) : Text :=
  whole ++ (if part = [] then [] else '.' :: part) ++ exponent.elim [] exponentText

/-- **A number in figures is read as its decimal.** -/
theorem unsigned_figures {whole part : Text} {exponent : Option Int} (hwhole : IsWhole whole)
    (hpart : IsDigits part) (hshown : part ≠ [] ∨ exponent.isSome = true) {rest : Text}
    (hrest : Ends rest) (negative : Bool) :
    unsigned negative (figures whole part exponent ++ rest) =
      .ok (.real (nearestDecimal negative (numeral (whole ++ part))
        (exponent.getD 0 - part.length)), rest) := by
  -- what stands behind the digits is no digit
  have hdigit : ∀ c, (exponent.elim [] exponentText ++ rest).head? = some c →
      isAsciiDigit c = false := fun c hc => by
    cases exponent with
    | none => exact (hrest c hc).1
    | some k =>
        cases hc
        rfl
  have hexponent : exponent? (exponent.elim [] exponentText ++ rest) =
      exponent.map fun k => (k, rest) := by
    cases exponent with
    | none => exact exponent?_of_ends fun c hc => (hrest c hc).2.2
    | some k => exact exponent?_exponentText k fun c hc => (hrest c hc).1
  unfold figures
  rw [List.append_assoc, List.append_assoc]
  by_cases hne : part = []
  · obtain ⟨k, rfl⟩ := Option.isSome_iff_exists.mp (hshown.resolve_left (not_not.mpr hne))
    have hfraction : fraction ((some k).elim [] exponentText ++ rest) =
        ([], (some k).elim [] exponentText ++ rest) :=
      fraction_of_ends fun c hc => by
        cases hc
        decide
    rw [if_pos hne, List.nil_append, unsigned_eq hwhole hdigit, hfraction]
    dsimp only
    rw [hexponent, hne]
    rfl
  · have hpoint : ∀ c, ('.' :: (part ++ (exponent.elim [] exponentText ++ rest))).head? = some c →
        isAsciiDigit c = false := fun c hc => by
      cases hc
      rfl
    rw [if_neg hne, List.cons_append, unsigned_eq hwhole hpoint, fraction_point hpart hne hdigit]
    dsimp only
    rw [hexponent]
    cases exponent with
    | none =>
        dsimp only [Option.map_none]
        rw [List.isEmpty_eq_false_iff.mpr hne]
        rfl
    | some k => rfl

/-! ## 3. Shortest digits -/

/-- **A text shows a decimal**: it consists of figures for `n * 10 ^ j`. -/
def Shows (t : Text) (n : Nat) (j : Int) : Prop :=
  ∃ whole part exponent, t = figures whole part exponent ∧ IsWhole whole ∧ IsDigits part ∧
    (part ≠ [] ∨ exponent.isSome = true) ∧
    (numeral (whole ++ part) : ℚ) * 10 ^ (exponent.getD 0 - part.length) = n * 10 ^ j

section Layout

variable {d : Char} {more : Text} (hdigits : IsDigits (d :: more)) (hd : d ≠ '0')
include hdigits

/-- Digits behind the point. -/
theorem shows_behind (zeros : Nat) : Shows ("0.".toList ++ (List.replicate zeros '0' ++ d :: more))
    (numeral (d :: more)) (-zeros - (d :: more).length) := by
  have hne : List.replicate zeros '0' ++ d :: more ≠ [] := by simp
  refine ⟨['0'], List.replicate zeros '0' ++ d :: more, none, ?_, isWhole_ofNat 0,
    (IsDigits.zeros zeros).append hdigits, Or.inl hne, ?_⟩
  · unfold figures
    rw [if_neg hne]
    exact (List.append_nil _).symm
  · have hnumeral : numeral (['0'] ++ (List.replicate zeros '0' ++ d :: more)) =
        numeral (d :: more) :=
      (numeral_zeros_append 1 _).trans (numeral_zeros_append zeros _)
    have hexponent : (0 : Int) - (List.replicate zeros '0' ++ d :: more).length =
        -zeros - (d :: more).length := by
      rw [List.length_append, List.length_replicate]
      push_cast
      ring
    rw [hnumeral, Option.getD_none, hexponent]

include hd

/-- Digits on both sides of the point. -/
theorem shows_split {before behind : Text} (h : before ++ behind = d :: more) (hb : before ≠ [])
    (hne : behind ≠ []) :
    Shows (before ++ '.' :: behind) (numeral (d :: more)) (-behind.length) := by
  refine ⟨before, behind, none, ?_, ⟨fun c hc => ?_, ?_⟩, fun c hc => ?_, Or.inl hne, ?_⟩
  · unfold figures
    rw [if_neg hne]
    exact (List.append_nil _).symm
  · exact hdigits c (h ▸ List.mem_append_left _ hc)
  · obtain ⟨c, rest, rfl⟩ := List.exists_cons_of_ne_nil hb
    cases h
    exact Or.inr ⟨d, rest, rfl, hd⟩
  · exact hdigits c (h ▸ List.mem_append_right _ hc)
  · rw [h, Option.getD_none, zero_sub]

/-- Digits and zeros before the point. -/
theorem shows_before (zeros : Nat) : Shows (d :: more ++ List.replicate zeros '0' ++ ".0".toList)
    (numeral (d :: more)) zeros := by
  refine ⟨d :: more ++ List.replicate zeros '0', ['0'], none, ?_,
    ⟨hdigits.append (.zeros zeros), Or.inr ⟨d, _, rfl, hd⟩⟩, .zeros 1, Or.inl (by decide), ?_⟩
  · exact (List.append_nil _).symm
  · have hnumeral : numeral (d :: more ++ List.replicate zeros '0' ++ ['0']) =
        numeral (d :: more) * 10 ^ zeros * 10 ^ 1 :=
      (numeral_append_zeros _ 1).trans (congrArg (· * 10 ^ 1) (numeral_append_zeros _ zeros))
    rw [hnumeral, Option.getD_none]
    push_cast
    rw [mul_assoc, mul_assoc, zpow_natCast]
    norm_num

/-- **Digits around a point.** -/
theorem shows_positional (point : Int) :
    Shows ((positional (d :: more) point).1 ++ '.' :: (if (positional (d :: more) point).2.isEmpty
        then ['0'] else (positional (d :: more) point).2))
      (numeral (d :: more)) (point - (d :: more).length) := by
  unfold positional
  by_cases hpoint : point ≤ 0
  · rw [if_pos hpoint]
    have hexponent : point - (d :: more).length = -point.natAbs - (d :: more).length := by omega
    have hne : (List.replicate point.natAbs '0' ++ d :: more).isEmpty = false := by simp
    dsimp only
    rw [hne, if_neg Bool.false_ne_true, hexponent]
    exact shows_behind hdigits point.natAbs
  · rw [if_neg hpoint]
    dsimp only
    by_cases hlength : point.toNat < (d :: more).length
    · have hnone : point.toNat - (d :: more).length = 0 := by omega
      have hne : (d :: more).drop point.toNat ≠ [] := by
        rw [Ne, List.drop_eq_nil_iff]
        omega
      have hbefore : (d :: more).take point.toNat ≠ [] := by
        rw [Ne, List.take_eq_nil_iff]
        simp
        omega
      have hexponent : point - (d :: more).length = -((d :: more).drop point.toNat).length := by
        rw [List.length_drop]
        omega
      rw [hnone, List.replicate_zero, List.append_nil, List.isEmpty_eq_false_iff.mpr hne,
        if_neg Bool.false_ne_true, hexponent]
      exact shows_split hdigits hd (List.take_append_drop _ _) hbefore hne
    · have hall : (d :: more).take point.toNat = d :: more := List.take_of_length_le (by omega)
      have hnil : (d :: more).drop point.toNat = [] := List.drop_of_length_le (by omega)
      have hexponent : point - (d :: more).length = (point.toNat - (d :: more).length : Nat) := by
        omega
      simp only [hall, hnil, hexponent]
      exact shows_before hdigits hd _

/-- **Digits with an exponent.** -/
theorem shows_scientific (k : Int) :
    Shows (scientific (d :: more) k) (numeral (d :: more)) (k + 1 - (d :: more).length) := by
  have hexponent : k - (more.length : Int) = k + 1 - (d :: more).length := by
    rw [List.length_cons]
    omega
  refine ⟨[d], more, some k, ?_, ⟨fun c hc => ?_, Or.inr ⟨d, [], rfl, hd⟩⟩, fun c hc => ?_,
    Or.inr rfl, by rw [Option.getD_some, hexponent]; rfl⟩
  · cases more with
    | nil => rfl
    | cons c more => rfl
  · exact hdigits c (List.mem_singleton.mp hc ▸ List.mem_cons_self)
  · exact hdigits c (List.mem_cons_of_mem d hc)

end Layout

/-- Digits in the layout of documents. -/
def layout (digits : Text) (k : Int) : Text :=
  if documentStyle.leastPositional ≤ k && k ≤ documentStyle.greatestPositional then
    (positional digits (k + 1)).1 ++ '.' ::
      (if (positional digits (k + 1)).2.isEmpty then ['0'] else (positional digits (k + 1)).2)
  else match digits with
    | [d] => d :: documentStyle.afterSingle ++ exponentText k
    | _ => scientific digits k

theorem shows_layout {d : Char} {more : Text} (hdigits : IsDigits (d :: more)) (hd : d ≠ '0')
    (k : Int) : Shows (layout (d :: more) k) (numeral (d :: more))
      (k + 1 - (d :: more).length) := by
  unfold layout
  split
  next => exact shows_positional hdigits hd _
  next =>
    have hscientific := shows_scientific hdigits hd k
    cases more with
    | nil => exact hscientific
    | cons c more => exact hscientific

/-- A number other than zero is its sign and its shortest digits. -/
theorem shortest_eq {x : ℚ} (hx : x ≠ 0) : shortest documentStyle x =
    Figure.sign x ++ layout (shortestDigits |x|).1 (shortestDigits |x|).2 := by
  have habs : (if x.num < 0 then -x else x) = |x| := by
    split
    next hneg => exact (abs_of_neg (Rat.num_neg.mp hneg)).symm
    next hpos => exact (abs_of_nonneg (Rat.num_nonneg.mp (not_lt.mp hpos))).symm
  unfold shortest
  rw [if_neg (Rat.num_ne_zero.mpr hx), habs]
  generalize shortestDigits |x| = shown
  rfl

/-! ## 4. Values -/

/-- A text that starts with a digit is no word. -/
theorem word?_digit {d : Char} (hd : isAsciiDigit d = true) (t : Text) : word? (d :: t) = none := by
  have hne : ∀ c : Char, isAsciiDigit c = false → c ≠ d := fun c hc =>
    (ne_of_isAsciiDigit hd hc).symm
  simp [word?, wordValues, hne 'n' rfl, hne 't' rfl, hne 'f' rfl, hne 'N' rfl, hne 'I' rfl,
    hne '-' rfl]

theorem word?_minus {d : Char} (hd : isAsciiDigit d = true) (t : Text) :
    word? ('-' :: d :: t) = none := by
  have hne : 'I' ≠ d := (ne_of_isAsciiDigit hd rfl).symm
  simp [word?, wordValues, hne]

/-- **A number is read behind its sign.** -/
theorem plainValue_signed (negative : Bool) {d : Char} (hd : isAsciiDigit d = true) (t : Text) :
    plainValue ((if negative then ['-'] else []) ++ d :: t) = unsigned negative (d :: t) := by
  unfold plainValue
  cases negative with
  | true =>
      rw [if_pos rfl, List.singleton_append, word?_minus hd]
      rfl
  | false =>
      have hminus : d ≠ '-' := ne_of_isAsciiDigit hd rfl
      rw [if_neg Bool.false_ne_true, List.nil_append, word?_digit hd]
      simp [hminus]

/-- **A whole number that was written is read**, if it does not have too many digits. -/
theorem plainValue_ofInt (n : Int) {rest : Text} (hrest : Ends rest)
    (hn : (ofNat n.natAbs).length ≤ maxDigits) :
    plainValue (ofInt n ++ rest) = .ok (.int n, rest) := by
  obtain ⟨d, more, hd⟩ := List.exists_cons_of_ne_nil (ofNat_ne_nil n.natAbs)
  have hdigit : isAsciiDigit d = true := isDigits_ofNat n.natAbs d (hd ▸ List.mem_cons_self)
  have htext : ofInt n ++ rest =
      (if decide (n < 0) then ['-'] else []) ++ d :: (more ++ rest) := by
    unfold ofInt
    rw [hd]
    by_cases h : n < 0 <;> simp [h]
  have hvalue : (if decide (n < 0) then -(n.natAbs : Int) else n.natAbs) = n := by
    by_cases h : n < 0
    · rw [decide_eq_true h, if_pos rfl]
      omega
    · rw [decide_eq_false h, if_neg Bool.false_ne_true]
      omega
  rw [htext, plainValue_signed _ hdigit, ← List.cons_append, ← hd, unsigned_ofNat _ hrest _ hn,
    hvalue]

/-- **A number in figures is read** behind its sign. -/
theorem plainValue_shows (negative : Bool) {t : Text} {n : Nat} {j : Int} (h : Shows t n j)
    {rest : Text} (hrest : Ends rest) : ∃ (m : ℕ) (i : ℤ), (m : ℚ) * 10 ^ i = n * 10 ^ j ∧
      plainValue ((if negative then ['-'] else []) ++ t ++ rest) =
        .ok (.real (nearestDecimal negative m i), rest) := by
  obtain ⟨whole, part, exponent, rfl, hwhole, hpart, hshown, hvalue⟩ := h
  obtain ⟨d, more, hd⟩ : ∃ d more, whole = d :: more := by
    rcases hwhole.head with h | ⟨d, more, h, -⟩
    · exact ⟨_, _, h⟩
    · exact ⟨d, more, h⟩
  have hdigit : isAsciiDigit d = true := hwhole.isDigits d (hd ▸ List.mem_cons_self)
  refine ⟨numeral (whole ++ part), exponent.getD 0 - part.length, hvalue, ?_⟩
  have htext : figures whole part exponent ++ rest = d :: (more ++
      ((if part = [] then [] else '.' :: part) ++ (exponent.elim [] exponentText ++ rest))) := by
    unfold figures
    rw [hd, List.append_assoc, List.append_assoc, List.cons_append]
  rw [List.append_assoc, htext, plainValue_signed negative hdigit, ← htext,
    unsigned_figures hwhole hpart hshown hrest]

/-- Zero is read with its sign. -/
theorem plainValue_zero (negative : Bool) {rest : Text} (hrest : Ends rest) :
    plainValue ((if negative then ['-'] else []) ++ shortest documentStyle 0 ++ rest) =
      .ok (.real (.zero negative), rest) := by
  have hshows : Shows (shortest documentStyle 0) 0 0 := by
    refine ⟨['0'], ['0'], none, rfl, isWhole_ofNat 0, .zeros 1, Or.inl (by decide), ?_⟩
    rw [show numeral (['0'] ++ ['0']) = 0 from numeral_zeros 2, Nat.cast_zero, zero_mul, zero_mul]
  obtain ⟨m, i, hvalue, hread⟩ := plainValue_shows negative hshows hrest
  have hzero : m = 0 := by
    rw [Nat.cast_zero, zero_mul, mul_eq_zero] at hvalue
    exact_mod_cast hvalue.resolve_right (zpow_ne_zero i (by norm_num))
  rw [hread, hzero]
  rfl

/-- **A number that was written is read.** -/
theorem plainValue_shortest {x : ℚ} (hx : Precision.double.quantity x = .finite x) {rest : Text}
    (hrest : Ends rest) :
    plainValue (shortest documentStyle x ++ rest) = .ok (.real (.finite x), rest) := by
  by_cases hzero : x = 0
  · rw [hzero]
    exact plainValue_zero false hrest
  · have hdouble := isPosDouble_abs hzero hx
    have hnames := names_shortestDigits hdouble
    obtain ⟨d, more, hdigits, hd⟩ := hnames.head
    have hisDigits := hnames.isDigits
    have hgoes := hnames.goesTo
    rw [hdigits] at hisDigits hgoes
    obtain ⟨m, i, hvalue, hread⟩ := plainValue_shows (decide (x.num < 0))
      (shows_layout hisDigits hd (shortestDigits |x|).2) hrest
    have hsign : Figure.sign x = if decide (x.num < 0) then ['-'] else [] := by
      unfold Figure.sign
      simp
    have hback : (if decide (x.num < 0) then -|x| else |x|) = x := by
      by_cases hneg : x < 0
      · rw [decide_eq_true (Rat.num_neg.mpr hneg), if_pos rfl, abs_of_neg hneg, neg_neg]
      · have hnum : ¬x.num < 0 := fun h => hneg (Rat.num_neg.mp h)
        rw [decide_eq_false hnum, if_neg Bool.false_ne_true, abs_of_nonneg (not_lt.mp hneg)]
    rw [← hvalue] at hgoes
    rw [shortest_eq hzero, hdigits, hsign, hread, nearestDecimal_eq hdouble hgoes, hback]

end Worklog.Json
