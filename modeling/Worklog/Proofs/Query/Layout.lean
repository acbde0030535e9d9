import Worklog.Proofs.Calendar.Months
import Worklog.Proofs.Query.Tidy
import Worklog.Proofs.Text.Digits
import Worklog.Proofs.Text.Strip

/-!
# Dates in their layouts

A date that is written in one of the six layouts, with four digits for the year and two for the
month and for the day, is read again. The layouts are tried in order, and each of them refuses what
was written in another one, with one exception: a month before a day and a day before a month cannot
be told apart if both numbers are months.

* `Day.write`: a date in a layout;
* `Day.readings_write`: the best reading of what was written in a layout is the date;
* `Day.inLayout?_yearFirst`, `Day.inLayout?_monthFirst`, `Day.inLayout?_dayFirst`: what each layout
  refuses, by where the marks stand;
* `Day.absolute?_year`, `Day.absolute?_number`: so the first mark decides which layouts are left;
* `Day.monthAt_late`: a day after the twelfth is no month;
* `Day.read_dateText`: the date of a midnight, as it is written elsewhere, is read as the midnight;
* **`Day.read_written`**: what is read of a date in each of the layouts.
-/

namespace Worklog.Day

open Worklog.Text

/-! ## 1. Writing -/

/-- A part of a date in its layout. -/
def Piece.write (d : Date) : Piece → Text
  | .year => ofNatPadded 4 d.year
  | .month => ofNatPadded 2 d.month
  | .day => ofNatPadded 2 d.day
  | .mark c => [c]

/-- **A date in a layout.** -/
def write (layout : List Piece) (d : Date) : Text := layout.flatMap (Piece.write d)

/-- Year, month and day, as in `2024-06-15`. -/
def yearFirst (c : Char) : List Piece := [.year, .mark c, .month, .mark c, .day]

/-- Month, day and year, as in `06/15/2024`. -/
def monthFirst (c : Char) : List Piece := [.month, .mark c, .day, .mark c, .year]

/-- Day, month and year, as in `15/06/2024`. -/
def dayFirst (c : Char) : List Piece := [.day, .mark c, .month, .mark c, .year]

/-- The layouts in their order. -/
theorem layouts_eq : layouts = [yearFirst '-', monthFirst '/', dayFirst '/', yearFirst '/',
    monthFirst '-', dayFirst '-'] := rfl

/-- What is filled in for a triple by the parts of a layout. -/
def fill (d : Date) : List Piece → Date → Date
  | [], e => e
  | .year :: more, e => fill d more { e with year := d.year }
  | .month :: more, e => fill d more { e with month := d.month }
  | .day :: more, e => fill d more { e with day := d.day }
  | .mark _ :: more, e => fill d more e

/-! ## 2. Two digits -/

section Digits

variable {n : Nat} {rest : Text}

theorem isDigit_of_isAsciiDigit {c : Char} (h : isAsciiDigit c = true) : isDigit c = true := by
  have hbetween : between '0' '9' c = true := h
  exact isDigit_of_between (by decide) (by decide) hbetween

theorem toNat_digitChar (h : n < 10) : n.digitChar.toNat = 48 + n := by
  rw [Nat.toNat_digitChar_of_lt_ten h, Nat.add_comm]

/-- A digit lies between two digits if it does as a number. -/
theorem between_digitChar {lo hi : Char} (h : n < 10) :
    between lo hi n.digitChar = true ↔ lo.toNat ≤ 48 + n ∧ 48 + n ≤ hi.toNat := by
  rw [between, toNat_digitChar h, Bool.and_eq_true, decide_eq_true_iff, decide_eq_true_iff]

theorem digitChar_beq {c : Char} (h : n < 10) :
    (n.digitChar == c) = true ↔ 48 + n = c.toNat := by
  rw [beq_iff_eq, ← toNat_digitChar h, Char.toNat_inj]

/-- Two digits of a number. -/
theorem padded_two (h : n < 100) :
    ofNatPadded 2 n = [(n / 10).digitChar, (n % 10).digitChar] := by
  have hten : n / 10 < 10 := by omega
  unfold ofNatPadded
  rw [ofNat_eq, padded_succ (by decide) (by decide), Nat.toDigits_of_lt_base hten]
  rfl

theorem numeral_two (h : n < 100) : numeral [(n / 10).digitChar, (n % 10).digitChar] = n := by
  rw [← padded_two h]
  exact numeral_padded

theorem pair_padded {first second : Char → Bool} (h : n < 100) :
    pair first second (ofNatPadded 2 n ++ rest) =
      if first (n / 10).digitChar && second (n % 10).digitChar then [(n, rest)] else [] := by
  rw [padded_two h]
  show (if _ then [(numeral _, rest)] else []) = _
  rw [numeral_two h]

theorem single_padded {test : Char → Bool} (h : n < 100) :
    single test (ofNatPadded 2 n ++ rest) =
      if test (n / 10).digitChar then [(n / 10, (n % 10).digitChar :: rest)] else [] := by
  have hten : n / 10 < 10 := by omega
  have hvalue : numeral [(n / 10).digitChar] = n / 10 := by
    rw [← ofNat_of_lt hten, numeral_ofNat]
  rw [padded_two h]
  show (if _ then [(numeral _, _)] else []) = _
  rw [hvalue]
  rfl

/-! ## 3. Numbers of a date -/

/-- **A month of two digits** is best read as such. -/
theorem monthAt_padded (hpos : 1 ≤ n) (hle : n ≤ 12) :
    (monthAt (ofNatPadded 2 n ++ rest)).head? = some (n, rest) := by
  have hlt : n < 100 := by omega
  have htens : n / 10 < 10 := by omega
  have hones : n % 10 < 10 := by omega
  unfold monthAt
  simp only [pair_padded hlt, single_padded hlt, Bool.and_eq_true, digitChar_beq htens,
    between_digitChar hones, Char.reduceToNat]
  by_cases hlate : 10 ≤ n
  · rw [if_pos (by omega)]
    rfl
  · rw [if_neg (by omega), if_pos (by omega)]
    rfl

/-- **A day of two digits** is best read as such. -/
theorem dayAt_padded (hpos : 1 ≤ n) (hle : n ≤ 31) :
    (dayAt (ofNatPadded 2 n ++ rest)).head? = some (n, rest) := by
  have hlt : n < 100 := by omega
  have htens : n / 10 < 10 := by omega
  have hones : n % 10 < 10 := by omega
  have hdigit : isDigit (n % 10).digitChar = true :=
    isDigit_of_isAsciiDigit (isAsciiDigit_digitChar hones)
  unfold dayAt
  simp only [pair_padded hlt, single_padded hlt, Bool.and_eq_true, digitChar_beq htens,
    between_digitChar htens, between_digitChar hones, hdigit, and_true, Char.reduceToNat]
  rcases (show 30 ≤ n ∨ (10 ≤ n ∧ n < 30) ∨ n < 10 by omega) with hlast | hmiddle | hfirst
  · rw [if_pos (by omega)]
    rfl
  · rw [if_neg (by omega), if_pos (by omega)]
    rfl
  · rw [if_neg (by omega), if_neg (by omega), if_pos (by omega)]
    rfl

/-- **A day after the twelfth is no month**: no more than its first digit is read. -/
theorem monthAt_late (hpos : 12 < n) (hle : n ≤ 31) :
    monthAt (ofNatPadded 2 n ++ rest) = [(n / 10, (n % 10).digitChar :: rest)] := by
  have hlt : n < 100 := by omega
  have htens : n / 10 < 10 := by omega
  have hones : n % 10 < 10 := by omega
  unfold monthAt
  simp only [pair_padded hlt, single_padded hlt, Bool.and_eq_true, digitChar_beq htens,
    between_digitChar htens, between_digitChar hones, Char.reduceToNat]
  rw [if_neg (by omega), if_neg (by omega), if_pos (by omega)]
  rfl

/-- A year of four digits is read as such. -/
theorem yearAt_padded (h : n < 10 ^ 4) : yearAt (ofNatPadded 4 n ++ rest) = [(n, rest)] := by
  have hlength := length_padded (by decide) h
  have hdigits : (ofNatPadded 4 n).all isDigit = true := List.all_eq_true.mpr fun c hc =>
    isDigit_of_isAsciiDigit (isDigits_padded c hc)
  unfold yearAt
  dsimp only
  rw [List.take_left' hlength, List.drop_left' hlength, hlength, hdigits, numeral_padded]
  rfl

end Digits

/-! ## 4. What a layout reads -/

variable {d : Date}

theorem head?_flatMap {α β : Type} {l : List α} {a : α} {f : α → List β} {b : β}
    (hl : l.head? = some a) (hf : (f a).head? = some b) : (l.flatMap f).head? = some b := by
  obtain ⟨more, rfl⟩ := List.head?_eq_some_iff.mp hl
  rw [List.flatMap_cons, List.head?_append, hf]
  rfl

/-- **The best reading of what was written in a layout** is what was filled in, with what follows
    left over. -/
theorem readings_write (h : d.IsValid) : ∀ (layout : List Piece) (e : Date) (rest : Text),
    (readings layout e (write layout d ++ rest)).head? = some (fill d layout e, rest)
  | [], _, _ => rfl
  | piece :: more, e, rest => by
      obtain ⟨hyear, -, -⟩ := h.fits
      have ⟨_, _, hmonth, hmonth', hday, hday'⟩ := h
      have hlast : d.day ≤ 31 := Nat.le_trans hday' (Date.daysInMonth_le _ _)
      have hsplit : write (piece :: more) d ++ rest = piece.write d ++ (write more d ++ rest) := by
        rw [write, List.flatMap_cons, List.append_assoc]
        rfl
      have ih := fun e => readings_write h more e rest
      rw [hsplit]
      cases piece with
      | year => exact head?_flatMap (congrArg List.head? (yearAt_padded hyear)) (ih _)
      | month => exact head?_flatMap (monthAt_padded hmonth hmonth') (ih _)
      | day => exact head?_flatMap (dayAt_padded hday hlast) (ih _)
      | mark c =>
          show (if c == c then readings more e (write more d ++ rest) else []).head? = _
          rw [if_pos (beq_self_eq_true c)]
          exact ih e

/-- **A layout reads what was written in it**, if it has all parts of a date. -/
theorem inLayout?_write (h : d.IsValid) (layout : List Piece)
    (hfill : ∀ e, fill d layout e = d) : inLayout? (write layout d) layout = Moment.ofDate? d := by
  have hread := readings_write h layout ⟨0, 0, 0⟩ []
  rw [List.append_nil, hfill] at hread
  obtain ⟨more, hmore⟩ := List.head?_eq_some_iff.mp hread
  unfold inLayout?
  rw [hmore]

/-! ## 5. What a layout refuses -/

/-- A layout refuses what it has no reading of. -/
theorem inLayout?_eq_none {t : Text} {layout : List Piece}
    (h : readings layout ⟨0, 0, 0⟩ t = []) : inLayout? t layout = none := by
  unfold inLayout?
  rw [h]

/-- A mark is read only where it stands. -/
theorem readings_mark {c : Char} {t : Text} (h : t.head? ≠ some c) (more : List Piece) (e : Date) :
    readings (.mark c :: more) e t = [] := by
  cases t with
  | nil => rfl
  | cons b t =>
      show (if b == c then readings more e t else []) = []
      exact if_neg fun hb => h (congrArg some (eq_of_beq hb))

/-- A number of one or two characters is read off the start of a text. -/
theorem mem_pair {first second : Char → Bool} {t rest : Text} {n : Nat}
    (h : (n, rest) ∈ pair first second t) : rest = t.drop 2 := by
  unfold pair at h
  split at h
  · split at h
    · exact congrArg Prod.snd (List.mem_singleton.mp h)
    · cases h
  · cases h

theorem mem_single {test : Char → Bool} {t rest : Text} {n : Nat}
    (h : (n, rest) ∈ single test t) : rest = t.drop 1 := by
  unfold single at h
  split at h
  · split at h
    · exact congrArg Prod.snd (List.mem_singleton.mp h)
    · cases h
  · cases h

theorem mem_monthAt {t rest : Text} {n : Nat} (h : (n, rest) ∈ monthAt t) :
    rest = t.drop 1 ∨ rest = t.drop 2 := by
  unfold monthAt at h
  rw [List.mem_append, List.mem_append] at h
  rcases h with (h | h) | h
  · exact Or.inr (mem_pair h)
  · exact Or.inr (mem_pair h)
  · exact Or.inl (mem_single h)

theorem mem_dayAt {t rest : Text} {n : Nat} (h : (n, rest) ∈ dayAt t) :
    rest = t.drop 1 ∨ rest = t.drop 2 := by
  unfold dayAt at h
  simp only [List.mem_append] at h
  rcases h with (((h | h) | h) | h) | h
  · exact Or.inr (mem_pair h)
  · exact Or.inr (mem_pair h)
  · exact Or.inr (mem_pair h)
  · exact Or.inl (mem_single h)
  · exact Or.inr (mem_pair h)

section Refused

variable {c c' : Char} {t : Text}

/-- A year first needs four digits, and the mark behind them. -/
theorem inLayout?_yearFirst (h : (t.take 4).all isDigit = false ∨ t[4]? ≠ some c) :
    inLayout? t (yearFirst c) = none := by
  refine inLayout?_eq_none (List.flatMap_eq_nil_iff.mpr fun x hx => ?_)
  unfold yearAt at hx
  dsimp only at hx
  split at hx
  next hread =>
    rw [Bool.and_eq_true] at hread
    rw [List.mem_singleton.mp hx]
    refine readings_mark ?_ _ _
    rw [List.head?_drop]
    rcases h with h | h
    · rw [h] at hread
      cases hread.2
    · exact h
  next => cases hx

/-- A month or a day first needs a mark behind one or two characters. -/
theorem inLayout?_monthFirst (h : t[1]? ≠ some c) (h' : t[2]? ≠ some c) :
    inLayout? t (monthFirst c) = none := by
  refine inLayout?_eq_none (List.flatMap_eq_nil_iff.mpr fun x hx => readings_mark ?_ _ _)
  rcases mem_monthAt hx with e | e
  · rw [e, List.head?_drop]
    exact h
  · rw [e, List.head?_drop]
    exact h'

theorem inLayout?_dayFirst (h : t[1]? ≠ some c) (h' : t[2]? ≠ some c) :
    inLayout? t (dayFirst c) = none := by
  refine inLayout?_eq_none (List.flatMap_eq_nil_iff.mpr fun x hx => readings_mark ?_ _ _)
  rcases mem_dayAt hx with e | e
  · rw [e, List.head?_drop]
    exact h
  · rw [e, List.head?_drop]
    exact h'

/-- No mark is a digit. -/
theorem ne_mark {b : Char} (hb : isDigit b = true) (hc : c ∈ marks) : b ≠ c := by
  have hmarks : ∀ c ∈ marks, isDigit c = false := forall_mem_of_all (by decide)
  rintro rfl
  rw [hmarks _ hc] at hb
  cases hb

/-- **Behind four digits a mark decides** on a year first. -/
theorem absolute?_year (hc : c ∈ marks) {year : Text} (hlength : year.length = 4)
    (hdigits : ∀ b ∈ year, isDigit b = true) (rest : Text) :
    absolute? (year ++ c :: rest) = inLayout? (year ++ c :: rest) (yearFirst c) := by
  have hlate : ∀ c' ∈ marks, ∀ i < 4, (year ++ c :: rest)[i]? ≠ some c' := by
    intro c' hc' i hi e
    rw [List.getElem?_append_left (hlength ▸ hi)] at e
    exact ne_mark (hdigits c' (List.mem_of_getElem? e)) hc' rfl
  have hmark : (year ++ c :: rest)[4]? = some c := by
    rw [List.getElem?_append_right (Nat.le_of_eq hlength), hlength]
    rfl
  have hmonth : ∀ c' ∈ marks, inLayout? (year ++ c :: rest) (monthFirst c') = none :=
    fun c' hc' => inLayout?_monthFirst (hlate c' hc' 1 (by decide)) (hlate c' hc' 2 (by decide))
  have hday : ∀ c' ∈ marks, inLayout? (year ++ c :: rest) (dayFirst c') = none :=
    fun c' hc' => inLayout?_dayFirst (hlate c' hc' 1 (by decide)) (hlate c' hc' 2 (by decide))
  have hother : ∀ c' : Char, c' ≠ c → inLayout? (year ++ c :: rest) (yearFirst c') = none := by
    intro c' hne
    refine inLayout?_yearFirst (Or.inr ?_)
    rw [hmark]
    exact fun e => hne (Option.some.inj e).symm
  unfold absolute?
  rw [layouts_eq]
  simp only [List.findSome?_cons, List.findSome?_nil, hmonth _ (show '/' ∈ marks by decide),
    hmonth _ (show '-' ∈ marks by decide), hday _ (show '/' ∈ marks by decide),
    hday _ (show '-' ∈ marks by decide)]
  rcases (show c = '-' ∨ c = '/' by simpa [marks] using hc) with rfl | rfl
  · rw [hother '/' (by decide)]
    cases inLayout? (year ++ '-' :: rest) (yearFirst '-') <;> rfl
  · rw [hother '-' (by decide)]
    cases inLayout? (year ++ '/' :: rest) (yearFirst '/') <;> rfl

/-- **Behind two digits a mark decides** on a month or a day first, and a month is tried before a
    day. -/
theorem absolute?_number (hc : c ∈ marks) {a b : Char} (hb : isDigit b = true) (rest : Text) :
    absolute? (a :: b :: c :: rest) = (inLayout? (a :: b :: c :: rest) (monthFirst c)).or
      (inLayout? (a :: b :: c :: rest) (dayFirst c)) := by
  have hmark : isDigit c = false := Bool.eq_false_iff.mpr fun hdigit => ne_mark hdigit hc rfl
  have hyear : ∀ c', inLayout? (a :: b :: c :: rest) (yearFirst c') = none := by
    intro c'
    refine inLayout?_yearFirst (Or.inl ?_)
    simp [hmark]
  have hone : ∀ c' ∈ marks, (a :: b :: c :: rest)[1]? ≠ some c' :=
    fun c' hc' e => ne_mark hb hc' (Option.some.inj e)
  have htwo : ∀ c', c' ≠ c → (a :: b :: c :: rest)[2]? ≠ some c' :=
    fun c' hne e => hne (Option.some.inj e).symm
  unfold absolute?
  rw [layouts_eq]
  simp only [List.findSome?_cons, List.findSome?_nil, hyear]
  rcases (show c = '-' ∨ c = '/' by simpa [marks] using hc) with rfl | rfl
  · rw [inLayout?_monthFirst (hone '/' (by decide)) (htwo '/' (by decide)),
      inLayout?_dayFirst (hone '/' (by decide)) (htwo '/' (by decide))]
    cases inLayout? (a :: b :: '-' :: rest) (monthFirst '-') with
    | some m => rfl
    | none => cases inLayout? (a :: b :: '-' :: rest) (dayFirst '-') <;> rfl
  · rw [inLayout?_monthFirst (hone '-' (by decide)) (htwo '-' (by decide)),
      inLayout?_dayFirst (hone '-' (by decide)) (htwo '-' (by decide))]
    cases inLayout? (a :: b :: '/' :: rest) (monthFirst '/') with
    | some m => rfl
    | none => cases inLayout? (a :: b :: '/' :: rest) (dayFirst '/') <;> rfl

end Refused

/-! ## 6. Dates -/

/-- What starts with a month or a day of two digits is read as a month first, and else as a day
    first. -/
theorem absolute?_write_number {c : Char} (hc : c ∈ marks) {n : Nat} (hn : n < 100) (rest : Text) :
    absolute? (ofNatPadded 2 n ++ c :: rest) =
      (inLayout? (ofNatPadded 2 n ++ c :: rest) (monthFirst c)).or
        (inLayout? (ofNatPadded 2 n ++ c :: rest) (dayFirst c)) := by
  rw [padded_two hn]
  exact absolute?_number hc (isDigit_of_isAsciiDigit (isAsciiDigit_digitChar (by omega))) rest

section Dates

variable {c : Char} (hc : c ∈ marks) (h : d.IsValid)
include hc h

theorem absolute?_write_yearFirst :
    absolute? (write (yearFirst c) d) = Moment.ofDate? d := by
  have hsplit : write (yearFirst c) d =
      ofNatPadded 4 d.year ++ c :: write [.month, .mark c, .day] d := rfl
  have hdigits : ∀ b ∈ ofNatPadded 4 d.year, isDigit b = true := fun b hb =>
    isDigit_of_isAsciiDigit (isDigits_padded b hb)
  rw [← inLayout?_write h (yearFirst c) fun _ => rfl, hsplit,
    absolute?_year hc (length_padded (by decide) h.fits.1) hdigits]

theorem absolute?_write_monthFirst :
    absolute? (write (monthFirst c) d) = Moment.ofDate? d := by
  have hsplit : write (monthFirst c) d =
      ofNatPadded 2 d.month ++ c :: write [.day, .mark c, .year] d := rfl
  have hread := inLayout?_write h (monthFirst c) fun _ => rfl
  obtain ⟨m, hm, -⟩ := Moment.exists_ofDate? h
  rw [hsplit] at hread ⊢
  rw [absolute?_write_number hc h.fits.2.1, hread, hm]
  rfl

theorem absolute?_write_dayFirst (hlate : 12 < d.day) :
    absolute? (write (dayFirst c) d) = Moment.ofDate? d := by
  have hsplit : write (dayFirst c) d =
      ofNatPadded 2 d.day ++ c :: write [.month, .mark c, .year] d := rfl
  have hread := inLayout?_write h (dayFirst c) fun _ => rfl
  have hlast : d.day ≤ 31 := Nat.le_trans h.2.2.2.2.2 (Date.daysInMonth_le _ _)
  rw [hsplit] at hread ⊢
  have hrefused : inLayout? (ofNatPadded 2 d.day ++ c :: write [.month, .mark c, .year] d)
      (monthFirst c) = none := by
    refine inLayout?_eq_none (List.flatMap_eq_nil_iff.mpr fun x hx => readings_mark ?_ _ _)
    rw [monthAt_late hlate hlast, List.mem_singleton] at hx
    have hdigit : isDigit (d.day % 10).digitChar = true :=
      isDigit_of_isAsciiDigit (isAsciiDigit_digitChar (by omega))
    rw [hx]
    exact fun e => ne_mark hdigit hc (Option.some.inj e)
  rw [absolute?_write_number hc h.fits.2.2, hrefused, hread]
  rfl

end Dates

/-! ## 7. Texts -/

/-- What is written of a date are digits, and the marks of the layout. -/
theorem mem_write {b : Char} : ∀ {layout : List Piece}, b ∈ write layout d →
    isDigit b = true ∨ b ∈ marksOf layout
  | [], hb => absurd hb List.not_mem_nil
  | piece :: more, hb => by
      have number : ∀ width n, b ∈ ofNatPadded width n ++ write more d →
          isDigit b = true ∨ b ∈ marksOf more := by
        intro width n hb
        rcases List.mem_append.mp hb with hb | hb
        · exact Or.inl (isDigit_of_isAsciiDigit (isDigits_padded b hb))
        · exact mem_write hb
      cases piece with
      | year => exact number _ _ hb
      | month => exact number _ _ hb
      | day => exact number _ _ hb
      | mark c =>
          rcases List.mem_cons.mp (show b ∈ c :: write more d from hb) with rfl | hb
          · exact Or.inr List.mem_cons_self
          · exact (mem_write hb).imp_right (List.mem_cons_of_mem c)

/-- A date that was written is read as its start, if the layouts find that. -/
theorem read_write (now : Moment) {layout : List Piece} {m : Moment}
    (hmarks : ∀ b ∈ marksOf layout, b ∈ marks) (hm : absolute? (write layout d) = some m) :
    read now (write layout d) = .ok (some m) := by
  have hblank : ∀ b ∈ marks, isBlank b = false := forall_mem_of_all (by decide)
  have hstrip : strip (write layout d) = write layout d := strip_of_forall fun b hb =>
    (mem_write hb).elim not_isBlank_of_isDigit fun hmark => hblank b (hmarks b hmark)
  unfold read
  dsimp only
  rw [hstrip, hm]

theorem dateText_eq (d : Date) : Moment.dateText d = write (yearFirst '-') d := by
  simp [Moment.dateText, write, yearFirst, Piece.write]

/-- A date is written with digits and hyphens. -/
theorem mem_dateText {b : Char} (h : b ∈ Moment.dateText d) : isDigit b = true ∨ b = '-' := by
  have hmarks : ∀ b ∈ marksOf (yearFirst '-'), b = '-' := forall_mem_of_all (by decide)
  rw [dateText_eq] at h
  exact (mem_write h).imp_right (hmarks b)

/-- The date of a midnight, written out, is read as the midnight. -/
theorem read_dateText (now : Moment) {day : Moment} (hday : day.IsMidnight) :
    read now (Moment.dateText day.date) = .ok (some day) := by
  have hvalid : day.date.IsValid := Date.isValid_ofOrdinal day.ordinal_lt
  obtain ⟨m, hm, hstarts, -⟩ := Moment.exists_ofDate? hvalid
  rw [Moment.date, Date.toOrdinal_ofOrdinal] at hstarts
  obtain rfl : m = day := hstarts.eq hday.startsDay
  rw [dateText_eq]
  have hmarks : ∀ b ∈ marksOf (yearFirst '-'), b ∈ marks := forall_mem_of_all (by decide)
  exact read_write now hmarks ((absolute?_write_yearFirst (by decide) hvalid).trans hm)

/-- A date whose day is no later than the twelfth is a date with month and day exchanged. -/
theorem isValid_exchanged (h : d.IsValid) (hday : d.day ≤ 12) :
    (⟨d.year, d.day, d.month⟩ : Date).IsValid := by
  obtain ⟨hyear, hyear', hmonth, hmonth', hpos, -⟩ := h
  have hlength := Date.le_daysInMonth d.year hpos hday
  refine ⟨hyear, hyear', hpos, hday, hmonth, ?_⟩
  show d.month ≤ Date.daysInMonth d.year d.day
  omega

/-- With the day first, a date is written as the one with month and day exchanged is with the month
    first. -/
theorem write_dayFirst (c : Char) (d : Date) :
    write (dayFirst c) d = write (monthFirst c) ⟨d.year, d.day, d.month⟩ := by
  simp only [write, dayFirst, monthFirst, List.flatMap_cons, List.flatMap_nil, Piece.write]

/-- **Dates are read back.** At any time, each date of the calendar has a midnight that is read from
    the date with the year first and from the date with the month first, with hyphens or slashes
    between the numbers. With the day first it is read as well, unless the day could be a month and
    is not the month itself: then month and day are exchanged, and the midnight of that other date
    is read. -/
theorem read_written (now : Moment) {d : Date} (h : d.IsValid) :
    ∃ m : Moment, m.IsMidnight ∧ m.date = d ∧ ∀ c ∈ marks,
      read now (write (yearFirst c) d) = .ok (some m) ∧
      read now (write (monthFirst c) d) = .ok (some m) ∧
      (12 < d.day ∨ d.day = d.month → read now (write (dayFirst c) d) = .ok (some m)) ∧
      (¬ (12 < d.day ∨ d.day = d.month) → ∃ m' : Moment, m'.IsMidnight ∧
        m'.date = ⟨d.year, d.day, d.month⟩ ∧
        read now (write (dayFirst c) d) = .ok (some m')) := by
  obtain ⟨m, hm, hstarts, hdate⟩ := Moment.exists_ofDate? h
  refine ⟨m, hstarts.isMidnight, hdate, fun c hc => ?_⟩
  have hmarks : ∀ b ∈ [c, c], b ∈ marks := by simp [hc]
  refine ⟨?_, ?_, fun hday => ?_, fun hday => ?_⟩
  · exact read_write now hmarks ((absolute?_write_yearFirst hc h).trans hm)
  · exact read_write now hmarks ((absolute?_write_monthFirst hc h).trans hm)
  · refine read_write now hmarks ?_
    rcases hday with hlate | hsame
    · exact (absolute?_write_dayFirst hc h hlate).trans hm
    · have hexchanged : (⟨d.year, d.day, d.month⟩ : Date) = d := by
        cases d
        simp_all
      rw [write_dayFirst, hexchanged]
      exact (absolute?_write_monthFirst hc h).trans hm
  · obtain ⟨hearly, -⟩ := not_or.mp hday
    have hvalid := isValid_exchanged h (Nat.le_of_not_lt hearly)
    obtain ⟨m', hm', hstarts', hdate'⟩ := Moment.exists_ofDate? hvalid
    rw [write_dayFirst]
    exact ⟨m', hstarts'.isMidnight, hdate',
      read_write now hmarks ((absolute?_write_monthFirst hc hvalid).trans hm')⟩

/-- The third of April 2024 is read from `2024-04-03`, and with the day first as the fourth of
    March. -/
theorem read_written_third_of_april :
    (⟨2024, 4, 3⟩ : Date).IsValid ∧ ∃ m m' : Moment, m.date = ⟨2024, 4, 3⟩ ∧
      m'.date = ⟨2024, 3, 4⟩ ∧
      read default "2024-04-03".toList = .ok (some m) ∧
      read default "03/04/2024".toList = .ok (some m') := by
  have hvalid : (⟨2024, 4, 3⟩ : Date).IsValid := by decide
  obtain ⟨m, -, hdate, hread⟩ := read_written default hvalid
  obtain ⟨hyear, -⟩ := hread '-' (by decide)
  obtain ⟨-, -, -, hday⟩ := hread '/' (by decide)
  obtain ⟨m', -, hdate', hexchanged⟩ := hday (by decide)
  have hhyphens : write (yearFirst '-') ⟨2024, 4, 3⟩ = "2024-04-03".toList := by decide +kernel
  have hslashes : write (dayFirst '/') ⟨2024, 4, 3⟩ = "03/04/2024".toList := by decide +kernel
  rw [hhyphens] at hyear
  rw [hslashes] at hexchanged
  exact ⟨hvalid, m, m', hdate, hdate', hyear, hexchanged⟩

end Worklog.Day
